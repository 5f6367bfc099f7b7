/-! The errors of the library: of building a catalog, of calling a backend, and of starting the
program. -/

namespace Deliberation

/-- Why a list of policies or overrides gives no catalog. -/
inductive CatalogError where
  | missingStrategy (name : String)
  | duplicateStrategy (name : String)
  | invalidPolicy (name reason : String)
deriving DecidableEq, Repr

def CatalogError.message : CatalogError → String
  | .missingStrategy name => "Missing policy for strategy: " ++ name
  | .duplicateStrategy name => "Duplicate policy for strategy: " ++ name
  | .invalidPolicy name reason => "Invalid policy for " ++ name ++ ": " ++ reason

/-- Why an exchange over the network has no answer. -/
inductive HttpFault where
  /-- The address or the credentials are not valid. -/
  | unbuildable
  /-- The address is a URL to which no request can go. -/
  | unusable (url : String)
  /-- The connection to the address failed. -/
  | unsendable (url : String)
  /-- The address leads to another one, like too many before it. -/
  | endless (url : String)
deriving DecidableEq, Repr

def HttpFault.message : HttpFault → String
  | .unbuildable => "builder error"
  | .unusable url => "builder error for url (" ++ url ++ ")"
  | .unsendable url => "error sending request for url (" ++ url ++ ")"
  | .endless url => "error following redirect for url (" ++ url ++ ")"

inductive BackendError where
  | unavailable (message : String) (retries : UInt32)
  | api (status : UInt16) (message : String)
  | invalidResponse (message : String)
  | timeout (milliseconds : UInt64)
  | http (fault : HttpFault)
deriving DecidableEq, Repr

def BackendError.message : BackendError → String
  | .unavailable message retries =>
    "LLM unavailable: " ++ message ++ " (retries: " ++ toString retries.toNat ++ ")"
  | .api status message => "API error: " ++ toString status.toNat ++ " - " ++ message
  | .invalidResponse message => "Invalid response: " ++ message
  | .timeout milliseconds => "Request timeout after " ++ toString milliseconds.toNat ++ "ms"
  | .http fault => "HTTP error: " ++ fault.message

inductive AppError where
  | config (message : String)
  | catalog (error : CatalogError)
  | backend (error : BackendError)
deriving DecidableEq, Repr

def AppError.message : AppError → String
  | .config message => "Configuration error: " ++ message
  | .catalog error => "Strategy catalog error: " ++ error.message
  | .backend error => "LLM error: " ++ error.message

end Deliberation
