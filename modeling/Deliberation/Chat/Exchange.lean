import Deliberation.Chat.Endpoint
import Deliberation.Chat.Message
import Deliberation.Json.Text
/-! One attempt at a request: sending it over a network, and what the exchange at the end means. -/

namespace Deliberation.Chat

def isSuccess (status : UInt16) : Bool :=
  200 ≤ status && status < 300

def undecodable : BackendError :=
  .invalidResponse "Failed to parse response: error decoding response body"

/-- The response that a body holds. It has to be JSON of that form, with a choice. -/
def Response.ofBody : Http.Body → Except BackendError Response
  | .broken => .error undecodable
  | .whole bytes =>
    match ((String.fromUTF8? ⟨bytes.toArray⟩).bind Json.parse?).bind Response.ofJson? with
    | none => .error undecodable
    | some response =>
      if response.choices.isEmpty then .error (.invalidResponse "Response contained no choices")
      else .ok response

namespace Endpoint

def judge (e : Endpoint) : Http.Exchange → Except BackendError Response
  | .dropped => .error (.http (.unsendable e.destination))
  | .hung => .error (.timeout e.timeoutMs)
  | .answered answer =>
    if isSuccess answer.status then Response.ofBody answer.body
    else .error (.api answer.status answer.text)

def faultOf (e : Endpoint) : Http.RedirectFault → HttpFault
  | .unreadable => .unusable e.destination
  | .unusable url => .unusable url
  | .endless url => .endless url

def conclude (e : Endpoint) : Except Http.RedirectFault Http.Exchange → Except BackendError Response
  | .ok exchange => e.judge exchange
  | .error fault => .error (.http (e.faultOf fault))

/-- An attempt at a request. Nothing is sent where no request can be built. -/
def attemptWith {m : Type → Type} [Monad m] (e : Endpoint) (send : Http.Request → m Http.Exchange) :
    Except HttpFault Http.Request → m (Except BackendError Response)
  | .error fault => return .error (.http fault)
  | .ok request => return e.conclude (← Http.followWith send Http.mostRedirects request)

def attempt {σ : Type} (e : Endpoint) (network : σ → Http.Request → Http.Exchange × σ)
    (request : Except HttpFault Http.Request) (state : σ) : Except BackendError Response × σ :=
  (e.attemptWith (m := StateM σ) (fun request state => network state request) request).run state

end Endpoint

end Deliberation.Chat
