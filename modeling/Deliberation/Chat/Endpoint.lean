import Deliberation.Error
import Deliberation.Http.Credentials
import Deliberation.Http.Redirect
/-! Endpoints: where and how a client sends its requests, and whether a request can be built at all. -/

namespace Deliberation.Chat

structure Endpoint where
  baseUrl : String
  apiKey : Option String
  model : String
  timeoutMs : UInt64
  maxRetries : UInt32
  retryDelayMs : UInt64
deriving DecidableEq, Repr

/-- Whether requests can go to a URL: it is one of the web and not too long, and its host is no name
with quotes or braces. -/
def isSendable (url : Url) : Bool :=
  (url.scheme == "http" || url.scheme == "https") &&
    url.text.utf8ByteSize ≤ Http.longestIdentifier &&
    match url.host with
    | some (.name name) => !name.toList.any fun c => "\"\x60\x7b\x7d".toList.contains c
    | _ => true

/-- Whether a header may hold a text: it has no control characters but tabs. -/
def isHeaderText (text : String) : Bool :=
  text.toList.all fun c => c = '\t' || (0x20 ≤ c.toNat && c.toNat ≠ 0x7F)

namespace Endpoint

def root (e : Endpoint) : String :=
  String.ofList (Text.dropEndWhile (· = '/') e.baseUrl.toList)

def url (e : Endpoint) : String :=
  e.root ++ "/chat/completions"

/-- The address of a chat completion as it is shown, in its one written form where it is a URL, and
without the credentials in it. -/
def destination (e : Endpoint) : String :=
  ((Url.parse? e.url).map fun url => url.withoutCredentials.text).getD e.url

/-- The address of a chat completion with the credentials in it, where requests to it can be built. A
URL without a host shows before a bad key, and any other URL to which no request can go after it. -/
def address (e : Endpoint) : Except HttpFault Url :=
  match Url.parse? e.url with
  | none => .error .unbuildable
  | some url =>
    if !url.hasHost then .error (.unusable e.destination)
    else if !e.apiKey.all isHeaderText then .error .unbuildable
    else if isSendable url.withoutCredentials then .ok url
    else .error (.unusable e.destination)

/-- The key as credentials, where there is one. A header has no blanks at its end. -/
def authorization (e : Endpoint) : Option String :=
  e.apiKey.map fun key =>
    String.ofList (Text.dropEndWhile (fun c => c = ' ' || c = '\t') ("Bearer " ++ key).toList)

/-- The request for a chat completion with some content. Credentials in the address come before the
key. -/
def request (e : Endpoint) (content : Json) : Except HttpFault Http.Request :=
  match e.address with
  | .error fault => .error fault
  | .ok url =>
    let basic := url.credentials?.map fun (name, word) => Http.basic name (word.getD "")
    .ok (.ofUrl url.withoutCredentials (basic.toList ++ e.authorization.toList) (some content))

end Endpoint

end Deliberation.Chat
