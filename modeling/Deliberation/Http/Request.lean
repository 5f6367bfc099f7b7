import Deliberation.Json.Printer
import Deliberation.Url.Reference
/-! Requests as they go over a connection, after HTTP/1.1. -/

namespace Deliberation.Http

/-- A request, which posts its content, where it has one, and else asks for what is there. -/
structure Request where
  url : Url
  /-- The scheme and the place of the URL, as they were written. -/
  origin : String
  /-- The path and the query, as they were written. -/
  target : String
  /-- The credentials, which may be more than one. -/
  authorization : List String
  content : Option Json

namespace Request

def ofUrl (url : Url) (authorization : List String) (content : Option Json) : Request where
  url := url
  origin := url.scheme ++ ":" ++ url.place
  target := url.target
  authorization := authorization
  content := content

def method (r : Request) : String :=
  if r.content.isSome then "POST" else "GET"

def identifier (r : Request) : String :=
  r.origin ++ r.target

def text (r : Request) : String :=
  let body := (r.content.map Json.compact).getD ""
  let lines := [r.method ++ " " ++ r.target ++ " HTTP/1.1", "Host: " ++ r.url.authority] ++
    (if r.content.isSome then
      ["Content-Type: application/json", "Content-Length: " ++ toString body.utf8ByteSize]
    else []) ++
    r.authorization.map ("Authorization: " ++ ·) ++ ["Connection: close"]
  String.join (lines.map (· ++ "\r\n")) ++ "\r\n" ++ body

end Request

end Deliberation.Http
