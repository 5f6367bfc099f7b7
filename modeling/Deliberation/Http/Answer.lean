import Deliberation.Encoding.Basic
import Deliberation.Http.Chunked
import Deliberation.Http.MediaType
/-! Answers as they come in over a connection, after HTTP/1.1. A connection is used for one request.
Interim answers may come before the answer, whose body is counted, comes in chunks, or ends with the
connection. -/

namespace Deliberation.Http

inductive Body where
  | whole (bytes : List UInt8)
  /-- What came in is no body, or the connection broke, or the time was over before all of it came. -/
  | broken
deriving DecidableEq, Repr, Inhabited

structure Answer where
  status : UInt16
  headers : List Header
  body : Body
deriving DecidableEq, Repr, Inhabited

inductive Exchange where
  | answered (answer : Answer)
  /-- The connection ended before an answer began. -/
  | dropped
  /-- No answer began in time. -/
  | hung
deriving DecidableEq, Repr, Inhabited

/-- The first header of a name, where its value can be read as a text. -/
def Answer.header? (a : Answer) (name : String) : Option (List Char) :=
  match values a.headers name with
  | value :: _ => if value.all isPrintable then some value else none
  | [] => none

def Answer.encoding (a : Answer) : Encoding :=
  (((a.header? "content-type").bind fun value => parameter? value "charset").bind
    Encoding.ofLabel?).getD .utf8

/-- The text of the body of an answer. A broken body counts as empty. -/
def Answer.text (a : Answer) : String :=
  match a.body with
  | .whole bytes => a.encoding.text bytes
  | .broken => ""

def skipEmpty : List UInt8 → List UInt8
  | 13 :: 10 :: rest => skipEmpty rest
  | 10 :: rest => skipEmpty rest
  | bytes => bytes

theorem skipEmpty_length_le (bytes : List UInt8) : (skipEmpty bytes).length ≤ bytes.length := by
  fun_induction skipEmpty bytes with
  | case1 rest ih =>
    rw [List.length_cons, List.length_cons]
    omega
  | case2 rest ih =>
    rw [List.length_cons]
    omega
  | case3 => exact Nat.le_refl _

structure Head where
  /-- Whether the answer is one of HTTP/1.0. -/
  legacy : Bool
  status : UInt16
  headers : List Header
deriving DecidableEq, Repr

/-- The version, of which the flag tells the older one, and the status in the first line. A status
has three digits, the first of which is no zero. -/
def statusLine? (line : List Char) : Option (Bool × UInt16) := do
  let (legacy, rest) ← match Text.after? "HTTP/1.1 ".toList line with
    | some rest => some (false, rest)
    | none => (Text.after? "HTTP/1.0 ".toList line).map fun rest => (true, rest)
  let status := Numeral.digitsValue (rest.take 3)
  let reason := rest.drop 3
  if (rest.take 3).length = 3 ∧ (rest.take 3).all Numeral.isDigit ∧ 100 ≤ status ∧
      (reason = [] ∨ reason.head? = some ' ') ∧ reason.all isHeadText then
    some (legacy, UInt16.ofNat status)
  else none

def mostHeaders : Nat :=
  100

def Head.ofLines? : List (List Char) → Option Head
  | [] => none
  | first :: rest => do
    let (legacy, status) ← statusLine? first
    some ⟨legacy, status, ← headers? mostHeaders rest⟩

/-- An interim answer comes before another one. -/
def Head.isInterim (head : Head) : Bool :=
  100 ≤ head.status && head.status < 200 && head.status != 101

inductive Framing where
  | counted (size : Nat)
  | chunked
  | untilEnd
deriving DecidableEq, Repr

def longestBody : Nat :=
  UInt64.size - 3

/-- The number that a value states, once or more often. -/
def count? (values : List (List Char)) : Option Nat :=
  match values.flatMap listed with
  | [] => none
  | first :: others =>
    let size := Numeral.digitsValue first
    if values.all (·.all isPrintable) && size ≤ longestBody &&
        (first :: others).all fun digits =>
          digits ≠ [] && digits.all Numeral.isDigit && Numeral.digitsValue digits == size then
      some size
    else none

/-- Whether the last coding of a body is the one in chunks. -/
def isChunked (codings : List Char) : Bool :=
  codings.all isPrintable &&
    (listed codings).getLast?.any fun coding => coding.map Char.toLower = "chunked".toList

/-- The framing that a head states. Switching protocols, answers without content and answers about
unchanged content have no body. HTTP/1.0 knows no codings, and all counts agree. -/
def Head.framing? (head : Head) : Option Framing :=
  if head.status = 101 ∨ head.status = 204 ∨ head.status = 304 then some (.counted 0)
  else match (values head.headers "transfer-encoding").getLast? with
    | some codings =>
      if head.legacy then none
      else if isChunked codings then some .chunked
      else some .untilEnd
    | none =>
      match values head.headers "content-length" with
      | [] => some .untilEnd
      | counts => (count? counts).map .counted

/-- The body that begins with some bytes, once it is over. The flag says whether the connection has
ended. -/
def Framing.body? (closed : Bool) (rest : List UInt8) : Framing → Option Body
  | .counted size => if size ≤ rest.length then some (.whole (rest.take size)) else none
  | .chunked =>
    match ({} : ChunkReader).run rest with
    | none => some .broken
    | some reader =>
      if reader.place = .finished then
        some (if reader.areTrailersReadable then .whole reader.body.reverse else .broken)
      else none
  | .untilEnd => if closed then some (.whole rest) else none

/-- What is known of an answer while it comes in. -/
inductive Progress where
  /-- The head is not complete. -/
  | head
  /-- What came in is no answer. -/
  | malformed
  /-- The body is not complete. -/
  | body (head : Head)
  | complete (answer : Answer)
deriving DecidableEq, Repr

/-- Whether the head of an answer may begin with some characters. A carriage return alone may be that of
an empty line before it. -/
def mayBegin (start : List Char) : Bool :=
  start == ['\r'] || start.take 7 == "HTTP/1.".toList.take start.length

/-- How far an answer has come in. The flag says whether the connection has ended. -/
def progress (closed : Bool) (bytes : List UInt8) : Progress :=
  match _h : lines? (skipEmpty bytes) with
  | none => if mayBegin (chars (skipEmpty bytes)) then .head else .malformed
  | some (lines, rest) =>
    match Head.ofLines? lines with
    | none => .malformed
    | some head =>
      if head.isInterim then progress closed rest
      else match head.framing? with
        | none => .malformed
        | some framing =>
          match framing.body? closed rest with
          | some body => .complete ⟨head.status, head.headers, body⟩
          | none => .body head
termination_by bytes.length
decreasing_by
  have := lines?_length_lt _h
  have := skipEmpty_length_le bytes
  omega

/-- The exchange of an answer of which no more comes in. `late` says that the time was over, and not
the connection. -/
def Progress.exchange (late : Bool) : Progress → Exchange
  | .head => if late then .hung else .dropped
  | .malformed => .dropped
  | .body start => .answered ⟨start.status, start.headers, .broken⟩
  | .complete answer => .answered answer

def exchangeOf (bytes : List UInt8) : Exchange :=
  (progress true bytes).exchange false

/-- The bytes of an answer with a counted body. Any number can be sent as its status. -/
def bytesOfAnswer (status : Nat) (body : String) : List UInt8 :=
  ("HTTP/1.1 " ++ toString status ++ " Answer\r\nContent-Type: application/json\r\nContent-Length: " ++
    toString body.utf8ByteSize ++ "\r\n\r\n" ++ body).toUTF8.toList

end Deliberation.Http
