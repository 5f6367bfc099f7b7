import Deliberation.Json.Basic
import Deliberation.Numeric.Hexadecimal
import Deliberation.Numeric.Shortest
/-! Writing JSON text, on one line or indented by two blanks. -/

namespace Deliberation.Json

/-- A character inside a string: quotes, backslashes and control characters are escaped. -/
def escapeChar (c : Char) : String :=
  match c with
  | '"' => "\\\""
  | '\\' => "\\\\"
  | '\x08' => "\\b"
  | '\x0c' => "\\f"
  | '\n' => "\\n"
  | '\r' => "\\r"
  | '\t' => "\\t"
  | c =>
    if c.toNat < 0x20 then
      "\\u00" ++ String.ofList (Hexadecimal.byte (UInt8.ofNat c.toNat))
    else c.toString

def quote (text : String) : String :=
  "\"" ++ String.join (text.toList.map escapeChar) ++ "\""

def Number.text : Number → String
  | .integer n => toString n
  | .real x =>
    match Binary64.value x with
    | .finite negative significand shift => Shortest.recordText negative significand shift
    | _ => "null"

mutual

def compact : Json → String
  | .null => "null"
  | .bool b => if b then "true" else "false"
  | .number n => n.text
  | .string s => quote s
  | .array items => "[" ++ ",".intercalate (compactItems items) ++ "]"
  | .object members => "\x7b" ++ ",".intercalate (compactMembers members) ++ "\x7d"
  | .unreadable => "null"

def compactItems : List Json → List String
  | [] => []
  | item :: rest => compact item :: compactItems rest

def compactMembers : List (String × Json) → List String
  | [] => []
  | (key, value) :: rest => (quote key ++ ":" ++ compact value) :: compactMembers rest

end

/-- Entries on lines of their own between brackets, or the bare brackets. -/
def block (left right indent : String) (entries : List String) : String :=
  if entries.isEmpty then left ++ right
  else left ++ "\n" ++ ",\n".intercalate (entries.map (indent ++ "  " ++ ·)) ++ "\n" ++ indent ++ right

mutual

/-- The value over several lines, each nested line behind the given indent. -/
def prettyAt (indent : String) : Json → String
  | .array items => block "[" "]" indent (prettyItems (indent ++ "  ") items)
  | .object members => block "\x7b" "\x7d" indent (prettyMembers (indent ++ "  ") members)
  | value => compact value

def prettyItems (indent : String) : List Json → List String
  | [] => []
  | item :: rest => prettyAt indent item :: prettyItems indent rest

def prettyMembers (indent : String) : List (String × Json) → List String
  | [] => []
  | (key, value) :: rest => (quote key ++ ": " ++ prettyAt indent value) :: prettyMembers indent rest

end

def pretty (value : Json) : String :=
  prettyAt "" value

end Deliberation.Json
