import Deliberation.Config
import Deliberation.Json.Printer
import Deliberation.Time.Timestamp
/-! The log of the program: which notices it shows, and the line of each. -/

namespace Deliberation

inductive LogLevel where
  | off
  | error
  | all
deriving DecidableEq, Repr

namespace LogLevel

/-- The level with a name, read without regard to case. All levels below errors show every notice,
and a text that names no level means errors. -/
def ofText (text : String) : LogLevel :=
  let name := Text.lowercased text
  if name = "off" then .off
  else if name ∈ ["warn", "info", "debug", "trace"] then .all
  else .error

def shows (level : LogLevel) (n : Notice) : Bool :=
  match level with
  | .off => false
  | .error => n.isError
  | .all => true

end LogLevel

/-- Where notices go: how much is shown, and in which form. -/
structure Log where
  level : LogLevel
  format : LogFormat
deriving DecidableEq, Repr

def Config.log (c : Config) : Log where
  level := .ofText c.logLevel
  format := c.logFormat

namespace Log

/-- The value of a field in a pretty line. Texts stand without quotes. -/
def fieldText : Json → String
  | .string text => text
  | value => value.compact

def line (log : Log) (n : Notice) (now : Instant) : String :=
  match log.format with
  | .json =>
    (Json.object [
      ("timestamp", .ofInstant now),
      ("level", .string n.severity),
      ("fields", .object (("message", .string n.message) :: n.fields))]).compact ++ "\n"
  | .pretty =>
    Timestamp.text now ++ " " ++ "".pushn ' ' (5 - n.severity.length) ++ n.severity ++ " " ++
      n.message ++ String.join (n.fields.map fun f => " " ++ f.1 ++ "=" ++ fieldText f.2) ++ "\n"

def lines (log : Log) (notices : List Notice) (now : Instant) : String :=
  String.join ((notices.filter log.level.shows).map fun n => log.line n now)

end Log

end Deliberation
