import Deliberation.Chat.Backend
import Deliberation.Log
/-! The command line: its grammar, what a command needs from the configuration, and its output. -/

namespace Deliberation

inductive Command where
  | run (task : String) (mode : Mode) (strategy : Option Strategy) (maxEscalations : Option UInt32)
    (json : Bool)
  | strategies
  | classify (task : String)
  | help
  | version
deriving DecidableEq, Repr

namespace CommandLine

/-- Arguments as they are read: the positional ones, and the options with their values. An option
that takes no value has an empty one. -/
structure Arguments where
  positional : List String := []
  options : List (String × String) := []
deriving DecidableEq, Repr

/-- Whether an option takes a value, where the option is known. -/
abbrev Options := List (String × Bool)

def Arguments.value? (a : Arguments) (name : String) : Option String :=
  (a.options.find? fun o => o.1 == name).map Prod.snd

/-- What the arguments of a command come to: a request for help ends the reading. -/
inductive Reading where
  | arguments (a : Arguments)
  | help
deriving DecidableEq, Repr

abbrev Check := String → String → Bool

/-- Adds an option, which may stand only once and must have a valid value. -/
def Arguments.add? (a : Arguments) (check : Check) (name value : String) : Option Arguments :=
  if (a.value? name).isNone && check name value then
    some { a with options := a.options ++ [(name, value)] }
  else none

/-- Adds a positional argument, of which there may be at most `limit`. -/
def Arguments.addPositional? (a : Arguments) (limit : Nat) (text : String) : Option Arguments :=
  if a.positional.length < limit then some { a with positional := a.positional ++ [text] } else none

/-- Whether a text stands for itself and opens no option. A lone hyphen does. -/
def isPlain (text : String) : Bool :=
  match text.toList with
  | '-' :: _ :: _ => false
  | _ => true

/-- Whether a text asks for help. Letters behind the short form are not looked at. -/
def asksForHelp (text : String) : Bool :=
  text == "--help" || (Text.after? "-h".toList text.toList).isSome

def asksForVersion (text : String) : Bool :=
  text == "--version" || (Text.after? "-V".toList text.toList).isSome

/-- Reads the arguments of a command from left to right, adding to what was read before. Two hyphens
end the options. -/
def read (options : Options) (check : Check) (limit : Nat) (a : Arguments) :
    List String → Option Reading
  | [] => some (.arguments a)
  | text :: rest =>
    if text == "--" then
      (rest.foldlM (fun (a : Arguments) text => a.addPositional? limit text) a).map .arguments
    else if asksForHelp text then some .help
    else match Text.after? "--".toList text.toList with
      | some body =>
        match Text.cut? '=' body with
        | some (name, value) =>
          match options.find? fun o => o.1 == String.ofList name with
          | some (name, true) => do read options check limit (← a.add? check name (String.ofList value)) rest
          | _ => none
        | none =>
          match options.find? fun o => o.1 == String.ofList body with
          | some (name, false) => do read options check limit (← a.add? check name "") rest
          | some (name, true) =>
            match rest with
            | value :: rest =>
              if isPlain value then do read options check limit (← a.add? check name value) rest
              else none
            | [] => none
          | none => none
      | none =>
        if isPlain text then do read options check limit (← a.addPositional? limit text) rest
        else none

/-- The number of an escalation budget, which may have a sign. -/
def budget? (text : String) : Option UInt32 :=
  match text.toList with
  | '-' :: digits =>
    if digits ≠ [] ∧ digits.all (· = '0') then some 0 else none
  | chars => Numeral.uint32? chars

def isValid : Check := fun name value =>
  match name with
  | "mode" => (Mode.parse value).toOption.isSome
  | "strategy" => (Strategy.parse value).toOption.isSome
  | "max-escalations" => (budget? value).isSome
  | _ => true

def runOptions : Options :=
  [("mode", true), ("strategy", true), ("max-escalations", true), ("json", false)]

def runCommand? (a : Arguments) : Option Command := do
  let task ← a.positional.head?
  let mode ← (Mode.parse ((a.value? "mode").getD Mode.adaptive.name)).toOption
  some (.run task mode ((a.value? "strategy").bind fun text => (Strategy.parse text).toOption)
    ((a.value? "max-escalations").bind budget?) (a.value? "json").isSome)

def build? (options : Options) (limit : Nat) (make? : Arguments → Option Command)
    (args : List String) : Option Command := do
  match ← read options isValid limit {} args with
  | .help => some .help
  | .arguments a => make? a

def names : List String :=
  ["run", "strategies", "classify", "help"]

/-- The command that the arguments of the program state, where they keep to the grammar. -/
def parse? : List String → Option Command
  | [] => none
  | "run" :: args => build? runOptions 1 runCommand? args
  | "strategies" :: args => build? [] 0 (fun _ => some .strategies) args
  | "classify" :: args => build? [] 1 (fun a => a.positional.head?.map .classify) args
  | "help" :: args =>
    match args with
    | [] => some .help
    | [name] => if name ∈ names then some .help else none
    | _ => none
  | text :: _ =>
    if asksForHelp text then some .help
    else if asksForVersion text then some .version
    else none

end CommandLine

def Policy.listing (p : Policy) : String :=
  let iterations := toString p.maxIterations.toNat
  p.strategy.name ++ " iterations=" ++ iterations ++ "".pushn ' ' (3 - iterations.length) ++
    " temperature=" ++ Fixed.text 1 p.temperature ++ " timeout=" ++ Shortest.text p.timeoutSeconds ++
    "s  " ++ p.description

def Catalog.listing (c : Catalog) : String :=
  String.join (c.policies.map fun p => p.listing ++ "\n")

def Complexity.report (c : Complexity) : String :=
  "complexity: " ++ c.name ++ "\nstrategy:   " ++ c.initialStrategy.name ++ "\n"

def Config.endpoint (c : Config) : Chat.Endpoint where
  baseUrl := c.baseUrl
  apiKey := c.apiKey
  model := c.model
  timeoutMs := c.timeoutMs
  maxRetries := c.maxRetries
  retryDelayMs := c.retryDelayMs

/-- What is left to do once the arguments and the configuration are read. -/
inductive Job where
  /-- Put out a text. -/
  | display (text : String)
  /-- Run a task over an endpoint and show the outcome. -/
  | run (task : String) (settings : RunSettings) (catalog : Catalog) (endpoint : Chat.Endpoint)
    (log : Log) (json : Bool)

/-- Why a program ends without doing its job. -/
inductive Refusal where
  | usage
  | config (error : AppError)
deriving DecidableEq, Repr

namespace Refusal

def code : Refusal → UInt32
  | .usage => 2
  | .config _ => 1

def message : Refusal → String
  | .usage => "Usage: run <task> [--mode MODE] [--strategy STRATEGY] [--max-escalations N] [--json]\n" ++
    "       strategies\n       classify <task>"
  | .config error => "Configuration error: " ++ error.message

end Refusal

def RunError.code : RunError → UInt32
  | .noSpan | .overflow => 101

def helpText : String :=
  Refusal.usage.message ++ "\n"

def versionText : String :=
  "adaptive-reasoning 0.1.0\n"

/-- The job that a command is, given the configuration or the reason why there is none. Help and the
version need no configuration. -/
def Command.job (config : Except Refusal Config) : Command → Except Refusal Job
  | .help => .ok (.display helpText)
  | .version => .ok (.display versionText)
  | .strategies => config.map fun c => .display c.catalog.listing
  | .classify task => config.map fun _ => .display (Keywords.standard.classify task).report
  | .run task mode strategy maxEscalations json => config.map fun c =>
    let settings := RunSettings.ofConfig c
    .run task
      { settings with
        mode
        initialStrategy := strategy
        maxEscalations := maxEscalations.getD settings.maxEscalations }
      c.catalog c.endpoint c.log json

/-- The job that arguments and settings state. Arguments are looked at first. -/
def Job.of (args : List String) (source : SettingSource) : Except Refusal Job :=
  match CommandLine.parse? args with
  | none => .error .usage
  | some command => command.job ((Config.load source).mapError .config)

/-- What is shown for an outcome: its record, or a summary. -/
def Outcome.report (o : Outcome) (json : Bool) (summary : String) : String :=
  (if json then o.toJson.pretty else summary) ++ "\n"

end Deliberation
