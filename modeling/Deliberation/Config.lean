import Deliberation.Controller.Basic
import Deliberation.Numeric.Numeral
/-! The configuration of the program, read from named settings. Settings of the program fall back to
their defaults where they cannot be read; settings of the strategies must be right. -/

namespace Deliberation

/-- A source of settings by name, such as the environment of a process. -/
abbrev SettingSource := String → Option String

inductive LogFormat where
  | pretty
  | json
deriving DecidableEq, Repr

/-- The format with a name, read without regard to case; any other text means the pretty one. -/
def LogFormat.ofText (text : String) : LogFormat :=
  if Text.lowercased text = "json" then .json else .pretty

structure Config where
  apiKey : Option String
  baseUrl : String
  model : String
  maxTokens : UInt32
  logLevel : String
  logFormat : LogFormat
  timeoutMs : UInt64
  maxRetries : UInt32
  retryDelayMs : UInt64
  maxEscalations : UInt32
  treeMaxBranches : UInt64
  treeMaxDepth : UInt32
  cotMinSteps : UInt64
  catalog : Catalog

def AppError.invalidSetting (key value : String) : AppError :=
  .config (key ++ " has invalid value '" ++ value ++ "'")

def Strategy.settingName (s : Strategy) (parameter : String) : String :=
  "STRATEGY_" ++ String.ofList (s.name.toList.map Char.toUpper) ++ "_" ++ parameter

namespace Override

variable {α : Type}

/-- A setting that may be missing but has to be readable, blanks around it apart. -/
def setting? (source : SettingSource) (key : String) (read? : List Char → Option α) :
    Except AppError (Option α) :=
  match source key with
  | none => .ok none
  | some value =>
    match read? (Text.trim value.toList) with
    | some a => .ok (some a)
    | none => .error (.invalidSetting key value)

def ofSettings (source : SettingSource) (s : Strategy) : Except AppError Override := do
  let maxIterations ← setting? source (s.settingName "MAX_ITERATIONS") Numeral.uint32?
  let temperature ← setting? source (s.settingName "TEMPERATURE") Numeral.float?
  let timeoutSeconds ← setting? source (s.settingName "TIMEOUT_SECS") Numeral.float?
  .ok { strategy := some s, maxIterations, temperature, timeoutSeconds }

theorem ofSettings_congr {a b : SettingSource} {s : Strategy}
    (h : ∀ parameter ∈ ["MAX_ITERATIONS", "TEMPERATURE", "TIMEOUT_SECS"],
      a (s.settingName parameter) = b (s.settingName parameter)) :
    ofSettings a s = ofSettings b s := by
  simp only [List.forall_mem_cons] at h
  simp only [ofSettings, setting?, h]

def allOfSettings (source : SettingSource) : Except AppError (List Override) := do
  let overrides ← Strategy.all.mapM (ofSettings source)
  .ok (overrides.filter fun o => !o.isEmpty)

end Override

namespace Config

variable {α : Type}

/-- A setting with a default for where it is missing or cannot be read. -/
def settingOr (source : SettingSource) (key : String) (read? : List Char → Option α)
    (default : α) : α :=
  ((source key).bind fun value => read? value.toList).getD default

def catalogOf (source : SettingSource) : Except AppError Catalog :=
  match Override.allOfSettings source with
  | .error e => .error e
  | .ok overrides =>
    match Catalog.builtin.withOverrides overrides with
    | .error e => .error (.catalog e)
    | .ok catalog => .ok catalog

def settingNames : List String :=
  ["LLM_API_KEY", "LLM_BASE_URL", "LLM_MODEL", "LLM_MAX_TOKENS", "LOG_LEVEL", "LOG_FORMAT",
    "REQUEST_TIMEOUT_MS", "MAX_RETRIES", "RETRY_DELAY_MS", "MAX_ESCALATIONS", "TREE_MAX_BRANCHES",
    "TREE_MAX_DEPTH", "COT_MIN_STEPS"] ++
    Strategy.all.flatMap fun s =>
      ["MAX_ITERATIONS", "TEMPERATURE", "TIMEOUT_SECS"].map s.settingName

/-- The configuration that the settings make. A blank key is no key. -/
def load (source : SettingSource) : Except AppError Config :=
  (catalogOf source).map fun catalog =>
    { apiKey := (source "LLM_API_KEY").filter fun key => Text.trim key.toList ≠ []
      baseUrl := (source "LLM_BASE_URL").getD "https://api.openai.com/v1"
      model := (source "LLM_MODEL").getD "gpt-4o-mini"
      maxTokens := settingOr source "LLM_MAX_TOKENS" Numeral.uint32? 2000
      logLevel := (source "LOG_LEVEL").getD "info"
      logFormat := LogFormat.ofText ((source "LOG_FORMAT").getD "pretty")
      timeoutMs := settingOr source "REQUEST_TIMEOUT_MS" Numeral.uint64? 30000
      maxRetries := settingOr source "MAX_RETRIES" Numeral.uint32? 3
      retryDelayMs := settingOr source "RETRY_DELAY_MS" Numeral.uint64? 1000
      maxEscalations :=
        settingOr source "MAX_ESCALATIONS" Numeral.uint32? Controller.defaultMaxEscalations
      treeMaxBranches := settingOr source "TREE_MAX_BRANCHES" Numeral.uint64? 5
      treeMaxDepth := settingOr source "TREE_MAX_DEPTH" Numeral.uint32? 3
      cotMinSteps := settingOr source "COT_MIN_STEPS" Numeral.uint64? 2
      catalog }

end Config

end Deliberation
