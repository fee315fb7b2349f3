import ContractAudit.Audit.Auditor
import ContractAudit.Configuration.EnvironmentFile
import ContractAudit.Text.LetterCase

/-!
# Configuration

Each setting is looked for among the values that are given directly, then in the environment, then
in the environment file; what is found nowhere has its default.  Names may be in any case, wherever
they come from.

* `Configuration`, `Configuration.names` -- the settings;
* `Configuration.load` -- the settings from their sources, checked;
* `Configuration.auditor` -- the auditor that the settings describe.
-/

namespace ContractAudit

open ContractAudit.Text ContractAudit.Source

/-- The settings. -/
structure Configuration where
  /-- The name of a table of thresholds. -/
  riskThresholds : String
  defaultVisibility : Visibility
  callCheckWindow : Nat
  safeArithmeticVersion : String
  openaiApiKey : Option String
  openaiModel : String
  apiBaseUrl : Option String
  logLevel : String
  logFile : Option String
  defaultReportFormat : String

namespace Configuration

/-- The names of the settings, in their order. -/
def names : List String :=
  ["risk_thresholds", "default_visibility", "call_check_window", "safe_arithmetic_version",
   "openai_api_key", "openai_model", "api_base_url", "log_level", "log_file",
   "default_report_format"]

/-- Where settings come from. -/
structure Sources where
  /-- The values that are given directly. -/
  direct : List (String × Json) := []
  environment : List (String × String) := []
  /-- The text of the environment file. -/
  file : Option Text := none

/-- The name of the setting that is meant by a name. -/
def settingName (name : String) : String :=
  String.ofList (lowercase name.toList)

/-- The variables of the environment, as JSON strings. -/
def environmentFields (pairs : List (String × String)) : List (String × Json) :=
  pairs.map fun (name, value) => (settingName name, .str value)

/-- The variables of an environment file, as JSON strings.  One without a value takes back the ones
before it that are for the same setting. -/
def fileFields (bindings : List EnvironmentFile.Binding) : List (String × Json) :=
  bindings.foldl (fun fields (name, value) =>
    match value with
    | some text => fields ++ [(settingName name, .str text)]
    | none => fields.filter fun field => field.1 != settingName name) []

/-- The values that are given directly. -/
def directFields (values : List (String × Json)) : List (String × Json) :=
  values.map fun (name, value) => (settingName name, value)

/-- All values in one list, the ones that win further back. -/
def Sources.fields (s : Sources) : List (String × Json) :=
  let file := match s.file with
    | some text => fileFields (EnvironmentFile.settled s.environment text)
    | none => []
  file ++ environmentFields s.environment ++ directFields s.direct

/-- A whole number that is not negative. -/
def readWindow (value : Json) : Checked Nat :=
  (Json.readInt value).andThen fun n =>
    if n < 0 then Checked.fail .belowMinimum else .ok n.toNat

/-- The name of a table of thresholds. -/
def tableName? (s : String) : Option String :=
  if s = "standard" ∨ s = "strict" then some s else none

/-- The settings from their sources. -/
def load (sources : Sources) : Checked Configuration :=
  let fields := sources.fields
  let text (name default : String) := Slot.orElse ⟨name, none⟩ Json.readText default fields
  let optional (name : String) :=
    Slot.orElse ⟨name, none⟩ (Json.readNullable Json.readText) none fields
  ((((((((((Checked.pass Configuration.mk).both
    (Slot.orElse ⟨"risk_thresholds", none⟩ (Json.readName tableName?) "standard" fields)).both
    (Slot.orElse ⟨"default_visibility", none⟩ (Json.readName Visibility.ofName?) .public
      fields)).both
    (Slot.orElse ⟨"call_check_window", none⟩ readWindow 5 fields)).both
    (text "safe_arithmetic_version" "0.8.0")).both
    (optional "openai_api_key")).both
    (text "openai_model" "gpt-4")).both
    (optional "api_base_url")).both
    (text "log_level" "INFO")).both
    (optional "log_file")).both
    (text "default_report_format" "text")

/-- The choices that the settings make for an auditor. -/
def auditorOptions (c : Configuration) : Auditor.Options where
  thresholds := .table c.riskThresholds
  defaultVisibility := c.defaultVisibility.name
  callCheckWindow := c.callCheckWindow
  safeArithmeticVersion := c.safeArithmeticVersion

/-- The auditor that the settings describe. -/
def auditor (c : Configuration) : Except Failure Auditor :=
  Auditor.ofOptions c.auditorOptions

/-- An audit by the settings of the given sources. -/
def audit (sources : Sources) (source : Option Text) (mode : String) :
    Except Failure Assessment := do
  let configuration ← Submission.require (load sources)
  let auditor ← configuration.auditor
  auditor.audit source mode

end Configuration

end ContractAudit
