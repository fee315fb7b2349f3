import ContractAudit.Report.Reference
import ContractAudit.Text.LetterCase

/-!
# SARIF reports

The report has a rule for each title, in the order in which the titles first appear, and a result
for each finding that refers to the rule of its title.  Its texts are of any type that strings can be
turned into, so that the name of the source need not be a string.

* `Sarif.Rule` -- a rule, made from the first finding with its title;
* `Sarif.rules` -- the rules of a list of findings;
* `Sarif.report` -- the report as a JSON value.
-/

namespace ContractAudit.Sarif

open ContractAudit.Text

/-- A rule. -/
structure Rule where
  id : String
  title : String
  help : String
  references : List String

/-- The id of the rule for a category. -/
def ruleId (categoryKey : String) : String :=
  "SOLIDITY-" ++ String.ofList (uppercase categoryKey.toList)

/-- The rule that a finding makes. -/
def Rule.ofFinding (f : Finding) : Rule :=
  ⟨ruleId f.categoryKey, f.title, f.suggestedFix, f.references⟩

/-- The rules of a list of findings, after those that are there already. -/
def addRules : List Rule → List Finding → List Rule
  | known, [] => known
  | known, f :: rest =>
    if known.any fun rule => rule.title == f.title then addRules known rest
    else addRules (known ++ [Rule.ofFinding f]) rest

/-- The rules of a list of findings. -/
def rules (findings : List Finding) : List Rule :=
  addRules [] findings

/-- The id of the rule with a title. -/
def idOfTitle (rules : List Rule) (title : String) : String :=
  match rules.find? fun rule => rule.title == title with
  | some rule => rule.id
  | none => ""

/-- The last line of a region: the given one unless it is missing or zero, and then the first one.
-/
def lastLine (first : Int) : Option Int → Int
  | some last => if last = 0 then first else last
  | none => first

section Texts

variable {σ : Type} (text : String → σ)

/-- An object with a single text. -/
def textObject (s : String) : Json σ :=
  .obj [("text", .str (text s))]

/-- The JSON form of a rule. -/
def Rule.toJson (rule : Rule) : Json σ :=
  .obj ([("id", .str (text rule.id)), ("shortDescription", textObject text rule.title),
    ("help", textObject text rule.help),
    ("properties", .obj [("tags", .arr (["security", "solidity", "smart-contract"].map fun tag =>
      .str (text tag)))])]
    ++ match rule.references with
      | [] => []
      | url :: _ => [("helpUri", .str (text url))])

/-- The place of a finding in the named source, if its first line is known. -/
def locations (l : Location) (sourceName : σ) : List (String × Json σ) :=
  match l.lineStart with
  | none => []
  | some line =>
    let snippet := match given? l.snippet with
      | none => []
      | some snippet => [("snippet", textObject text snippet)]
    let region := Json.obj ([("startLine", .int line), ("endLine", .int (lastLine line l.lineEnd))]
      ++ snippet)
    [("locations", .arr [.obj [("physicalLocation",
      .obj [("artifactLocation", .obj [("uri", .str sourceName)]), ("region", region)])]])]

/-- The result for a finding. -/
def result (rules : List Rule) (sourceName : σ) (f : Finding) : Json σ :=
  .obj ([("ruleId", .str (text (idOfTitle rules f.title))),
    ("level", .str (text (if f.severity.isSerious then "error" else "warning"))),
    ("message", textObject text (f.title ++ ": " ++ f.description)),
    ("properties", .obj [("severity", .str (text f.severity.name))])]
    ++ locations text f.location sourceName)

/-- The report of an assessment on the named source. -/
def report (a : Assessment) (sourceName : σ) : Json σ :=
  let rules := rules a.findings
  .obj [("$schema", .str (text
      ("https://raw.githubusercontent.com/oasis-tcs/sarif-spec/master/Schemata/"
        ++ "sarif-schema-2.1.0.json"))),
    ("version", .str (text "2.1.0")),
    ("runs", .arr [.obj [
      ("tool", .obj [("driver", .obj [("name", .str (text "Solidity Risk Scanner")),
        ("version", .str (text "1.0.0")), ("rules", .arr (rules.map (Rule.toJson text)))])]),
      ("results", .arr (a.findings.map (result text rules sourceName)))]])]

end Texts

end ContractAudit.Sarif
