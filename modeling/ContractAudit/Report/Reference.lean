import ContractAudit.Audit.Assessment
import ContractAudit.Audit.Category

/-!
# From a finding back to the catalog

A finding is known by its id, the key of its category and a number with a hyphen between them.  Keys
have hyphens themselves, so the last hyphen counts.

* `Finding.categoryKey` -- the id up to its last hyphen;
* `Finding.references` -- where to read on about a finding.
-/

namespace ContractAudit

/-- The text in front of its last hyphen, or all of it when it has none. -/
def beforeLastHyphen (s : Text) : Text :=
  match s.reverse.dropWhile (· != '-') with
  | [] => s
  | _ :: rest => rest.reverse

namespace Finding

/-- The key of the category of a finding, going by its id. -/
def categoryKey (f : Finding) : String :=
  String.ofList (beforeLastHyphen f.id.toList)

/-- Where to read on about a finding; nothing if its category is not in the catalog. -/
def references (f : Finding) : List String :=
  match Category.ofKey? f.categoryKey with
  | some category => category.references
  | none => []

end Finding

end ContractAudit
