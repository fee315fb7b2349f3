import ContractAudit.Audit.Assessment
import ContractAudit.Audit.Draft

/-!
# Admission of submissions

Submissions become findings one after the other.  A submission that names a title and a first line
that were already reported is dropped; the others are checked and numbered.

* `LineKey` -- what a submission gives as its first line, as far as findings are told apart by it;
* `Submission.toFinding` -- the checked finding with its number;
* `Register` -- the findings so far and the keys they go by;
* `Register.enter` -- one more submission.
-/

namespace ContractAudit

/-- What a submission gives as its first line.  Numbers are told apart by their value, however they
are written; a whole one is never a `real`. -/
inductive LineKey where
  | absent
  | whole (value : Int)
  | real (value : Binary64)
  | text (value : String)
  deriving DecidableEq, Repr

namespace LineKey

/-- The key of a value.  Lists and records are no keys. -/
def ofJson : Json → Except Failure LineKey
  | .null => .ok absent
  | .bool b => .ok (whole (if b then 1 else 0))
  | .int n => .ok (whole n)
  | .real x =>
    .ok (match x.whole? with
      | some n => whole n
      | none => real x)
  | .str s => .ok (text s)
  | .arr _ => .error (.unkeyable "list")
  | .obj _ => .error (.unkeyable "dict")

end LineKey

namespace Submission

/-- The category that a submission names. -/
def findCategory (s : Submission) : Except Failure Category :=
  match s.category with
  | none => .error (.missingField "category")
  | some (.str key) =>
    match Category.ofKey? key with
    | some category => .ok category
    | none => .error .uncatalogued
  | some (.arr _) => .error (.unkeyable "list")
  | some (.obj _) => .error (.unkeyable "dict")
  | some _ => .error .uncatalogued

/-- What the note of a submission adds to a description. -/
def remark (s : Submission) : String :=
  if s.note.isEmptyLike then "" else " " ++ s.note.display

/-- The description of a category, and the note of a submission after it, if the note can be
written. -/
def describe (s : Submission) (category : Category) : Except Failure String :=
  if s.note.isWritable then .ok (category.description ++ s.remark) else .error .unwritableNumber

/-- A check, with its faults as a failure. -/
def require {α : Type} (check : Checked α) : Except Failure α :=
  match check with
  | .ok a => .ok a
  | .error issues => .error (.invalid issues)

/-- The location of a submission, checked. -/
def findLocation (s : Submission) : Checked Location :=
  Location.readWith ⟨"line_start", none⟩ ⟨"line_end", none⟩ ⟨"snippet", none⟩
    [("line_start", s.lineStart), ("line_end", s.lineEnd), ("snippet", s.snippet)]

/-- The finding that a submission of a category makes, with its number.  The note is looked at first;
that there is a severity comes before the location, and which one it is after. -/
def toFinding (s : Submission) (category : Category) (number : Nat) : Except Failure Finding := do
  let description ← s.describe category
  match s.severity with
  | none => .error (.missingField "severity")
  | some value =>
    let location ← require s.findLocation
    let severity ← require ((Json.readName Severity.ofName? value).under (.field "severity"))
    return {
      id := category.key ++ "-" ++ toString number
      title := category.title
      severity
      description
      location
      suggestedFix := category.remediation }

end Submission

/-! ### The register -/

/-- The findings so far, in order, and the keys they go by. -/
structure Register where
  findings : List Finding
  keys : List (String × LineKey)

namespace Register

/-- Nothing yet. -/
def empty : Register := ⟨[], []⟩

/-- One more submission. -/
def enter (r : Register) (s : Submission) : Except Failure Register := do
  let category ← s.findCategory
  let line ← LineKey.ofJson s.lineStart
  let key := (category.title, line)
  if r.keys.contains key then return r
  let finding ← s.toFinding category (r.findings.length + 1)
  return ⟨r.findings ++ [finding], key :: r.keys⟩

/-- Several submissions in order. -/
def enterAll : Register → List Submission → Except Failure Register
  | r, [] => .ok r
  | r, s :: rest => do
    let r ← r.enter s
    r.enterAll rest

/-- The finding for a contract in which nothing was found. -/
def nothingFound : Finding where
  id := Category.info.key ++ "-1"
  title := Category.info.title
  severity := .low
  description := Category.info.description
  location := .empty
  suggestedFix := Category.info.remediation

/-- The findings, or the one that says that there are none. -/
def conclude (r : Register) : List Finding :=
  if r.findings.isEmpty then [nothingFound] else r.findings

end Register

end ContractAudit
