import ContractAudit.Audit.Category
import ContractAudit.Audit.Severity
import ContractAudit.Failure

/-!
# Drafts and submissions

A detector of the program writes drafts, whose fields are what they should be.  The audit takes in
submissions, of which nothing has been checked, so that detectors from elsewhere can take part; a
draft is submitted as it stands.

* `Draft` -- a finding as the program's own detectors write it;
* `Submission` -- a finding as the audit takes it in;
* `Draft.submit` -- a draft as a submission.
-/

namespace ContractAudit

/-- A finding as the program's own detectors write it. -/
structure Draft where
  category : Category
  severity : Severity
  lineStart : Int
  lineEnd : Int
  snippet : Text
  /-- What is said about this very finding, after the description of its category. -/
  note : Option String
  deriving DecidableEq

/-- A finding as the audit takes it in.  The category and the severity may be missing altogether; a
missing line, snippet or note is as good as a null one. -/
structure Submission where
  category : Option Json
  severity : Option Json
  lineStart : Json
  lineEnd : Json
  snippet : Json
  note : Json

/-- The draft as a submission. -/
def Draft.submit (draft : Draft) : Submission where
  category := some (.str draft.category.key)
  severity := some (.str draft.severity.name)
  lineStart := .int draft.lineStart
  lineEnd := .int draft.lineEnd
  snippet := .str (String.ofList draft.snippet)
  note := match draft.note with
    | some note => .str note
    | none => .null

/-- The submission that an object holds. -/
def Submission.ofFields (fields : List (String × Json)) : Submission where
  category := Json.field? "category" fields
  severity := Json.field? "severity" fields
  lineStart := (Json.field? "line_start" fields).getD .null
  lineEnd := (Json.field? "line_end" fields).getD .null
  snippet := (Json.field? "snippet" fields).getD .null
  note := (Json.field? "note" fields).getD .null

end ContractAudit
