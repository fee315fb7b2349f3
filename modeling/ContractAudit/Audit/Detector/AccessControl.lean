import ContractAudit.Audit.Detector.Reentrancy
import ContractAudit.Audit.Detector.UncheckedCall

/-!
# Missing access control

A function that anyone can call, and that takes ether or changes state, should check who calls it.

* `changesState` -- whether a function changes state, judged by its name and its lines;
* `checksCaller` -- whether it checks who calls it;
* `exposedDraft` -- what is said about a function;
* `accessControl` -- the functions that should and do not.
-/

namespace ContractAudit.Detector

open ContractAudit.Text ContractAudit.Source

/-- Whether a function changes state: its name speaks of moving value, or one of its lines writes.
-/
def changesState (f : FunctionDef) : Bool :=
  Idiom.sensitiveName.occursIn f.name || (codeLines f).any fun line => isStateMutation line.2

/-- Whether a function checks who calls it. -/
def checksCaller (f : FunctionDef) : Bool :=
  anyOccurs Idiom.accessCheck f.body

/-- Whether a function should check who calls it and does not. -/
def isExposed (f : FunctionDef) : Bool :=
  f.isExternallyCallable && !f.isReadOnly && (f.payable || changesState f) && !checksCaller f

/-- The draft about a function. -/
def exposedDraft (f : FunctionDef) : Draft where
  category := .accessControl
  severity := if f.payable then .high else .medium
  lineStart := f.lineStart
  lineEnd := f.lineEnd
  snippet := trim (f.body.takeWhile (· != '\n'))
  note := some (String.ofList f.name ++ "() is " ++ f.visibility.name
    ++ (if f.payable then " and payable" else "") ++ " but has no owner or role check.")

/-- The functions that should check who calls them and do not. -/
def accessControl (functions : List FunctionDef) : List Draft :=
  (functions.filter isExposed).map exposedDraft

end ContractAudit.Detector
