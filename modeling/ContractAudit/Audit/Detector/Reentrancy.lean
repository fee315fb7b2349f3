import ContractAudit.Audit.Draft
import ContractAudit.Source.FunctionDef
import ContractAudit.Source.Line

/-!
# Reentrancy

A function is at risk when it calls out before it writes its state.  The finding spans the first
external call that has a write on a later line, and the first such write; a reentrancy guard, in the
function or anywhere in the source, lowers its severity.

* `codeLines` -- the numbered lines of a function that are no comments;
* `callThenWrite?` -- the first call that has a write after it, and the first such write;
* `reentrancyDraft` -- what is said about them;
* `reentrancy` -- the findings, at most one per function.
-/

namespace ContractAudit.Detector

open ContractAudit.Text ContractAudit.Source

/-- The numbered lines of a function that are no comments. -/
def codeLines (f : FunctionDef) : List (Int × Text) :=
  f.numberedLines.filter fun line => !isComment line.2

/-- Whether a line calls out. -/
def callsOut (line : Text) : Bool :=
  Idiom.externalCall.occursIn (codePart line)

/-- The first line that calls out and has a line with a greater number that writes state, and the
first such line.  For each call in turn all writes are gone through. -/
def callThenWrite? (lines : List (Int × Text)) : Option ((Int × Text) × (Int × Text)) :=
  let calls := lines.filter fun line => callsOut line.2
  let writes := lines.filter fun line => isStateMutation line.2
  calls.findSome? fun call =>
    (writes.find? fun write => decide (call.1 < write.1)).map fun write => (call, write)

/-- Whether a reentrancy guard is named. -/
def isGuarded (text : Text) : Bool :=
  Idiom.reentrancyGuard.occursIn text

/-- What is said about a call on one line before a write on another. -/
def reentrancyNote (name : Text) (call write : Int) (guarded : Bool) : String :=
  "In " ++ String.ofList name ++ "(), the external call on line " ++ toString call
    ++ " happens before the state update on line " ++ toString write ++ "."
    ++ if guarded then
        " A reentrancy guard is present, which lowers but does not remove the risk."
      else ""

/-- The draft about a call and a write of the named function. -/
def reentrancyDraft (name : Text) (guarded : Bool) (found : (Int × Text) × (Int × Text)) :
    Draft where
  category := .reentrancy
  severity := if guarded then .medium else .high
  lineStart := found.1.1
  lineEnd := found.2.1
  snippet := trim found.1.2 ++ "\n...\n".toList ++ trim found.2.2
  note := some (reentrancyNote name found.1.1 found.2.1 guarded)

/-- The functions that call out before they write. -/
def reentrancy (source : Text) (functions : List FunctionDef) : List Draft :=
  let sourceGuarded := isGuarded source
  functions.filterMap fun f =>
    (callThenWrite? (codeLines f)).map
      (reentrancyDraft f.name (isGuarded f.body || sourceGuarded))

end ContractAudit.Detector
