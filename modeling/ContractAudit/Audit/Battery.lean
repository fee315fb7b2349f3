import ContractAudit.Audit.Detector.AccessControl
import ContractAudit.Audit.Detector.Overflow
import ContractAudit.Audit.Journal

/-!
# Batteries of detectors

* `Detector` -- a named inspection of a source and its functions, of whose findings nothing is
  known;
* `Inspector` -- one of the program's own, which writes drafts;
* `inspectors` -- the program's own, in the order in which they run;
* `standardBattery` -- the same as detectors.
-/

namespace ContractAudit

open ContractAudit.Source

/-- A named inspection of a source and its functions. -/
structure Detector where
  name : String
  inspect : Text → List FunctionDef → Journaled (List Submission)

/-- A detector that hands in the same findings whatever the source. -/
def Detector.constant (name : String) (submissions : List Submission) : Detector where
  name
  inspect _ _ := pure submissions

/-- An inspection that writes drafts, named for the category of its findings. -/
structure Inspector where
  category : Category
  inspect : Text → List FunctionDef → Journaled (List Draft)

namespace Inspector

/-- The inspection for unchecked arithmetic, which notes when a source has no version to go by. -/
def overflow (safe : List Int) : Inspector where
  category := .overflow
  inspect source _ := do
    let drafts ← Detector.overflow safe source
    match pragmaVersion source with
    | .ok none =>
      Journaled.note .detectors .debug "No pragma solidity directive; skipping overflow check"
    | _ => pure ()
    return drafts

/-- The inspection as a detector: it submits its drafts. -/
def toDetector (inspector : Inspector) : Detector where
  name := inspector.category.key
  inspect source functions := do
    let drafts ← inspector.inspect source functions
    return drafts.map Draft.submit

end Inspector

/-- The first version with checked arithmetic. -/
def firstSafeVersion : List Int := [0, 8, 0]

/-- The number of lines after a call that are searched for a check. -/
def standardWindow : Int := 5

/-- The program's own inspections, in the order in which they run.  An empty version stands for the
first one with checked arithmetic. -/
def inspectors (window : Int) (safe : List Int) : List Inspector :=
  [⟨.reentrancy, fun source functions => pure (Detector.reentrancy source functions)⟩,
   ⟨.uncheckedCall, fun source _ => pure (Detector.uncheckedCalls window source)⟩,
   Inspector.overflow (if safe.isEmpty then firstSafeVersion else safe),
   ⟨.accessControl, fun _ functions => pure (Detector.accessControl functions)⟩]

/-- The program's own detectors, in the order in which they run. -/
def standardBattery (window : Int) (safe : List Int) : List Detector :=
  (inspectors window safe).map Inspector.toDetector

end ContractAudit
