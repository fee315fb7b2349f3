import ContractAudit.Audit.Draft
import ContractAudit.Source.Line
import ContractAudit.Text.Lines

/-!
# Unchecked calls

A low-level call reports its failure through a value.  The call is checked when its own line keeps
that value, or when its line or one of the next few tests a success flag or a call.

* `stretch` -- the lines from a position up to a bound, where a negative bound counts from the end;
* `isChecked` -- whether a call is checked;
* `uncheckedDraft` -- what is said about a call;
* `uncheckedCalls` -- the lines with unchecked calls.
-/

namespace ContractAudit.Detector

open ContractAudit.Text ContractAudit.Source

/-- The items from position `start` up to before `stop`, which counts from the end when it is
negative. -/
def stretch {α : Type} (items : List α) (start : Nat) (stop : Int) : List α :=
  let bound := if stop < 0 then (stop + items.length).toNat else min stop.toNat items.length
  (items.drop start).take (bound - start)

/-- Whether one of the patterns occurs in a text. -/
def anyOccurs (patterns : List Pattern) (text : Text) : Bool :=
  patterns.any fun p => p.occursIn text

/-- Whether a line makes a low-level call, comments apart. -/
def callsLowLevel (line : Text) : Bool :=
  !isComment line && Idiom.lowLevelCall.occursIn (codePart line)

/-- Whether the call on a line is checked on that line or on one of the lines in its scope. -/
def isChecked (line : Text) (scope : List Text) : Bool :=
  anyOccurs Idiom.inlineCheck (codePart line)
    || scope.any fun text => anyOccurs Idiom.successCheck (codePart text)

/-- The draft about a call on a line. -/
def uncheckedDraft (number : Int) (line : Text) : Draft where
  category := .uncheckedCall
  severity := .high
  lineStart := number
  lineEnd := number
  snippet := trim line
  note := none

/-- The draft about one of the lines, given with its position, if it makes a call without a check on
it or on one of the next `window` lines. -/
def uncheckedAt (window : Int) (lines : List Text) (place : Text × Nat) : Option Draft :=
  if callsLowLevel place.1
      && !isChecked place.1 (stretch lines place.2 (place.2 + window + 1)) then
    some (uncheckedDraft (place.2 + 1) place.1)
  else none

/-- The low-level calls without a check on their own line or on one of the next `window` lines. -/
def uncheckedCalls (window : Int) (source : Text) : List Draft :=
  let lines := lines source
  lines.zipIdx.filterMap (uncheckedAt window lines)

end ContractAudit.Detector
