import ContractAudit.Audit.Draft
import ContractAudit.Source.Line
import ContractAudit.Source.Version
import ContractAudit.Text.Lines

/-!
# Unchecked arithmetic

Compilers before a certain version let arithmetic wrap around.  When the pragma of a source names a
version before that one, the first line with arithmetic is reported.  Comments, imports and pragmas
hold no arithmetic.

* `hasArithmetic` -- whether a line holds arithmetic;
* `firstArithmetic?` -- the first line that does, with its number;
* `arithmeticDraft` -- what is said about it;
* `overflow` -- the finding, if there is one.
-/

namespace ContractAudit.Detector

open ContractAudit.Text ContractAudit.Source

/-- Whether a line holds arithmetic that can wrap around. -/
def hasArithmetic (line : Text) : Bool :=
  !isComment line && !"import".toList.isPrefixOf (trim line)
    && Idiom.arithmetic.occursIn (withoutPragmas (codePart line))

/-- The first of the lines that holds arithmetic, and its number, the first line having the given
one. -/
def firstArithmetic? : Nat → List Text → Option (Nat × Text)
  | _, [] => none
  | number, line :: lines =>
    if hasArithmetic line then some (number, line) else firstArithmetic? (number + 1) lines

/-- What is said about arithmetic under a version. -/
def versionNote (version : Version) : String :=
  "The pragma targets Solidity " ++ version.render
    ++ "; this is the first unchecked arithmetic operation."

/-- The draft about the first arithmetic under a version. -/
def arithmeticDraft (version : Version) (found : Nat × Text) : Draft where
  category := .overflow
  severity := .low
  lineStart := found.1
  lineEnd := found.1
  snippet := trim found.2
  note := some (versionNote version)

/-- The first arithmetic of a source whose pragma names a version before `safe`, given that
version. -/
def overflowBelow (safe : List Int) (source : Text) (version : Version) : List Draft :=
  if version.isBelow safe then
    match firstArithmetic? 1 (lines source) with
    | some found => [arithmeticDraft version found]
    | none => []
  else []

/-- The first arithmetic of a source whose pragma names a version before `safe`. -/
def overflow (safe : List Int) (source : Text) : Except Failure (List Draft) :=
  match pragmaVersion source with
  | .error failure => .error failure
  | .ok none => .ok []
  | .ok (some version) => .ok (overflowBelow safe source version)

end ContractAudit.Detector
