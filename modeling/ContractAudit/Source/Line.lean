import ContractAudit.Source.Idiom

/-!
# Single lines of source

* `isComment` -- a line that opens with a comment mark;
* `codePart` -- a line without its trailing comment;
* `isStateMutation` -- a line that looks as if it writes contract state.
-/

namespace ContractAudit.Source

open ContractAudit.Text

/-- A line whose first visible characters open a comment or continue a block of them. -/
def isComment (line : Text) : Bool :=
  let visible := trim line
  "//".toList.isPrefixOf visible || "/*".toList.isPrefixOf visible || "*".toList.isPrefixOf visible

/-- The line up to the first double slash. -/
def codePart (line : Text) : Text :=
  before "//".toList line

/-- Whether a line looks as if it writes contract state.  Assignments to memory and calldata,
declarations of local values and the heads of `for` loops are local; an assignment to an indexed
name is not, unless it is a declaration. -/
def isStateMutation (line : Text) : Bool :=
  let code := codePart line
  if isComment line || isBlankText code then false
  else if Idiom.mappingAssignment.occursIn code && !Idiom.localDeclaration.occursIn code then true
  else if Idiom.forHeader.occursIn code then false
  else if Idiom.increment.occursIn code then true
  else if !Idiom.assignment.occursIn code then false
  else !Idiom.scopedVariable.occursIn code && !Idiom.localDeclaration.occursIn code

end ContractAudit.Source
