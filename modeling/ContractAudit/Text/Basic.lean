/-!
# Source text

Source text is a list of characters, and everything the scanner cuts out of a source (a line, a
name, a body) is one as well, so that every scan below is a recursion over the characters.  This
file holds the cuts that are not tied to any character class:

* `splitWhere` -- the pieces between the characters that a test picks;
* `joinWith` -- the pieces put back together around one separating character;
* `before` -- everything in front of the first occurrence of a short text;
* `given?` -- a string, unless it is missing or empty;
* `CodeTable` -- sorted runs of code points, the form in which a Unicode property is written down.
-/

namespace ContractAudit

/-- Source text, and everything that is cut out of it. -/
abbrev Text := List Char

namespace Text

/-! ### Pieces -/

section Pieces

variable {α : Type}

/-- Put a character in front of the first piece. -/
def consHead (c : α) : List (List α) → List (List α)
  | [] => [[c]]
  | piece :: pieces => (c :: piece) :: pieces

/-- The pieces between the characters that `p` picks.  Two picked characters side by side have an
empty piece between them, so there is always one piece more than there are picked characters. -/
def splitWhere (p : α → Bool) : List α → List (List α)
  | [] => [[]]
  | c :: s => if p c then [] :: splitWhere p s else consHead c (splitWhere p s)

end Pieces

/-- The pieces in order, with `c` between each two of them. -/
def joinWith (c : Char) : List Text → Text
  | [] => []
  | [piece] => piece
  | piece :: pieces => piece ++ c :: joinWith c pieces

/-- The text in front of the first occurrence of `stop`, or all of it when there is none. -/
def before (stop : Text) : Text → Text
  | [] => []
  | c :: s => if stop.isPrefixOf (c :: s) then [] else c :: before stop s

/-- The text after a leading `lead`, when the text starts with it. -/
def after? : (lead : Text) → Text → Option Text
  | [], s => some s
  | c :: lead, d :: s => if c = d then after? lead s else none
  | _ :: _, [] => none

/-- Whether `part` occurs somewhere in the text. -/
def includes (part : Text) : Text → Bool
  | [] => part.isEmpty
  | c :: s => part.isPrefixOf (c :: s) || includes part s

/-! ### Strings that may be missing -/

/-- A string, unless it is missing or empty. -/
def given? : Option String → Option String
  | some s => if s.isEmpty then none else some s
  | none => none

/-! ### Tables of code points -/

/-- A set of code points: each pair is the first and the last member of a run. -/
abbrev CodeTable := List (Nat × Nat)

/-- Whether a code point lies in one of the runs. -/
def CodeTable.holds (table : CodeTable) (n : Nat) : Bool :=
  table.any fun run => decide (run.1 ≤ n) && decide (n ≤ run.2)

end Text

end ContractAudit
