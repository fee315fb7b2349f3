import ContractAudit.Text.Word
import ContractAudit.Text.Blank

/-!
# Function headers

A declaration is the whole word `function` and a name after it.  A header is a declaration whose
name is followed by an opening parenthesis.  The qualifiers of a function stand between its
parameters and its results or its body.

* `header?` -- the first header of a line: the name and the text from the keyword on;
* `declarationCount` -- the number of declarations in a text;
* `qualifiers` -- the qualifiers of a signature.
-/

namespace ContractAudit.Source

open ContractAudit.Text

/-- The name that a declaration at the front of a text gives and the text after the name; the
character in front of the text is looked after by the caller. -/
def declaredName? (s : Text) : Option (Text × Text) :=
  match after? "function".toList s with
  | none => none
  | some s =>
    if !s.head?.any isBlank then none
    else
      let s := s.dropWhile isBlank
      let name := s.takeWhile isWord
      if name.isEmpty then none else some (name, s.dropWhile isWord)

/-- The name that a header at the front of a text gives. -/
def headerName? (s : Text) : Option Text :=
  match declaredName? s with
  | none => none
  | some (name, s) => if (s.dropWhile isBlank).head? == some '(' then some name else none

/-- The first header at a place or further on: its name, and the text from its keyword on. -/
def headerFrom? (previous : Option Char) : Text → Option (Text × Text)
  | [] => none
  | c :: s =>
    match (if previous.any isWord then none else headerName? (c :: s)) with
    | some name => some (name, c :: s)
    | none => headerFrom? (some c) s

/-- The first header of a text: its name, and the text from its keyword on. -/
def header? (s : Text) : Option (Text × Text) :=
  headerFrom? none s

/-! ### Counting declarations -/

/-- The length of a declaration at the front of a text. -/
def declarationLength? (s : Text) : Option Nat :=
  (declaredName? s).map fun (_, rest) => s.length - rest.length

/-- The number of declarations at a place and further on, the first `skip` characters being part of
one that has been counted. -/
def declarationsFrom : (previous : Option Char) → (skip : Nat) → Text → Nat
  | _, _, [] => 0
  | _, skip + 1, c :: s => declarationsFrom (some c) skip s
  | previous, 0, c :: s =>
    match (if previous.any isWord then none else declarationLength? (c :: s)) with
    | some length => 1 + declarationsFrom (some c) (length - 1) s
    | none => declarationsFrom (some c) 0 s

/-- The number of declarations in a text.  No two of those that are counted overlap: a name that is
itself the word `function` does not start another one. -/
def declarationCount (s : Text) : Nat :=
  declarationsFrom none 0 s

/-! ### Qualifiers -/

/-- The text after the parenthesis that closes the outermost one, where `depth` are open; nothing if
it never comes. -/
def afterParens : (depth : Nat) → Text → Text
  | _, [] => []
  | depth, c :: s =>
    if c = '(' then afterParens (depth + 1) s
    else if c = ')' then if depth ≤ 1 then s else afterParens (depth - 1) s
    else afterParens depth s

/-- The text of a signature between its parameters and its results or its body. -/
def qualifiers (signature : Text) : Text :=
  let tail := (afterParens 0 (signature.dropWhile (· != '('))).takeWhile (· != '{')
  beforeWord "returns".toList none tail

end ContractAudit.Source
