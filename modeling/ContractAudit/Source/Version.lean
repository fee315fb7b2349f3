import ContractAudit.Failure
import ContractAudit.Text.Blank
import ContractAudit.Text.Digit

/-!
# Versions and pragmas

A version is two or three numbers with points between them, in decimal digits of any script.  A
pragma is the statement `pragma solidity ...` up to its semicolon or the end of the text.

* `Version`, `Version.render` -- a version and its dotted form;
* `firstAt?` -- what a test gives at the first place at which it gives something;
* `findVersion`, `parseVersion` -- the first version of a text;
* `pragmaVersion` -- the first version that the first pragma of a source names;
* `withoutPragmas` -- a text with its pragmas taken out.

A number of too many digits is not read.
-/

namespace ContractAudit.Source

open ContractAudit.Text

/-- A compiler version. -/
structure Version where
  major : Nat
  minor : Nat
  patch : Nat
  deriving DecidableEq, Repr

namespace Version

/-- The three numbers in order. -/
def parts (v : Version) : List Nat :=
  [v.major, v.minor, v.patch]

/-- The three numbers with points between them. -/
def render (v : Version) : String :=
  ".".intercalate (v.parts.map toString)

/-- Whether a version comes before a list of numbers, compared from the left; a list that ends first
comes first. -/
def isBelow (v : Version) (bound : List Int) : Bool :=
  decide (v.parts.map Int.ofNat < bound)

end Version

/-! ### Reading a version -/

/-- The digits of a version at the front of a text: two rows with a point between them, and a third
row after a further point, empty when there is none. -/
def versionDigits? (s : Text) : Option (Text × Text × Text) :=
  let major := s.takeWhile isDigit
  if major.isEmpty then none
  else match s.dropWhile isDigit with
    | '.' :: s =>
      let minor := s.takeWhile isDigit
      if minor.isEmpty then none
      else match s.dropWhile isDigit with
        | '.' :: s => some (major, minor, s.takeWhile isDigit)
        | _ => some (major, minor, [])
    | _ => none

/-- What a test gives at the first place at which it gives something; the end of the text is not
tried. -/
def firstAt? {α : Type} (here? : Text → Option α) : Text → Option α
  | [] => none
  | c :: s => match here? (c :: s) with
    | some found => some found
    | none => firstAt? here? s

/-- The digits of the first version of a text. -/
def firstVersion? : Text → Option (Text × Text × Text) :=
  firstAt? versionDigits?

/-- The number that a row of digits writes. -/
def readNumber (digits : Text) : Except Failure Nat :=
  if digits.length > Numeral.digitLimit then .error (.longNumber digits.length)
  else .ok (natOfDigits digits)

/-- The version that three rows of digits write; an empty row counts as zero. -/
def readVersion (digits : Text × Text × Text) : Except Failure Version := do
  let major ← readNumber digits.1
  let minor ← readNumber digits.2.1
  let patch ← readNumber digits.2.2
  return ⟨major, minor, patch⟩

/-- The first version of a text, if it has one. -/
def findVersion (s : Text) : Except Failure (Option Version) :=
  match firstVersion? s with
  | none => .ok none
  | some digits => (readVersion digits).map some

/-- The first version of a text that has to have one. -/
def parseVersion (s : String) : Except Failure Version :=
  match firstVersion? s.toList with
  | none => .error (.invalidVersion s)
  | some digits => readVersion digits

/-! ### Pragmas -/

/-- What a pragma at the front of a text says, up to its semicolon: everything after the word
`solidity`.  There has to be a blank, and something other than the semicolon after it. -/
def pragmaBody? (s : Text) : Option Text :=
  match after? "pragma".toList s with
  | none => none
  | some s =>
    if !s.head?.any isBlank then none
    else match after? "solidity".toList (s.dropWhile isBlank) with
      | some (gap :: c :: s) =>
        if isBlank gap && c != ';' then some ((gap :: c :: s).takeWhile (· != ';')) else none
      | _ => none

/-- What the first pragma of a text says. -/
def firstPragma? : Text → Option Text :=
  firstAt? pragmaBody?

/-- The first version that the first pragma of a source names, if there is a pragma and it names
one. -/
def pragmaVersion (source : Text) : Except Failure (Option Version) :=
  match firstPragma? source with
  | none => .ok none
  | some body => findVersion body

/-- The length of the pragma at the front of a text, its semicolon included.  The text that a pragma
says starts after its two words and the blanks between them. -/
def pragmaLength? (s : Text) : Option Nat :=
  match pragmaBody? s with
  | none => none
  | some body =>
    let gap := ((s.drop 6).takeWhile isBlank).length
    let spoken := 6 + gap + 8 + body.length
    some (spoken + ((s.drop spoken).take 1).length)

/-- The text without its pragmas, of which the first `skip` characters belong to one. -/
def dropPragmas : (skip : Nat) → Text → Text
  | _, [] => []
  | skip + 1, _ :: s => dropPragmas skip s
  | 0, c :: s => match pragmaLength? (c :: s) with
    | some length => dropPragmas (length - 1) s
    | none => c :: dropPragmas 0 s

/-- The text without its pragmas. -/
def withoutPragmas (s : Text) : Text :=
  dropPragmas 0 s

end ContractAudit.Source
