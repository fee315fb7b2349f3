import ContractAudit.Failure

/-!
# Printed JSON

The printed form of a value is pure ASCII.  Every field and every item stands on a line of its own,
moved to the right by two blanks for each level; an empty array or object is closed at once.

* `Json.escape`, `Json.escapeSign` -- one character or octet inside a printed string;
* `Json.printString`, `Json.printSigns` -- a printed string;
* `Json.printReal` -- a printed number with a point or an exponent;
* `Json.printAt` -- a value whose numbers can be written, in print;
* `Json.write`, `Json.writeSigns` -- any value in print, if its numbers can be written.
-/

namespace ContractAudit.Json

open ContractAudit.Text

/-! ### Strings -/

/-- One unit of sixteen bits as an escape. -/
def escapeUnit (n : Nat) : Text :=
  '\\' :: 'u' :: hexDigits 4 n

/-- One character inside a printed string: a short escape where there is one, else the character
itself if it is ASCII and no control character, else its one or two units of sixteen bits. -/
def escape (c : Char) : Text :=
  if c = '"' then ['\\', '"']
  else if c = '\\' then ['\\', '\\']
  else if c = '\n' then ['\\', 'n']
  else if c = '\r' then ['\\', 'r']
  else if c = '\t' then ['\\', 't']
  else if c = '\x0c' then ['\\', 'f']
  else if c = '\x08' then ['\\', 'b']
  else if 32 ≤ c.toNat ∧ c.toNat < 127 then [c]
  else if c.toNat < 0x10000 then escapeUnit c.toNat
  else
    escapeUnit (0xD800 + (c.toNat - 0x10000) / 0x400)
      ++ escapeUnit (0xDC00 + (c.toNat - 0x10000) % 0x400)

/-- A string between its quotes. -/
def printString (s : String) : Text :=
  '"' :: s.toList.flatMap escape ++ ['"']

/-- One sign inside a printed string. -/
def escapeSign : Sign → Text
  | .char c => escape c
  | sign => escapeUnit sign.code

/-- Signs between quotes. -/
def printSigns (s : Signs) : Text :=
  '"' :: s.flatMap escapeSign ++ ['"']

/-! ### Values -/

/-- A new line at the given level. -/
def newLine (level : Nat) : Text :=
  '\n' :: List.replicate (2 * level) ' '

/-- A number with a point or an exponent; what is not finite has a name. -/
def printReal : Binary64 → Text
  | .infinite negative => if negative then "-Infinity".toList else "Infinity".toList
  | .undefined => "NaN".toList
  | x => x.display.toList

section Layout

variable {σ : Type} (spell : σ → Text)

mutual

/-- A value whose own line is at the given level, its texts spelled one by one. -/
def printAt (level : Nat) : Json σ → Text
  | null => "null".toList
  | bool true => "true".toList
  | bool false => "false".toList
  | int n => Numeral.digits n
  | real x => printReal x
  | str s => spell s
  | arr [] => ['[', ']']
  | arr (item :: items) =>
    '[' :: newLine (level + 1) ++ printAt (level + 1) item ++ printItems (level + 1) items
      ++ newLine level ++ [']']
  | obj [] => ['{', '}']
  | obj ((name, value) :: fields) =>
    '{' :: newLine (level + 1) ++ printString name ++ ':' :: ' ' :: printAt (level + 1) value
      ++ printFields (level + 1) fields ++ newLine level ++ ['}']

/-- The items after the first one. -/
def printItems (level : Nat) : List (Json σ) → Text
  | [] => []
  | item :: items => ',' :: newLine level ++ printAt level item ++ printItems level items

/-- The fields after the first one. -/
def printFields (level : Nat) : List (String × Json σ) → Text
  | [] => []
  | (name, value) :: fields =>
    ',' :: newLine level ++ printString name ++ ':' :: ' ' :: printAt level value
      ++ printFields level fields

end

/-- A value in print, if its numbers can be written. -/
def writeWith (value : Json σ) : Except Failure Text :=
  if value.isWritable then .ok (printAt spell 0 value) else .error .unwritableNumber

end Layout

/-- A value with strings in print. -/
def write (value : Json) : Except Failure Text :=
  writeWith printString value

/-- A value with signs in print. -/
def writeSigns (value : Json Signs) : Except Failure Text :=
  writeWith printSigns value

end ContractAudit.Json
