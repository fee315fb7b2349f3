import ContractAudit.Text.Hex

/-!
# Text that may not be text

The arguments of a run and the names of files are octets, and need not say anything in UTF-8.  An
octet that is no part of a character is kept as it is, between the characters.  It goes by the code
point 0xDC00 above its value, which no character has.

* `Sign`, `Signs` -- a character or such an octet, and a row of them;
* `Signs.ofText`, `Signs.ofString` -- characters only;
* `Signs.isText`, `Signs.text?` -- whether there are characters only, and the text then;
* `Signs.given?` -- a row that is neither missing nor empty;
* `Signs.shown` -- the text in which octets are shown by escapes.
-/

namespace ContractAudit

/-- A character, or an octet from 0x80 on that is no part of one. -/
inductive Sign where
  | char (c : Char)
  | octet (low : Fin 128)
  deriving DecidableEq, Repr

/-- Characters and octets in a row. -/
abbrev Signs := List Sign

namespace Sign

/-- The code point of a character, or the one by which an octet goes. -/
def code : Sign → Nat
  | char c => c.toNat
  | octet low => 0xDC80 + low.val

/-- The number of octets that it takes. -/
def size : Sign → Nat
  | char c => c.utf8Size
  | octet _ => 1

/-- The character, if it is one. -/
def char? : Sign → Option Char
  | char c => some c
  | octet _ => none

end Sign

namespace Text

/-- A code point as an escape of two, four or eight digits, the fewest that hold it. -/
def escapeCode (n : Nat) : Text :=
  if n < 0x100 then '\\' :: 'x' :: hexDigits 2 n
  else if n < 0x10000 then '\\' :: 'u' :: hexDigits 4 n
  else '\\' :: 'U' :: hexDigits 8 n

end Text

namespace Signs

/-- The characters of a text. -/
def ofText (s : Text) : Signs :=
  s.map Sign.char

/-- The characters of a string. -/
def ofString (s : String) : Signs :=
  ofText s.toList

/-- The characters, without the octets between them. -/
def characters (s : Signs) : Text :=
  s.filterMap Sign.char?

/-- Whether there are characters only. -/
def isText (s : Signs) : Bool :=
  s.all fun sign => sign.char?.isSome

/-- The text, if there are characters only. -/
def text? (s : Signs) : Option Text :=
  if s.isText then some s.characters else none

/-- A row of signs, unless it is missing or empty. -/
def given? : Option Signs → Option Signs
  | some s => if s.isEmpty then none else some s
  | none => none

/-- The text in which the signs are shown that `takes` refuses by escapes. -/
def escaping (takes : Sign → Bool) (s : Signs) : Text :=
  s.flatMap fun sign =>
    match sign with
    | .char c => if takes sign then [c] else Text.escapeCode sign.code
    | .octet _ => Text.escapeCode sign.code

/-- The text in which octets are shown by escapes. -/
def shown (s : Signs) : String :=
  String.ofList (escaping (fun _ => true) s)

end Signs

end ContractAudit
