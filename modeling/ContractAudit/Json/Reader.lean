import ContractAudit.Json.Value
import ContractAudit.Number.Numeral

/-!
# Reading JSON

The reader takes any JSON text: blanks between the tokens, both spellings of an escaped character,
numbers with a point or an exponent.  The names of the numbers that are not finite are taken too.
An escape that is one half of a surrogate pair without its other half is refused, since no character
is meant by it.

* `Json.readString` -- the characters up to the closing quote;
* `Json.readNumber` -- a number;
* `Json.readWord` -- a value that has a name;
* `Json.parse?` -- a whole text as one value.

Every item, field and level costs the reader at least one character of the text, so the length of
the text bounds the number of steps that it can take in a row.
-/

namespace ContractAudit.Json

open ContractAudit.Text

/-- The blanks that may stand between tokens. -/
def isGap (c : Char) : Bool :=
  c == ' ' || c == '\n' || c == '\r' || c == '\t'

/-- The text from its next token on. -/
def skipGap (s : Text) : Text :=
  s.dropWhile isGap

/-! ### Strings -/

/-- The character behind a short escape. -/
def shortEscape? (c : Char) : Option Char :=
  if c = '"' ∨ c = '\\' ∨ c = '/' then some c
  else if c = 'n' then some '\n'
  else if c = 'r' then some '\r'
  else if c = 't' then some '\t'
  else if c = 'f' then some '\x0c'
  else if c = 'b' then some '\x08'
  else none

/-- Whether a number is the first unit of a surrogate pair. -/
def isHighUnit (n : Nat) : Bool := decide (0xD800 ≤ n) && decide (n < 0xDC00)

/-- Whether a number is the second unit of a surrogate pair. -/
def isLowUnit (n : Nat) : Bool := decide (0xDC00 ≤ n) && decide (n < 0xE000)

/-- The character that a surrogate pair stands for. -/
def pairedChar (high low : Nat) : Char :=
  Char.ofNat (0x10000 + (high - 0xD800) * 0x400 + (low - 0xDC00))

/-- The characters up to the closing quote, and the text after it. -/
def readString : Text → Option (Text × Text)
  | [] => none
  | '"' :: s => some ([], s)
  | '\\' :: 'u' :: a :: b :: c :: d :: s =>
    match readHex? [a, b, c, d] with
    | none => none
    | some n =>
      if isHighUnit n then
        match s with
        | '\\' :: 'u' :: e :: f :: g :: h :: s =>
          match readHex? [e, f, g, h] with
          | none => none
          | some m =>
            if isLowUnit m then
              (readString s).map fun (cs, rest) => (pairedChar n m :: cs, rest)
            else none
        | _ => none
      else if isLowUnit n then none
      else (readString s).map fun (cs, rest) => (Char.ofNat n :: cs, rest)
  | '\\' :: c :: s =>
    match shortEscape? c with
    | none => none
    | some c => (readString s).map fun (cs, rest) => (c :: cs, rest)
  | '\\' :: [] => none
  | c :: s =>
    if c.toNat < 32 then none
    else (readString s).map fun (cs, rest) => (c :: cs, rest)

/-! ### Numbers -/

/-- The digits at the front of a text, at least one, and the text after them. -/
def readDigits (s : Text) : Option (Text × Text) :=
  let digits := s.takeWhile Char.isDigit
  if digits.isEmpty then none else some (digits, s.drop digits.length)

/-- The number that the digits at the front of a text write, and the text after them. -/
def readNat (s : Text) : Option (Nat × Text) :=
  (readDigits s).map fun (digits, rest) => (Numeral.ofDigits digits, rest)

/-- An exponent: a mark, a sign or none, and digits.  Without the mark there is none. -/
def readExponent (s : Text) : Option (Option Int × Text) :=
  match s with
  | [] => some (none, s)
  | c :: rest =>
    if c = 'e' ∨ c = 'E' then
      match rest with
      | '-' :: rest => (readNat rest).map fun (n, rest) => (some (-(n : Int)), rest)
      | '+' :: rest => (readNat rest).map fun (n, rest) => (some (n : Int), rest)
      | rest => (readNat rest).map fun (n, rest) => (some (n : Int), rest)
    else some (none, s)

/-- A number without its sign: whole digits, which start with a zero only if that is all, then
perhaps a point with digits, then perhaps an exponent. -/
def readUnsigned (negative : Bool) (s : Text) : Option (Json × Text) := do
  let (whole, s) ← readDigits s
  if whole.length > 1 ∧ whole.head? = some '0' then none else
  let (fraction, s) ← match s with
    | '.' :: s => (readDigits s).map fun (ds, s) => (some ds, s)
    | s => some (none, s)
  let (power, s) ← readExponent s
  match fraction, power with
  | none, none =>
    let n := Numeral.ofDigits whole
    some (int (if negative then -(n : Int) else n), s)
  | _, _ =>
    let places := fraction.getD []
    let mantissa := Numeral.ofDigits (whole ++ places)
    some (real (.ofDecimal negative mantissa (power.getD 0 - places.length)), s)

/-- A number. -/
def readNumber : Text → Option (Json × Text)
  | '-' :: s => readUnsigned true s
  | s => readUnsigned false s

/-! ### Values -/

/-- The values that have a name. -/
def words : List (String × Json) :=
  [("null", null), ("true", bool true), ("false", bool false),
   ("Infinity", real (.infinite false)), ("-Infinity", real (.infinite true)),
   ("NaN", real .undefined)]

/-- The value whose name is at the front of a text, and the text after it. -/
def readWord (s : Text) : Option (Json × Text) :=
  words.findSome? fun (word, value) => (after? word.toList s).map fun rest => (value, rest)

mutual

/-- The value at the front of a text, and the text after it.  The first argument bounds the number
of steps. -/
def readValue : Nat → Text → Option (Json × Text)
  | 0, _ => none
  | steps + 1, s =>
    match s with
    | '"' :: s => (readString s).map fun (cs, rest) => (str (String.ofList cs), rest)
    | '[' :: s =>
      match skipGap s with
      | ']' :: rest => some (arr [], rest)
      | s =>
        match readValue steps s with
        | none => none
        | some (item, s) =>
          (readItems steps (skipGap s)).map fun (items, rest) => (arr (item :: items), rest)
    | '{' :: s =>
      match skipGap s with
      | '}' :: rest => some (obj [], rest)
      | s =>
        match readField steps s with
        | none => none
        | some (field, s) =>
          (readFields steps (skipGap s)).map fun (fields, rest) => (obj (field :: fields), rest)
    | s =>
      match readWord s with
      | some result => some result
      | none => readNumber s

/-- The further items of an array, up to its closing bracket. -/
def readItems : Nat → Text → Option (List Json × Text)
  | 0, _ => none
  | steps + 1, s =>
    match s with
    | ']' :: rest => some ([], rest)
    | ',' :: s =>
      match readValue steps (skipGap s) with
      | none => none
      | some (item, s) =>
        (readItems steps (skipGap s)).map fun (items, rest) => (item :: items, rest)
    | _ => none

/-- A name, a colon and a value. -/
def readField : Nat → Text → Option ((String × Json) × Text)
  | 0, _ => none
  | steps + 1, s =>
    match s with
    | '"' :: s =>
      match readString s with
      | none => none
      | some (name, s) =>
        match skipGap s with
        | ':' :: s =>
          (readValue steps (skipGap s)).map fun (value, rest) =>
            ((String.ofList name, value), rest)
        | _ => none
    | _ => none

/-- The further fields of an object, up to its closing brace. -/
def readFields : Nat → Text → Option (List (String × Json) × Text)
  | 0, _ => none
  | steps + 1, s =>
    match s with
    | '}' :: rest => some ([], rest)
    | ',' :: s =>
      match readField steps (skipGap s) with
      | none => none
      | some (field, s) =>
        (readFields steps (skipGap s)).map fun (fields, rest) => (field :: fields, rest)
    | _ => none

end

/-- The value that a text writes, when it writes one and nothing else. -/
def parse? (s : Text) : Option Json :=
  match readValue (s.length + 1) (skipGap s) with
  | some (value, rest) => if (skipGap rest).isEmpty then some value else none
  | none => none

end ContractAudit.Json
