import ContractAudit.Failure

/-!
# Octets and characters

Files hold octets, and the text of a file is what they say in UTF-8.  What goes out is encoded; an
encoding may lack characters, and none has an octet that is no part of a character.

* `Encoding` -- the characters that can go out;
* `Encoding.characters` -- what goes out, or where the signs are that cannot;
* `Encoding.display` -- what goes out where escapes are shown for them;
* `Octets` -- the contents of a file;
* `Octets.ofText` -- a text in UTF-8;
* `Octets.decode` -- the text of a file, or where and how it fails to be UTF-8;
* `Octets.signs` -- the characters that octets say, and the octets that say nothing.
-/

namespace ContractAudit

/-! ### Encodings -/

/-- The characters that can go out.  Those of ASCII always can. -/
structure Encoding where
  name : String
  holds : Char → Bool
  /-- What is said of signs that it does not have. -/
  reason : String
  holds_ascii : ∀ c : Char, c.toNat < 128 → holds c = true

namespace Encoding

/-- The encoding that has all characters. -/
def utf8 : Encoding where
  name := "utf-8"
  holds _ := true
  reason := "surrogates not allowed"
  holds_ascii _ _ := rfl

/-- The encoding that has the characters of ASCII only. -/
def ascii : Encoding where
  name := "ascii"
  holds c := decide (c.toNat < 128)
  reason := "ordinal not in range(128)"
  holds_ascii _ h := decide_eq_true h

/-- Whether a sign can go out. -/
def takes (e : Encoding) : Sign → Bool
  | .char c => e.holds c
  | .octet _ => false

/-- The failure at the first signs that cannot go out, if there are any. -/
def fault? (e : Encoding) (s : Signs) : Option Failure :=
  let start := (s.takeWhile e.takes).length
  match s.dropWhile e.takes with
  | [] => none
  | sign :: rest =>
    let count := (rest.takeWhile fun sign => !e.takes sign).length
    some (.unencodable e.name sign.code start (start + 1 + count) e.reason)

/-- The text that goes out where signs that cannot are shown by escapes. -/
def display (e : Encoding) (s : String) : Text :=
  Signs.escaping e.takes (.ofString s)

/-- The characters that go out, if all signs can. -/
def characters (e : Encoding) (s : Signs) : Except Failure Text :=
  match e.fault? s with
  | some failure => .error failure
  | none => .ok s.characters

end Encoding

/-! ### Octets -/

/-- The contents of a file. -/
abbrev Octets := List UInt8

namespace Octets

/-- A text in UTF-8. -/
def ofText (s : Text) : Octets :=
  s.flatMap String.utf8EncodeChar

/-- Whether an octet continues a character. -/
def isContinuation (n : Nat) : Bool := decide (0x80 ≤ n) && decide (n ≤ 0xBF)

/-- Whether an octet may follow the given first octet of a character of three or four octets. -/
def mayFollow (first n : Nat) : Bool :=
  isContinuation n && !(first == 0xE0 && decide (n < 0xA0)) && !(first == 0xED && decide (0xA0 ≤ n))
    && !(first == 0xF0 && decide (n < 0x90)) && !(first == 0xF4 && decide (0x90 ≤ n))

/-- The failure of the octets from `position` on, of which `count` are at fault. -/
def fault (first position count : Nat) (reason : OctetFault) : Except Failure Text :=
  .error (.notUtf8 first position (position + count) reason)

/-- The text of the octets from a position on. -/
def decodeFrom : Nat → List Nat → Except Failure Text
  | _, [] => .ok []
  | position, a :: rest =>
    if a < 0x80 then (decodeFrom (position + 1) rest).map (Char.ofNat a :: ·)
    else if a < 0xC2 ∨ 0xF4 < a then fault a position 1 .invalidStart
    else if a < 0xE0 then
      match rest with
      | [] => fault a position 1 .unexpectedEnd
      | b :: rest =>
        if !isContinuation b then fault a position 1 .invalidContinuation
        else (decodeFrom (position + 2) rest).map (Char.ofNat ((a - 0xC0) * 64 + (b - 0x80)) :: ·)
    else if a < 0xF0 then
      match rest with
      | [] => fault a position 1 .unexpectedEnd
      | b :: rest =>
        if !mayFollow a b then fault a position 1 .invalidContinuation
        else match rest with
          | [] => fault a position 2 .unexpectedEnd
          | c :: rest =>
            if !isContinuation c then fault a position 2 .invalidContinuation
            else (decodeFrom (position + 3) rest).map
              (Char.ofNat ((a - 0xE0) * 4096 + (b - 0x80) * 64 + (c - 0x80)) :: ·)
    else
      match rest with
      | [] => fault a position 1 .unexpectedEnd
      | b :: rest =>
        if !mayFollow a b then fault a position 1 .invalidContinuation
        else match rest with
          | [] => fault a position 2 .unexpectedEnd
          | c :: rest =>
            if !isContinuation c then fault a position 2 .invalidContinuation
            else match rest with
              | [] => fault a position 3 .unexpectedEnd
              | d :: rest =>
                if !isContinuation d then fault a position 3 .invalidContinuation
                else (decodeFrom (position + 4) rest).map
                  (Char.ofNat ((a - 0xF0) * 262144 + (b - 0x80) * 4096 + (c - 0x80) * 64
                    + (d - 0x80)) :: ·)

/-- The text of a file. -/
def decode (octets : Octets) : Except Failure Text :=
  decodeFrom 0 (octets.map UInt8.toNat)

/-- The character that the first octets say, if they say one. -/
def firstChar? (octets : Octets) : Option Char :=
  [1, 2, 3, 4].findSome? fun count =>
    match decode (octets.take count) with
    | .ok [c] => some c
    | _ => none

/-- The signs of the octets after the first `skip` of them. -/
def signsAfter : (skip : Nat) → Octets → Signs
  | _, [] => []
  | skip + 1, _ :: rest => signsAfter skip rest
  | 0, octet :: rest =>
    match firstChar? (octet :: rest) with
    | some c => .char c :: signsAfter (c.utf8Size - 1) rest
    | none => .octet (Fin.ofNat 128 octet.toNat) :: signsAfter 0 rest

/-- The characters that octets say in UTF-8, and between them the octets that say nothing. -/
def signs (octets : Octets) : Signs :=
  signsAfter 0 octets

end Octets

end ContractAudit
