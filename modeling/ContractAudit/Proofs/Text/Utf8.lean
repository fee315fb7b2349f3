import ContractAudit.Text.Utf8
import Mathlib.Data.List.TakeWhile

/-!
# What goes out, and what is read back

A row of signs goes out if it is a text and the encoding has all its characters.  A text that is
written in UTF-8 is read back as it is: none of its characters is taken for a part of another, and
none is refused.

* `Encoding.characters_eq_ok_iff` -- what goes out in an encoding;
* `Encoding.exists_of_characters_eq_error` -- how it fails to;
* `decodeFrom_one`, `decodeFrom_two`, `decodeFrom_three`, `decodeFrom_four` -- a character in front of
  any other octets, by its length;
* `decodeFrom_utf8EncodeChar` -- **step**: one character;
* `decode_ofText` -- **run**: a text.
-/

namespace ContractAudit

/-! ### Encoding -/

namespace Signs

@[simp]
theorem isText_ofText (s : Text) : (ofText s).isText = true := by
  rw [isText, ofText, List.all_map, List.all_eq_true]
  intro c _
  rfl

@[simp]
theorem isText_ofString (s : String) : (ofString s).isText = true :=
  isText_ofText s.toList

theorem characters_ofText (s : Text) : (ofText s).characters = s := by
  rw [characters, ofText, List.filterMap_map]
  exact List.filterMap_some

theorem ofText_characters {s : Signs} (h : s.isText = true) : ofText s.characters = s := by
  induction s with
  | nil => rfl
  | cons sign s ih =>
    rw [isText, List.all_cons, Bool.and_eq_true] at h
    cases sign with
    | char c => exact congrArg (Sign.char c :: ·) (ih h.2)
    | octet low => cases h.1

end Signs

namespace Encoding

variable {e : Encoding} {s : Signs}

theorem all_takes_ofText (t : Text) : (Signs.ofText t).all e.takes = t.all e.holds := by
  rw [Signs.ofText, List.all_map]
  rfl

theorem isText_of_all_takes (h : s.all e.takes = true) : s.isText = true := by
  rw [Signs.isText, List.all_eq_true]
  intro sign hsign
  cases sign with
  | char c => rfl
  | octet low => cases List.all_eq_true.1 h _ hsign

theorem fault?_eq_none_iff : e.fault? s = none ↔ s.all e.takes = true := by
  rw [List.all_eq_true, ← List.dropWhile_eq_nil_iff, fault?]
  dsimp only
  split
  · rename_i hnil
    exact iff_of_true rfl hnil
  · rename_i hcons
    rw [hcons]
    exact iff_of_false nofun nofun

/-- **What goes out** is a text of which the encoding has all characters. -/
theorem characters_eq_ok_iff {t : Text} :
    e.characters s = .ok t ↔ s = .ofText t ∧ t.all e.holds = true := by
  rw [characters]
  constructor
  · intro h
    split at h
    · cases h
    · rename_i hnone
      have hall := fault?_eq_none_iff.1 hnone
      cases h
      have htext := Signs.ofText_characters (isText_of_all_takes hall)
      rw [← htext, all_takes_ofText] at hall
      exact ⟨htext.symm, hall⟩
  · rintro ⟨rfl, hall⟩
    rw [fault?_eq_none_iff.2 ((all_takes_ofText t).trans hall), Signs.characters_ofText]

/-- A failure to go out names the encoding and says what it says of all signs that it lacks. -/
theorem exists_of_characters_eq_error {failure : Failure} (h : e.characters s = .error failure) :
    ∃ code start stop, failure = .unencodable e.name code start stop e.reason := by
  rw [characters] at h
  split at h
  · rename_i hfault
    rw [fault?] at hfault
    dsimp only at hfault
    split at hfault
    · cases hfault
    · cases hfault
      cases h
      exact ⟨_, _, _, rfl⟩
  · cases h

theorem exists_error_of_not_all {text : Text} (h : text.all e.holds = false) :
    ∃ code start stop,
      e.characters (.ofText text) = .error (.unencodable e.name code start stop e.reason) := by
  cases hout : e.characters (.ofText text) with
  | error failure =>
    obtain ⟨code, start, stop, rfl⟩ := exists_of_characters_eq_error hout
    exact ⟨code, start, stop, rfl⟩
  | ok other =>
    obtain ⟨hsame, hall⟩ := characters_eq_ok_iff.1 hout
    have hother : text = other := by
      rw [← Signs.characters_ofText text, hsame, Signs.characters_ofText]
    rw [hother, hall] at h
    cases h

theorem isText_eq_false_of_utf8 {failure : Failure} (h : utf8.characters s = .error failure) :
    s.isText = false := by
  rw [← Bool.not_eq_true]
  intro htext
  have hout : utf8.characters s = .ok s.characters :=
    characters_eq_ok_iff.2 ⟨(Signs.ofText_characters htext).symm, List.all_eq_true.2 fun _ _ => rfl⟩
  rw [hout] at h
  cases h

end Encoding

/-! ### Decoding -/

namespace Octets

section Lengths

variable {a b c d position : Nat} {rest : List Nat}

theorem decodeFrom_one (ha : a < 0x80) :
    decodeFrom position (a :: rest)
      = (decodeFrom (position + 1) rest).map (Char.ofNat a :: ·) := by
  rw [decodeFrom.eq_def]
  exact if_pos ha

theorem decodeFrom_two (hlow : 0xC2 ≤ a) (hhigh : a < 0xE0) (hb : isContinuation b = true) :
    decodeFrom position (a :: b :: rest)
      = (decodeFrom (position + 2) rest).map
          (Char.ofNat ((a - 0xC0) * 64 + (b - 0x80)) :: ·) := by
  rw [decodeFrom.eq_def]
  dsimp only
  rw [if_neg (by omega), if_neg (by omega), if_pos hhigh]
  simp only [hb, Bool.not_true, Bool.false_eq_true, if_false]

theorem decodeFrom_three (hlow : 0xE0 ≤ a) (hhigh : a < 0xF0) (hb : mayFollow a b = true)
    (hc : isContinuation c = true) :
    decodeFrom position (a :: b :: c :: rest)
      = (decodeFrom (position + 3) rest).map
          (Char.ofNat ((a - 0xE0) * 4096 + (b - 0x80) * 64 + (c - 0x80)) :: ·) := by
  rw [decodeFrom.eq_def]
  dsimp only
  rw [if_neg (by omega), if_neg (by omega), if_neg (by omega), if_pos hhigh]
  simp only [hb, hc, Bool.not_true, Bool.false_eq_true, if_false]

theorem decodeFrom_four (hlow : 0xF0 ≤ a) (hhigh : a ≤ 0xF4) (hb : mayFollow a b = true)
    (hc : isContinuation c = true) (hd : isContinuation d = true) :
    decodeFrom position (a :: b :: c :: d :: rest)
      = (decodeFrom (position + 4) rest).map
          (Char.ofNat ((a - 0xF0) * 262144 + (b - 0x80) * 4096 + (c - 0x80) * 64 + (d - 0x80))
            :: ·) := by
  rw [decodeFrom.eq_def]
  dsimp only
  rw [if_neg (by omega), if_neg (by omega), if_neg (by omega), if_neg (by omega)]
  simp only [hb, hc, hd, Bool.not_true, Bool.false_eq_true, if_false]

end Lengths

theorem toNat_ofNat {n : Nat} (h : n < 256) : (UInt8.ofNat n).toNat = n :=
  UInt8.toNat_ofNat_of_lt' h

theorem isContinuation_mod (n : Nat) : isContinuation (n % 64 + 128) = true := by
  rw [isContinuation, Bool.and_eq_true, decide_eq_true_eq, decide_eq_true_eq]
  omega

/-- What may follow a first octet, as conditions on numbers. -/
theorem mayFollow_of {first n : Nat} (hlow : 0x80 ≤ n) (hhigh : n ≤ 0xBF)
    (hshort : first = 0xE0 → 0xA0 ≤ n) (hhalf : first = 0xED → n < 0xA0)
    (hlong : first = 0xF0 → 0x90 ≤ n) (hlast : first = 0xF4 → n < 0x90) :
    mayFollow first n = true := by
  simp only [mayFollow, isContinuation, Bool.and_eq_true, Bool.not_eq_true', Bool.and_eq_false_iff,
    decide_eq_true_eq, decide_eq_false_iff_not, beq_eq_false_iff_ne]
  omega

/-- **Step.**  A character is read back in front of any other octets. -/
theorem decodeFrom_utf8EncodeChar (c : Char) (position : Nat) (rest : List Nat) :
    ∃ next, decodeFrom position ((String.utf8EncodeChar c).map UInt8.toNat ++ rest)
      = (decodeFrom next rest).map (c :: ·) := by
  have hvalid : c.toNat < 0xD800 ∨ 0xDFFF < c.toNat ∧ c.toNat < 0x110000 := c.valid
  have hback : Char.ofNat c.toNat = c := c.ofNat_toNat
  have hv : c.val.toNat = c.toNat := rfl
  rw [String.utf8EncodeChar, hv]
  generalize c.toNat = v at hvalid hback ⊢
  split
  · refine ⟨position + 1, ?_⟩
    rw [List.map_singleton, List.singleton_append, toNat_ofNat (by omega),
      decodeFrom_one (by omega), hback]
  split
  · refine ⟨position + 2, ?_⟩
    have hsum : (v / 64 % 32 + 192 - 0xC0) * 64 + (v % 64 + 128 - 0x80) = v := by omega
    simp (disch := omega) only [List.map_cons, List.map_nil, List.cons_append, List.nil_append,
      toNat_ofNat]
    rw [decodeFrom_two (by omega) (by omega) (isContinuation_mod v), hsum, hback]
  split
  · refine ⟨position + 3, ?_⟩
    have hsum : (v / 4096 % 16 + 224 - 0xE0) * 4096 + (v / 64 % 64 + 128 - 0x80) * 64
        + (v % 64 + 128 - 0x80) = v := by omega
    have hfollows : mayFollow (v / 4096 % 16 + 224) (v / 64 % 64 + 128) = true := by
      apply mayFollow_of <;> omega
    simp (disch := omega) only [List.map_cons, List.map_nil, List.cons_append, List.nil_append,
      toNat_ofNat]
    rw [decodeFrom_three (by omega) (by omega) hfollows (isContinuation_mod v), hsum, hback]
  · refine ⟨position + 4, ?_⟩
    have hsum : (v / 262144 % 8 + 240 - 0xF0) * 262144 + (v / 4096 % 64 + 128 - 0x80) * 4096
        + (v / 64 % 64 + 128 - 0x80) * 64 + (v % 64 + 128 - 0x80) = v := by omega
    have hfollows : mayFollow (v / 262144 % 8 + 240) (v / 4096 % 64 + 128) = true := by
      apply mayFollow_of <;> omega
    simp (disch := omega) only [List.map_cons, List.map_nil, List.cons_append, List.nil_append,
      toNat_ofNat]
    rw [decodeFrom_four (by omega) (by omega) hfollows (isContinuation_mod _) (isContinuation_mod v),
      hsum, hback]

theorem decodeFrom_ofText (s : Text) (position : Nat) :
    decodeFrom position ((ofText s).map UInt8.toNat) = .ok s := by
  induction s generalizing position with
  | nil => rfl
  | cons c s ih =>
    obtain ⟨next, hnext⟩ := decodeFrom_utf8EncodeChar c position ((ofText s).map UInt8.toNat)
    rw [ofText, List.flatMap_cons, List.map_append]
    exact hnext.trans (congrArg (Except.map (c :: ·)) (ih next))

/-- **Run.**  A text is read back as it was written. -/
theorem decode_ofText (s : Text) : decode (ofText s) = .ok s :=
  decodeFrom_ofText s 0

end Octets

end ContractAudit
