import ContractAudit.Proofs.Json.Strings
import ContractAudit.Proofs.Number.Decimal
import ContractAudit.Proofs.Text.Words

/-!
# Printed values

A printed value reads back as itself.  The statement for a part of a text says what may stand behind
it: nothing, a comma or a line feed, which are the only characters that the printer puts behind a
value, and none of which carries a number on.

* `RealFree` -- the values without numbers that have a point or an exponent;
* `EndsValue` -- what may stand behind a printed value;
* `ReadsBack` -- a value reads back in front of any such text;
* `readItems_printItems`, `readFields_printFields` -- so do items and fields, when their values do;
* `readsBack_of_realFree` -- so does every value without such numbers;
* `parse?_printAt` -- a whole text;
* `isAscii_printAt` -- which is ASCII.
-/

namespace ContractAudit.Json

open ContractAudit.Text

/-- No number in the value has a point or an exponent. -/
inductive RealFree : Json → Prop
  | null : RealFree null
  | bool (value : Bool) : RealFree (bool value)
  | int (value : Int) : RealFree (int value)
  | str (value : String) : RealFree (str value)
  | arr {items : List Json} (h : ∀ item ∈ items, RealFree item) : RealFree (arr items)
  | obj {fields : List (String × Json)} (h : ∀ field ∈ fields, RealFree field.2) :
      RealFree (obj fields)

attribute [simp] RealFree.int RealFree.str

@[simp]
theorem realFree_arr_iff {items : List Json} :
    (arr items).RealFree ↔ ∀ item ∈ items, item.RealFree :=
  ⟨fun h => by cases h; assumption, .arr⟩

@[simp]
theorem realFree_obj_iff {fields : List (String × Json)} :
    (obj fields).RealFree ↔ ∀ field ∈ fields, field.2.RealFree :=
  ⟨fun h => by cases h; assumption, .obj⟩

/-- What may stand behind a printed value. -/
def EndsValue (s : Text) : Prop :=
  s = [] ∨ ∃ rest, s = ',' :: rest ∨ s = '\n' :: rest

/-! ### Gaps -/

theorem skipGap_cons {c : Char} (h : isGap c = false) (s : Text) : skipGap (c :: s) = c :: s := by
  rw [skipGap, List.dropWhile_cons_of_neg (by simp [h])]

theorem skipGap_newLine (level : Nat) (s : Text) : skipGap (newLine level ++ s) = skipGap s := by
  have hgap : ∀ c ∈ newLine level, isGap c = true := by
    intro c hc
    rcases List.mem_cons.1 hc with rfl | hc
    · rfl
    · rw [List.eq_of_mem_replicate hc]
      rfl
  rw [skipGap, List.dropWhile_append_of_pos hgap, skipGap]

theorem endsValue_newLine (level : Nat) (s : Text) : EndsValue (newLine level ++ s) :=
  .inr ⟨_, .inr rfl⟩

/-! ### Numbers -/

theorem readDigits_toDigits (n : Nat) {rest : Text} (h : EndsValue rest) :
    readDigits (Nat.toDigits 10 n ++ rest) = some (Nat.toDigits 10 n, rest) := by
  have hrest : rest.head?.any Char.isDigit = false := by
    rcases h with rfl | ⟨rest, rfl | rfl⟩ <;> rfl
  have hrun : (Nat.toDigits 10 n ++ rest).takeWhile Char.isDigit = Nat.toDigits 10 n :=
    takeWhile_run (fun c hc => isDigit_of_mem_decimal hc) hrest
  have hsome : (Nat.toDigits 10 n).isEmpty = false :=
    List.isEmpty_eq_false_iff.2 Nat.toDigits_ne_nil
  simp only [readDigits, hrun, hsome, Bool.false_eq_true, if_false, List.drop_left]

theorem readUnsigned_toDigits (negative : Bool) (n : Nat) {rest : Text} (h : EndsValue rest) :
    readUnsigned negative (Nat.toDigits 10 n ++ rest)
      = some (int (if negative then -(n : Int) else n), rest) := by
  have hfront : ¬ ((Nat.toDigits 10 n).length > 1 ∧ (Nat.toDigits 10 n).head? = some '0') := by
    intro hzero
    rcases toDigits_length_or_head? n with hlength | hhead
    · omega
    · exact hhead hzero.2
  rw [readUnsigned, readDigits_toDigits n h]
  simp only [Option.bind_eq_bind, Option.bind_some, if_neg hfront, Numeral.ofDigits_toDigits]
  -- neither a point nor the mark of an exponent can follow
  rcases h with rfl | ⟨rest, rfl | rfl⟩ <;> simp [readExponent, Numeral.ofDigits_toDigits]

theorem readWord_of_isDigit {c : Char} (h : c.isDigit = true) (s : Text) :
    readWord (c :: s) = none := by
  have hne (d : Char) (hd : d.isDigit = false) : d ≠ c := (ne_of_isDigit h hd).symm
  simp [readWord, words, after?, hne 'n' rfl, hne 't' rfl, hne 'f' rfl, hne 'I' rfl, hne '-' rfl,
    hne 'N' rfl]

theorem readWord_minus {c : Char} (h : c.isDigit = true) (s : Text) :
    readWord ('-' :: c :: s) = none := by
  have hne : 'I' ≠ c := (ne_of_isDigit h rfl).symm
  simp [readWord, words, after?, hne]

theorem readValue_of_other (steps : Nat) {c : Char} (hquote : c ≠ '"') (hbracket : c ≠ '[')
    (hbrace : c ≠ '{') (s : Text) :
    readValue (steps + 1) (c :: s) = (readWord (c :: s)).or (readNumber (c :: s)) := by
  rw [readValue]
  · cases readWord (c :: s) <;> rfl
  · intro _ heq
    exact hquote (List.cons.inj heq).1
  · intro _ heq
    exact hbracket (List.cons.inj heq).1
  · intro _ heq
    exact hbrace (List.cons.inj heq).1

/-- A whole number reads back. -/
theorem readValue_digits (steps : Nat) (n : Int) {rest : Text} (h : EndsValue rest) :
    readValue (steps + 1) (Numeral.digits n ++ rest) = some (int n, rest) := by
  cases n with
  | ofNat n =>
    have hread := readUnsigned_toDigits false n h
    rw [Numeral.digits, Int.ofNat_eq_natCast, toList_toString_natCast]
    cases hdigits : Nat.toDigits 10 n with
    | nil => exact absurd hdigits Nat.toDigits_ne_nil
    | cons c digits =>
      have hc : c.isDigit = true := isDigit_of_mem_decimal (n := n) (by simp [hdigits])
      have hne (d : Char) (hd : d.isDigit = false) : c ≠ d := ne_of_isDigit hc hd
      rw [hdigits, List.cons_append] at hread
      rw [List.cons_append, readValue_of_other _ (hne _ rfl) (hne _ rfl) (hne _ rfl),
        readWord_of_isDigit hc, Option.none_or, readNumber, hread]
      · rfl
      · intro _ heq
        exact hne '-' rfl (List.cons.inj heq).1
  | negSucc n =>
    have hread := readUnsigned_toDigits true (n + 1) h
    rw [Numeral.digits, toList_toString_negSucc]
    cases hdigits : Nat.toDigits 10 (n + 1) with
    | nil => exact absurd hdigits Nat.toDigits_ne_nil
    | cons c digits =>
      have hc : c.isDigit = true := isDigit_of_mem_decimal (n := n + 1) (by simp [hdigits])
      rw [hdigits] at hread
      rw [List.cons_append, List.cons_append,
        readValue_of_other _ (by decide) (by decide) (by decide), readWord_minus hc,
        Option.none_or, readNumber]
      exact hread

/-! ### Steps of the reader -/

section Steps

variable {steps : Nat} {s t behind rest : Text} {c : Char}

theorem readValue_arr {item : Json} {items : List Json} (hs : skipGap s = c :: t) (hc : c ≠ ']')
    (hitem : readValue steps (c :: t) = some (item, behind))
    (hitems : readItems steps (skipGap behind) = some (items, rest)) :
    readValue (steps + 1) ('[' :: s) = some (arr (item :: items), rest) := by
  rw [readValue, hs]
  split
  · rename_i heq
    exact absurd (List.cons.inj heq).1 hc
  · rw [hitem]
    simp [hitems]

theorem readValue_obj {field : String × Json} {fields : List (String × Json)}
    (hs : skipGap s = c :: t) (hc : c ≠ '}')
    (hfield : readField steps (c :: t) = some (field, behind))
    (hfields : readFields steps (skipGap behind) = some (fields, rest)) :
    readValue (steps + 1) ('{' :: s) = some (obj (field :: fields), rest) := by
  rw [readValue, hs]
  split
  · rename_i heq
    exact absurd (List.cons.inj heq).1 hc
  · rw [hfield]
    simp [hfields]

theorem readItems_comma {item : Json} {items : List Json}
    (hitem : readValue steps (skipGap s) = some (item, behind))
    (hitems : readItems steps (skipGap behind) = some (items, rest)) :
    readItems (steps + 1) (',' :: s) = some (item :: items, rest) := by
  rw [readItems, hitem]
  simp [hitems]

theorem readFields_comma {field : String × Json} {fields : List (String × Json)}
    (hfield : readField steps (skipGap s) = some (field, behind))
    (hfields : readFields steps (skipGap behind) = some (fields, rest)) :
    readFields (steps + 1) (',' :: s) = some (field :: fields, rest) := by
  rw [readFields, hfield]
  simp [hfields]

/-- A printed name, a colon and a value. -/
theorem readField_printString (name : String) {value : Json} (hs : skipGap s = s)
    (hvalue : readValue steps s = some (value, rest)) :
    readField (steps + 1) (printString name ++ ':' :: ' ' :: s) = some ((name, value), rest) := by
  obtain ⟨body, hbody, hname⟩ := exists_body_printString name (':' :: ' ' :: s)
  have hblank : skipGap (' ' :: s) = s := hs
  rw [hbody, readField, hname]
  simp only [skipGap_cons (c := ':') rfl, hblank, hvalue, String.ofList_toList]
  rfl

end Steps

/-! ### Items and fields -/

/-- A printed value can be told from a gap and from the end of a list, and reads back in front of
everything that may stand behind it.  The reader takes at most one step more than the printed value
has characters. -/
structure ReadsBack (value : Json) : Prop where
  starts : ∀ level, ∃ c s, printAt printString level value = c :: s ∧ isGap c = false ∧ c ≠ ']'
  reads : ∀ level steps rest, (printAt printString level value).length ≤ steps → EndsValue rest →
    readValue (steps + 1) (printAt printString level value ++ rest) = some (value, rest)

theorem ReadsBack.skipGap_printAt {value : Json} (h : ReadsBack value) (level : Nat) (s : Text) :
    skipGap (printAt printString level value ++ s) = printAt printString level value ++ s := by
  obtain ⟨c, t, hfront, hgap, -⟩ := h.starts level
  rw [hfront, List.cons_append, skipGap_cons hgap]

theorem endsValue_printItems (level outer : Nat) (items : List Json) (s : Text) :
    EndsValue (printItems printString level items ++ (newLine outer ++ s)) := by
  cases items with
  | nil => exact endsValue_newLine outer s
  | cons item items => exact .inr ⟨_, .inl rfl⟩

theorem endsValue_printFields (level outer : Nat) (fields : List (String × Json)) (s : Text) :
    EndsValue (printFields printString level fields ++ (newLine outer ++ s)) := by
  cases fields with
  | nil => exact endsValue_newLine outer s
  | cons field fields => exact .inr ⟨_, .inl rfl⟩

/-- The further items of an array read back, up to its closing bracket. -/
theorem readItems_printItems {items : List Json} (h : ∀ item ∈ items, ReadsBack item)
    (level outer steps : Nat) (rest : Text) (hsteps : (printItems printString level items).length ≤ steps) :
    readItems (steps + 1) (skipGap (printItems printString level items ++ (newLine outer ++ ']' :: rest)))
      = some (items, rest) := by
  induction items generalizing steps with
  | nil =>
    rw [printItems, List.nil_append, skipGap_newLine, skipGap_cons rfl, readItems]
  | cons item items ih =>
    have hitem := h item List.mem_cons_self
    simp only [printItems, List.length_append, List.length_cons] at hsteps
    obtain ⟨steps, rfl⟩ : ∃ n, steps = n + 1 := ⟨steps - 1, by omega⟩
    simp only [printItems, List.cons_append, List.append_assoc]
    rw [skipGap_cons rfl]
    apply readItems_comma
    · rw [skipGap_newLine, hitem.skipGap_printAt]
      exact hitem.reads level steps _ (by omega) (endsValue_printItems level outer items _)
    · exact ih (fun i hi => h i (List.mem_cons_of_mem item hi)) steps (by omega)

/-- A name and its value read back. -/
theorem readField_printAt {value : Json} (h : ReadsBack value) (name : String)
    {level steps : Nat} (hsteps : (printAt printString level value).length ≤ steps) {rest : Text}
    (hrest : EndsValue rest) :
    readField (steps + 2) (printString name ++ ':' :: ' ' :: (printAt printString level value ++ rest))
      = some ((name, value), rest) :=
  readField_printString name (h.skipGap_printAt level rest) (h.reads level steps rest hsteps hrest)

/-- A printed name starts with its quote. -/
theorem skipGap_printString (name : String) (s : Text) :
    skipGap (printString name ++ s) = printString name ++ s :=
  skipGap_cons rfl _

/-- The further fields of an object read back, up to its closing brace. -/
theorem readFields_printFields {fields : List (String × Json)}
    (h : ∀ field ∈ fields, ReadsBack field.2) (level outer steps : Nat) (rest : Text)
    (hsteps : (printFields printString level fields).length ≤ steps) :
    readFields (steps + 1) (skipGap (printFields printString level fields ++ (newLine outer ++ '}' :: rest)))
      = some (fields, rest) := by
  induction fields generalizing steps with
  | nil =>
    rw [printFields, List.nil_append, skipGap_newLine, skipGap_cons rfl, readFields]
  | cons field fields ih =>
    obtain ⟨name, value⟩ := field
    have hvalue : ReadsBack value := h (name, value) List.mem_cons_self
    simp only [printFields, List.length_append, List.length_cons] at hsteps
    -- one step goes to the comma and one to the name
    obtain ⟨steps, rfl⟩ : ∃ n, steps = n + 2 := ⟨steps - 2, by omega⟩
    simp only [printFields, List.cons_append, List.append_assoc]
    rw [skipGap_cons rfl]
    apply readFields_comma
    · rw [skipGap_newLine, skipGap_printString]
      exact readField_printAt hvalue name (by omega) (endsValue_printFields level outer fields _)
    · exact ih (fun f hf => h f (List.mem_cons_of_mem _ hf)) (steps + 1) (by omega)

/-! ### Values -/

theorem starts_digits (n : Int) : ∃ c s, Numeral.digits n = c :: s ∧ isGap c = false ∧ c ≠ ']' := by
  cases hdigits : Numeral.digits n with
  | nil => exact absurd hdigits (toList_toString_ne_nil n)
  | cons c s =>
    have hmem : c ∈ (toString n).toList := by
      rw [← Numeral.digits, hdigits]
      exact List.mem_cons_self
    refine ⟨c, s, rfl, ?_⟩
    rcases isDigit_or_minus hmem with hc | rfl
    · exact ⟨by simp [isGap, ne_of_isDigit hc], ne_of_isDigit hc rfl⟩
    · exact ⟨rfl, by decide⟩

theorem readsBack_arr {items : List Json} (h : ∀ item ∈ items, ReadsBack item) :
    ReadsBack (arr items) := by
  cases items with
  | nil =>
    refine ⟨fun _ => ⟨'[', _, rfl, rfl, by decide⟩, fun level steps rest hsteps _ => ?_⟩
    show readValue (steps + 1) ('[' :: ']' :: rest) = _
    rw [readValue, skipGap_cons rfl]
    rfl
  | cons item items =>
    refine ⟨fun _ => ⟨'[', _, rfl, rfl, by decide⟩, fun level steps rest hsteps _ => ?_⟩
    have hitem := h item List.mem_cons_self
    obtain ⟨c, t, hfront, -, hc⟩ := hitem.starts (level + 1)
    simp only [printAt, List.length_append, List.length_cons] at hsteps
    obtain ⟨steps, rfl⟩ : ∃ n, steps = n + 1 := ⟨steps - 1, by omega⟩
    simp only [printAt, List.cons_append, List.append_assoc, List.nil_append]
    have hread := hitem.reads (level + 1) steps _ (by omega)
      (endsValue_printItems (level + 1) level items (']' :: rest))
    rw [hfront, List.cons_append] at hread
    apply readValue_arr _ hc hread
    · exact readItems_printItems (fun i hi => h i (List.mem_cons_of_mem item hi)) (level + 1) level
        steps rest (by omega)
    · rw [skipGap_newLine, hitem.skipGap_printAt, hfront, List.cons_append]

theorem readsBack_obj {fields : List (String × Json)} (h : ∀ field ∈ fields, ReadsBack field.2) :
    ReadsBack (obj fields) := by
  cases fields with
  | nil =>
    refine ⟨fun _ => ⟨'{', _, rfl, rfl, by decide⟩, fun level steps rest hsteps _ => ?_⟩
    show readValue (steps + 1) ('{' :: '}' :: rest) = _
    rw [readValue, skipGap_cons rfl]
    rfl
  | cons field fields =>
    obtain ⟨name, value⟩ := field
    have hvalue : ReadsBack value := h (name, value) List.mem_cons_self
    refine ⟨fun _ => ⟨'{', _, rfl, rfl, by decide⟩, fun level steps rest hsteps _ => ?_⟩
    simp only [printAt, List.length_append, List.length_cons] at hsteps
    -- one step goes to the brace and one to the name
    obtain ⟨steps, rfl⟩ : ∃ n, steps = n + 2 := ⟨steps - 2, by omega⟩
    simp only [printAt, List.cons_append, List.append_assoc, List.nil_append]
    have hlength : (printAt printString (level + 1) value).length ≤ steps := by omega
    have hread := readField_printAt hvalue name hlength
      (endsValue_printFields (level + 1) level fields ('}' :: rest))
    refine readValue_obj ?_ (by decide : '"' ≠ '}') hread ?_
    · rw [skipGap_newLine, skipGap_printString]
      rfl
    · exact readFields_printFields (fun f hf => h f (List.mem_cons_of_mem _ hf)) (level + 1) level
        (steps + 1) rest (by omega)

/-- **Every value without points and exponents reads back.** -/
theorem readsBack_of_realFree {value : Json} (h : RealFree value) : ReadsBack value := by
  induction h with
  | null =>
    refine ⟨fun _ => ⟨'n', _, rfl, rfl, by decide⟩, fun level steps rest hsteps _ => ?_⟩
    exact readValue_of_other steps (by decide) (by decide) (by decide) _
  | bool b =>
    cases b with
    | false =>
      refine ⟨fun _ => ⟨'f', _, rfl, rfl, by decide⟩, fun level steps rest hsteps _ => ?_⟩
      exact readValue_of_other steps (by decide) (by decide) (by decide) _
    | true =>
      refine ⟨fun _ => ⟨'t', _, rfl, rfl, by decide⟩, fun level steps rest hsteps _ => ?_⟩
      exact readValue_of_other steps (by decide) (by decide) (by decide) _
  | int n =>
    refine ⟨fun _ => starts_digits n, fun level steps rest hsteps hrest => ?_⟩
    exact readValue_digits steps n hrest
  | str text =>
    refine ⟨fun _ => ⟨'"', _, rfl, rfl, by decide⟩, fun level steps rest hsteps _ => ?_⟩
    obtain ⟨body, hbody, hread⟩ := exists_body_printString text rest
    rw [printAt, hbody, readValue, hread, Option.map_some]
    simp only [String.ofList_toList]
  | arr _ ih => exact readsBack_arr ih
  | obj _ ih => exact readsBack_obj ih

/-- **A printed value reads back.** -/
theorem parse?_printAt {value : Json} (h : RealFree value) :
    parse? (printAt printString 0 value) = some value := by
  have hback := readsBack_of_realFree h
  have hread := hback.reads 0 (printAt printString 0 value).length [] (Nat.le_refl _) (.inl rfl)
  have hskip := hback.skipGap_printAt 0 []
  rw [List.append_nil] at hread hskip
  rw [parse?, hskip, hread]
  rfl

/-! ### ASCII -/

@[simp]
theorem isAscii_newLine (level : Nat) : IsAscii (newLine level) := by
  have hblanks : IsAscii (List.replicate (2 * level) ' ') := by
    intro c hc
    rw [List.eq_of_mem_replicate hc]
    decide
  simp [newLine, hblanks]

theorem isAscii_digits (n : Int) : IsAscii (Numeral.digits n) := by
  intro c hc
  rcases isDigit_or_minus hc with hdigit | rfl
  · have hbounds : 48 ≤ c.val ∧ c.val ≤ 57 := by simpa [Char.isDigit] using hdigit
    have hle : c.val.toNat ≤ 57 := hbounds.2
    exact Nat.lt_of_le_of_lt hle (by decide)
  · decide

theorem isAscii_printItems {level : Nat} {items : List Json}
    (h : ∀ item ∈ items, IsAscii (printAt printString level item)) :
    IsAscii (printItems printString level items) := by
  induction items with
  | nil => exact isAscii_nil
  | cons item items ih =>
    have hitem := h item List.mem_cons_self
    have htail := ih fun i hi => h i (List.mem_cons_of_mem item hi)
    simp [printItems, hitem, htail]

theorem isAscii_printFields {level : Nat} {fields : List (String × Json)}
    (h : ∀ field ∈ fields, IsAscii (printAt printString level field.2)) :
    IsAscii (printFields printString level fields) := by
  induction fields with
  | nil => exact isAscii_nil
  | cons field fields ih =>
    have hvalue := h field List.mem_cons_self
    have htail := ih fun f hf => h f (List.mem_cons_of_mem field hf)
    simp [printFields, hvalue, htail]

/-- **A printed value is ASCII.** -/
theorem isAscii_printAt {value : Json} (h : RealFree value) (level : Nat) :
    IsAscii (printAt printString level value) := by
  induction h generalizing level with
  | null => simp [printAt]
  | bool b => cases b <;> simp [printAt]
  | int n => exact isAscii_digits n
  | str text => exact isAscii_printString text
  | @arr items _ ih =>
    cases items with
    | nil => simp [printAt]
    | cons item items =>
      have hitem := ih item List.mem_cons_self (level + 1)
      have htail := isAscii_printItems fun i hi => ih i (List.mem_cons_of_mem item hi) (level + 1)
      simp [printAt, hitem, htail]
  | @obj fields _ ih =>
    cases fields with
    | nil => simp [printAt]
    | cons field fields =>
      have hvalue := ih field List.mem_cons_self (level + 1)
      have htail := isAscii_printFields fun f hf => ih f (List.mem_cons_of_mem field hf) (level + 1)
      simp [printAt, hvalue, htail]

end ContractAudit.Json
