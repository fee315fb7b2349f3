import ContractAudit.Proofs.Audit.Agreement
import ContractAudit.Proofs.Audit.Catalogued
import ContractAudit.Proofs.Audit.Intake
import Mathlib.Data.Finset.Card
import Mathlib.Data.Finset.Dedup

/-!
# Spellings of a first line

A report shows a title and a first line for each finding.  The register that keeps repeats out goes by
the first line as it was handed in, before it is read.  Numbers are the same key whether they are
written whole, with a fraction of zeros or as a truth value, and so is an absent line.  A string is a key
of its own, although it is read as a number afterwards: `3` and `"3"` are reported one after the other.

* `Finding.place`, `Submission.place?` -- title and first line, as reported and as read;
* `Submission.entryKey?` -- title and first line, as handed in;
* `Register.Records` -- what the keys of a register say about its findings, with a **step** and a
  **run**;
* `spellings` -- the different entries that are read as one place;
* `audit_counts_spellings` -- a place is reported once for each of its spellings.
-/

namespace ContractAudit

open ContractAudit.Text ContractAudit.Source

/-! ### Places and entries -/

/-- Where a finding is reported: its title and its first line. -/
def Finding.place (f : Finding) : String × Option Int :=
  (f.title, f.location.lineStart)

/-- The place of a submission, once its category and its first line have been read. -/
def Submission.place? (s : Submission) : Option (String × Option Int) := do
  let category ← s.findCategory.toOption
  let line ← (Json.readNullable Json.readInt s.lineStart).toOption
  return (category.title, line)

/-- What a submission is told apart by: its title and its first line as it was handed in. -/
def Submission.entryKey? (s : Submission) : Option (String × LineKey) := do
  let category ← s.findCategory.toOption
  let line ← (LineKey.ofJson s.lineStart).toOption
  return (category.title, line)

/-- The first line that a key is read as, if it can be read; what a string is read as is up to the
reader. -/
def LineKey.line? (read : Json → Checked Int) : LineKey → Option (Option Int)
  | absent => some none
  | whole n => some (some n)
  | real _ => none
  | text s => (read (.str s)).toOption.map some

/-- The place of an entry. -/
def entryPlace? (entry : String × LineKey) : Option (String × Option Int) :=
  (entry.2.line? Json.readInt).map fun line => (entry.1, line)

theorem entryPlace?_eq_some_iff {entry : String × LineKey} {place : String × Option Int} :
    entryPlace? entry = some place ↔
      entry.2.line? Json.readInt = some place.2 ∧ entry.1 = place.1 := by
  obtain ⟨title, line⟩ := place
  rw [entryPlace?]
  cases entry.2.line? Json.readInt <;> simp [and_comm]

section Reader

variable {read : Json → Checked Int}

/-- A key is read as the line that its value is read as. -/
theorem LineKey.line?_of_ofJson (hread : Json.ReadsWhole read) {value : Json} {key : LineKey}
    {line : Option Int} (hkey : LineKey.ofJson value = .ok key)
    (hline : Json.readNullable read value = .ok line) : key.line? read = some line := by
  cases value with
  | arr items => cases hkey
  | obj fields => cases hkey
  | null =>
    cases hkey
    cases hline
    rfl
  | bool b =>
    cases hkey
    obtain ⟨n, hn, rfl⟩ := Json.exists_of_readNullable hline nofun
    rw [hread.bool] at hn
    cases hn
    rfl
  | int n =>
    cases hkey
    obtain ⟨m, hm, rfl⟩ := Json.exists_of_readNullable hline nofun
    rw [hread.int] at hm
    cases hm
    rfl
  | str s =>
    cases hkey
    obtain ⟨n, hn, rfl⟩ := Json.exists_of_readNullable hline nofun
    rw [LineKey.line?, hn]
    rfl
  | real x =>
    obtain ⟨n, hn, rfl⟩ := Json.exists_of_readNullable hline nofun
    cases hkey
    rw [hread.whole?_eq hn]
    rfl

/-- Keys that are no strings are told apart by the line that they are read as. -/
theorem LineKey.eq_of_line? {key other : LineKey} {line : Option Int}
    (hkey : key.line? read = some line) (hother : other.line? read = some line)
    (htext : ∀ s, key ≠ .text s) (htext' : ∀ s, other ≠ .text s) : key = other := by
  cases key with
  | text s => exact absurd rfl (htext s)
  | real x => cases hkey
  | absent =>
    cases hkey
    cases other with
    | text s => exact absurd rfl (htext' s)
    | absent => rfl
    | _ => cases hother
  | whole n =>
    cases hkey
    cases other with
    | text s => exact absurd rfl (htext' s)
    | whole m =>
      cases hother
      rfl
    | _ => cases hother

end Reader

theorem LineKey.eq_str_of_ofJson {value : Json} {s : String}
    (h : LineKey.ofJson value = .ok (.text s)) : value = .str s := by
  cases value with
  | str t =>
    cases h
    rfl
  | real x =>
    rw [ofJson] at h
    split at h <;> cases h
  | _ => cases h

namespace Submission

theorem entryKey?_eq_some_iff {s : Submission} {entry : String × LineKey} :
    s.entryKey? = some entry ↔ ∃ category, s.findCategory = .ok category ∧
      LineKey.ofJson s.lineStart = .ok entry.2 ∧ category.title = entry.1 := by
  obtain ⟨title, key⟩ := entry
  rw [entryKey?]
  cases s.findCategory <;> cases LineKey.ofJson s.lineStart <;>
    simp [Except.toOption, and_comm]

theorem place?_eq_some_iff {s : Submission} {place : String × Option Int} :
    s.place? = some place ↔ ∃ category, s.findCategory = .ok category ∧
      Json.readNullable Json.readInt s.lineStart = .ok place.2 ∧ category.title = place.1 := by
  obtain ⟨title, line⟩ := place
  rw [place?]
  cases s.findCategory <;> cases Json.readNullable Json.readInt s.lineStart <;>
    simp [Except.toOption, and_comm]

/-- The entry of a submission says its place. -/
theorem entryPlace?_eq {s : Submission} {entry : String × LineKey} {place : String × Option Int}
    (hentry : s.entryKey? = some entry) (hplace : s.place? = some place) :
    entryPlace? entry = some place := by
  obtain ⟨category, hcategory, hkey, htitle⟩ := entryKey?_eq_some_iff.1 hentry
  obtain ⟨_, hcategory', hline, htitle'⟩ := place?_eq_some_iff.1 hplace
  rw [hcategory] at hcategory'
  cases hcategory'
  have hread := LineKey.line?_of_ofJson Json.readsWhole_readInt hkey hline
  exact entryPlace?_eq_some_iff.2 ⟨hread, htitle.symm.trans htitle'⟩

theorem findLocation_of_toFinding {s : Submission} {category : Category} {number : Nat} {f : Finding}
    (h : s.toFinding category number = .ok f) : s.findLocation = .ok f.location := by
  rw [toFinding] at h
  obtain ⟨description, -, h⟩ := exists_of_bind_eq_ok h
  split at h
  · cases h
  · obtain ⟨location, hlocation, hlocated⟩ := exists_of_bind_eq_ok h
    obtain ⟨severity, -, hmade⟩ := exists_of_bind_eq_ok hlocated
    cases hmade
    cases hfind : s.findLocation with
    | error issues =>
      rw [hfind] at hlocation
      cases hlocation
    | ok found =>
      rw [hfind] at hlocation
      cases hlocation
      rfl

/-- A finding is reported at the place of its submission. -/
theorem place?_of_toFinding {s : Submission} {category : Category} {number : Nat} {f : Finding}
    (hcategory : s.findCategory = .ok category) (h : s.toFinding category number = .ok f) :
    s.place? = some f.place := by
  have hline := readNullable_lineStart (findLocation_of_toFinding h)
  have htitle : f.title = category.title := (isOf_of_toFinding h).1
  exact place?_eq_some_iff.2 ⟨category, hcategory, hline, htitle.symm⟩

end Submission

/-! ### What the keys of a register say -/

namespace Register

/-- One more submission is dropped if its entry is known, and otherwise is reported at its place. -/
theorem enter_cases {r next : Register} {s : Submission} (h : r.enter s = .ok next) :
    ∃ entry, s.entryKey? = some entry ∧
      (entry ∈ r.keys ∧ next = r ∨
        entry ∉ r.keys ∧ ∃ f : Finding, s.place? = some f.place ∧
          next = ⟨r.findings ++ [f], entry :: r.keys⟩) := by
  rw [enter] at h
  obtain ⟨category, hcategory, hcategorized⟩ := exists_of_bind_eq_ok h
  obtain ⟨key, hkey, hkeyed⟩ := exists_of_bind_eq_ok hcategorized
  refine ⟨(category.title, key), Submission.entryKey?_eq_some_iff.2 ⟨category, hcategory, hkey, rfl⟩, ?_⟩
  dsimp only at hkeyed
  split at hkeyed
  · rename_i hknown
    cases hkeyed
    exact Or.inl ⟨List.contains_iff_mem.1 hknown, rfl⟩
  · rename_i hnew
    obtain ⟨f, hf, hmade⟩ := exists_of_bind_eq_ok hkeyed
    cases hmade
    exact Or.inr ⟨fun hmem => hnew (List.contains_iff_mem.2 hmem), f,
      Submission.place?_of_toFinding hcategory hf, rfl⟩

/-- What a register holds after some submissions: its keys are their different entries, and its
findings stand at the places of the keys, in order. -/
structure Records (r : Register) (submissions : List Submission) : Prop where
  nodup : r.keys.Nodup
  places : r.findings.map (fun f => some f.place) = r.keys.reverse.map entryPlace?
  exists_of_mem_keys : ∀ entry ∈ r.keys, ∃ s ∈ submissions,
    s.entryKey? = some entry ∧ s.place? = entryPlace? entry
  exists_mem_keys : ∀ s ∈ submissions, ∃ entry ∈ r.keys, s.entryKey? = some entry

theorem records_empty : empty.Records [] :=
  ⟨List.nodup_nil, rfl, List.forall_mem_nil _, List.forall_mem_nil _⟩

/-- **Step.**  One more submission. -/
theorem Records.enter {r next : Register} {submissions : List Submission} {s : Submission}
    (hr : r.Records submissions) (h : r.enter s = .ok next) : next.Records (submissions ++ [s]) := by
  obtain ⟨entry, hentry, ⟨hknown, rfl⟩ | ⟨hnew, f, hplace, rfl⟩⟩ := enter_cases h
  · refine ⟨hr.nodup, hr.places, ?_, ?_⟩
    · intro e he
      obtain ⟨t, ht, hsame⟩ := hr.exists_of_mem_keys e he
      exact ⟨t, List.mem_append_left _ ht, hsame⟩
    · intro t ht
      rcases List.mem_append.1 ht with hold | hlast
      · exact hr.exists_mem_keys t hold
      · rw [List.mem_singleton.1 hlast]
        exact ⟨entry, hknown, hentry⟩
  · have hstands := Submission.entryPlace?_eq hentry hplace
    refine ⟨List.nodup_cons.2 ⟨hnew, hr.nodup⟩, ?_, ?_, ?_⟩
    · rw [List.map_append, hr.places, List.reverse_cons, List.map_append]
      show _ ++ [some f.place] = _ ++ [entryPlace? entry]
      rw [hstands]
    · intro e he
      rcases List.mem_cons.1 he with rfl | hold
      · exact ⟨s, List.mem_append_right _ (List.mem_singleton_self s), hentry, hplace.trans hstands.symm⟩
      · obtain ⟨t, ht, hsame⟩ := hr.exists_of_mem_keys e hold
        exact ⟨t, List.mem_append_left _ ht, hsame⟩
    · intro t ht
      rcases List.mem_append.1 ht with hold | hlast
      · obtain ⟨e, he, hsame⟩ := hr.exists_mem_keys t hold
        exact ⟨e, List.mem_cons_of_mem entry he, hsame⟩
      · rw [List.mem_singleton.1 hlast]
        exact ⟨entry, List.mem_cons_self, hentry⟩

/-- **Run.**  Several submissions in order. -/
theorem Records.enterAll {r next : Register} {submissions later : List Submission}
    (hr : r.Records submissions) (h : r.enterAll later = .ok next) :
    next.Records (submissions ++ later) := by
  induction later generalizing r submissions with
  | nil =>
    cases h
    rw [List.append_nil]
    exact hr
  | cons s rest ih =>
    obtain ⟨middle, hmiddle, hrest⟩ := exists_of_bind_eq_ok h
    have hall := ih (hr.enter hmiddle) hrest
    rw [List.append_assoc] at hall
    exact hall

end Register

/-! ### Counting -/

/-- The different entries of the submissions that are read as a place. -/
def spellings (submissions : List Submission) (place : String × Option Int) :
    Finset (String × LineKey) :=
  ((submissions.filter fun s => s.place? = some place).filterMap Submission.entryKey?).toFinset

theorem mem_spellings {submissions : List Submission} {place : String × Option Int}
    {entry : String × LineKey} :
    entry ∈ spellings submissions place
      ↔ ∃ s ∈ submissions, s.place? = some place ∧ s.entryKey? = some entry := by
  simp only [spellings, List.mem_toFinset, List.mem_filterMap, List.mem_filter, decide_eq_true_eq,
    and_assoc]

/-- Without strings a place has one spelling. -/
theorem card_spellings_le_one {submissions : List Submission}
    (h : ∀ s ∈ submissions, ∀ text, s.lineStart ≠ .str text) (place : String × Option Int) :
    (spellings submissions place).card ≤ 1 := by
  have hentries : ∀ entry ∈ spellings submissions place,
      entryPlace? entry = some place ∧ ∀ text, entry.2 ≠ .text text := by
    intro entry hentry
    obtain ⟨s, hs, hplace, hsame⟩ := mem_spellings.1 hentry
    refine ⟨Submission.entryPlace?_eq hsame hplace, ?_⟩
    intro text htext
    obtain ⟨-, -, hkey, -⟩ := Submission.entryKey?_eq_some_iff.1 hsame
    rw [htext] at hkey
    exact h s hs text (LineKey.eq_str_of_ofJson hkey)
  rw [Finset.card_le_one]
  intro entry hentry other hother
  obtain ⟨hplace, htext⟩ := hentries entry hentry
  obtain ⟨hplace', htext'⟩ := hentries other hother
  obtain ⟨hread, htitle⟩ := entryPlace?_eq_some_iff.1 hplace
  obtain ⟨hread', htitle'⟩ := entryPlace?_eq_some_iff.1 hplace'
  exact Prod.ext (htitle.trans htitle'.symm) (LineKey.eq_of_line? hread hread' htext htext')

namespace Register

/-- A place is held once for each of its spellings. -/
theorem Records.count_place {r : Register} {submissions : List Submission}
    (hr : r.Records submissions) (place : String × Option Int) :
    (r.findings.map Finding.place).count place = (spellings submissions place).card := by
  have hkeys : spellings submissions place
      = (r.keys.filter fun entry => entryPlace? entry == some place).toFinset := by
    ext entry
    rw [mem_spellings, List.mem_toFinset, List.mem_filter, beq_iff_eq]
    constructor
    · rintro ⟨s, hs, hplace, hentry⟩
      obtain ⟨other, hother, hsame⟩ := hr.exists_mem_keys s hs
      rw [hentry] at hsame
      cases hsame
      exact ⟨hother, Submission.entryPlace?_eq hentry hplace⟩
    · rintro ⟨hmem, hplace⟩
      obtain ⟨s, hs, hentry, hsame⟩ := hr.exists_of_mem_keys entry hmem
      exact ⟨s, hs, hsame.trans hplace, hentry⟩
  have hsome : (r.findings.map Finding.place).count place
      = (r.findings.map fun f => some f.place).count (some place) := by
    rw [← List.count_map_of_injective _ some (Option.some_injective _), List.map_map]
    rfl
  calc (r.findings.map Finding.place).count place
      = (r.keys.reverse.map entryPlace?).count (some place) := by rw [hsome, hr.places]
    _ = (r.keys.filter fun entry => entryPlace? entry == some place).length := by
        rw [List.map_reverse, List.count_reverse, List.count, List.countP_map,
          List.countP_eq_length_filter]
        rfl
    _ = (spellings submissions place).card := by
        rw [hkeys, List.toFinset_card_of_nodup (hr.nodup.filter _)]

theorem Records.conclude_eq {r : Register} {submissions : List Submission}
    (hr : r.Records submissions) (h : submissions ≠ []) : r.conclude = r.findings := by
  obtain ⟨s, rest, rfl⟩ := List.exists_cons_of_ne_nil h
  obtain ⟨entry, hentry, -⟩ := hr.exists_mem_keys s List.mem_cons_self
  have hlength := congrArg List.length hr.places
  have hpos := List.length_pos_of_mem hentry
  simp only [List.length_map, List.length_reverse] at hlength
  rw [conclude, if_neg]
  rw [List.isEmpty_iff_length_eq_zero]
  omega

end Register

/-! ### An audit -/

namespace Auditor

/-- **A place is reported once for each of its spellings.**  The detectors of a battery hand in any
submissions.  If all of them pass the checks, there is an assessment.  In every assessment that there
is, a title and a first line are found as often as the submissions have different entries for them; no
title and first line are found twice exactly if submissions that are read as the same place also have
the same entry; and this is so if no first line is handed in as a string. -/
theorem audit_counts_spellings {a : Auditor} {source : Text} {mode : String}
    {visibility : Visibility} {groups : List (List Submission)}
    (hadmitted : Admitted (some source) mode source)
    (hvisibility : Visibility.parse a.defaultVisibility = .ok visibility)
    (hruns : List.Forall₂ (fun detector submissions =>
      (detector.inspect source (functions visibility source)).outcome = .ok submissions)
      a.battery groups) :
    ((∀ s ∈ groups.flatten, s.IsValid) → ∃ result, a.audit (some source) mode = .ok result) ∧
    ∀ result, a.audit (some source) mode = .ok result →
      (groups.flatten ≠ [] → ∀ place,
        (result.findings.map Finding.place).count place = (spellings groups.flatten place).card) ∧
      ((result.findings.map Finding.place).Nodup ↔
        ∀ s ∈ groups.flatten, ∀ t ∈ groups.flatten, ∀ place,
          s.place? = some place → t.place? = some place → s.entryKey? = t.entryKey?) ∧
      ((∀ s ∈ groups.flatten, ∀ text, s.lineStart ≠ .str text) →
        (result.findings.map Finding.place).Nodup) := by
  have haudit : a.audit (some source) mode
      = Register.empty.enterAll groups.flatten >>= fun register =>
          .ok (assess a.thresholds source register.conclude) := by
    rw [audit_eq, admitSource_eq_ok_iff.2 hadmitted, ok_bind, hvisibility, ok_bind,
      outcome_inspectAll_of_runs hruns]
    rfl
  rw [haudit]
  constructor
  · intro hvalid
    obtain ⟨register, hregister⟩ := Register.exists_enterAll hvalid .empty
    rw [hregister]
    exact ⟨_, rfl⟩
  intro result hresult
  obtain ⟨register, hregister, hmade⟩ := exists_of_bind_eq_ok hresult
  cases hmade
  have hrecords : register.Records groups.flatten := Register.records_empty.enterAll hregister
  show (_ → ∀ place, (register.conclude.map Finding.place).count place = _) ∧
    ((register.conclude.map Finding.place).Nodup ↔ _) ∧
    (_ → (register.conclude.map Finding.place).Nodup)
  by_cases hnone : groups.flatten = []
  · -- nothing was handed in, and the only finding says so
    rw [hnone] at hregister
    cases hregister
    have honly : (Register.empty.conclude.map Finding.place).Nodup := List.nodup_singleton _
    refine ⟨fun hsome => absurd hnone hsome, ⟨fun _ => ?_, fun _ => honly⟩, fun _ => honly⟩
    rw [hnone]
    exact List.forall_mem_nil _
  · rw [hrecords.conclude_eq hnone]
    have hcount := hrecords.count_place
    refine ⟨fun _ => hcount, ?_, ?_⟩
    · rw [List.nodup_iff_count_le_one]
      simp only [hcount, Finset.card_le_one, mem_spellings]
      constructor
      · intro hsame s hs t ht place hplace hplace'
        obtain ⟨entry, -, hentry⟩ := hrecords.exists_mem_keys s hs
        obtain ⟨other, -, hother⟩ := hrecords.exists_mem_keys t ht
        rw [hentry, hother, hsame place entry ⟨s, hs, hplace, hentry⟩ other ⟨t, ht, hplace', hother⟩]
      · rintro hsame place entry ⟨s, hs, hplace, hentry⟩ other ⟨t, ht, hplace', hother⟩
        have heq := hsame s hs t ht place hplace hplace'
        rw [hentry, hother] at heq
        exact Option.some.inj heq
    · intro hstrings
      rw [List.nodup_iff_count_le_one]
      intro place
      rw [hcount]
      exact card_spellings_le_one hstrings place

/-- A submission of a reentrancy with the given first line. -/
def startingAt (line : Json) : Submission :=
  ⟨some (.str "reentrancy"), some (.str "high"), line, .null, .null, .null⟩

/-- Two rows of submissions: the third line as a number in two ways, then the first line as a truth value
and as two strings. -/
def mixedSpellings : List (List Submission) :=
  [[startingAt (.int 3), startingAt (.real (.finite false 3 0))],
   [startingAt (.bool true), startingAt (.str "1"), startingAt (.str " 01 "), startingAt .null]]

theorem audit_counts_spellings_mixedSpellings :
    ∃ result, audit ⟨.standard, "public", mixedSpellings.map (Detector.constant "d")⟩
        (some "contract C".toList) "source" = .ok result ∧
      (result.findings.map Finding.place).count (Category.reentrancy.title, some 3) = 1 ∧
      (result.findings.map Finding.place).count (Category.reentrancy.title, some 1) = 3 ∧
      (result.findings.map Finding.place).count (Category.reentrancy.title, none) = 1 ∧
      ¬ (result.findings.map Finding.place).Nodup := by
  have hruns : List.Forall₂ (fun detector submissions =>
      (detector.inspect "contract C".toList (functions .public "contract C".toList)).outcome
        = .ok submissions) (mixedSpellings.map (Detector.constant "d")) mixedSpellings := by
    rw [List.forall₂_map_left_iff, List.forall₂_same]
    intro row _
    rfl
  have hvalid : ∀ s ∈ mixedSpellings.flatten, s.IsValid := by
    have hline (line : Json) (h : ∃ location, (startingAt line).findLocation = .ok location) :
        (startingAt line).IsValid := ⟨⟨.reentrancy, rfl⟩, ⟨_, .high, rfl, rfl⟩, h, rfl⟩
    show ∀ s ∈ [_, _, _, _, _, _], _
    simp only [List.forall_mem_cons]
    exact ⟨hline _ ⟨_, rfl⟩, hline _ ⟨_, rfl⟩, hline _ ⟨_, rfl⟩, hline _ ⟨_, rfl⟩, hline _ ⟨_, rfl⟩,
      hline _ ⟨_, rfl⟩, List.forall_mem_nil _⟩
  obtain ⟨hreturns, hcounts⟩ := audit_counts_spellings
    (a := ⟨.standard, "public", mixedSpellings.map (Detector.constant "d")⟩)
    (show Admitted (some "contract C".toList) "source" _ from ⟨by decide, rfl, by decide⟩) rfl hruns
  obtain ⟨result, hresult⟩ := hreturns hvalid
  obtain ⟨hcount, -, -⟩ := hcounts result hresult
  have hthird := hcount (List.cons_ne_nil _ _) (Category.reentrancy.title, some 3)
  have hfirst := hcount (List.cons_ne_nil _ _) (Category.reentrancy.title, some 1)
  have habsent := hcount (List.cons_ne_nil _ _) (Category.reentrancy.title, none)
  refine ⟨result, hresult, hthird.trans (by decide +kernel), hfirst.trans (by decide +kernel),
    habsent.trans (by decide +kernel), ?_⟩
  intro hnodup
  have hle := List.nodup_iff_count_le_one.1 hnodup (Category.reentrancy.title, some 1)
  rw [hfirst] at hle
  revert hle
  decide +kernel

/-- A title and a first line can be reported twice: once for the number, and once for the string. -/
theorem audit_repeats_place :
    (∀ s ∈ [startingAt (.int 3), startingAt (.str "3")], s.IsValid) ∧
    ∃ result, audit ⟨.standard, "public", [Detector.constant "d"
          [startingAt (.int 3), startingAt (.str "3")]]⟩
        (some "contract C \x7b\x7d".toList) "source" = .ok result ∧
      result.findings.map Finding.place
        = [(Category.reentrancy.title, some 3), (Category.reentrancy.title, some 3)] := by
  have hplaces : (audit ⟨.standard, "public", [Detector.constant "d"
          [startingAt (.int 3), startingAt (.str "3")]]⟩
        (some "contract C \x7b\x7d".toList) "source").map (fun r => r.findings.map Finding.place)
      = .ok [(Category.reentrancy.title, some 3), (Category.reentrancy.title, some 3)] := by
    rfl
  refine ⟨?_, ?_⟩
  · simp only [List.forall_mem_cons]
    exact ⟨⟨⟨.reentrancy, rfl⟩, ⟨_, .high, rfl, rfl⟩, ⟨_, rfl⟩, rfl⟩,
      ⟨⟨.reentrancy, rfl⟩, ⟨_, .high, rfl, rfl⟩, ⟨_, rfl⟩, rfl⟩, List.forall_mem_nil _⟩
  · cases haudit : audit ⟨.standard, "public", [Detector.constant "d"
          [startingAt (.int 3), startingAt (.str "3")]]⟩
        (some "contract C \x7b\x7d".toList) "source" with
    | error failure =>
      rw [haudit] at hplaces
      cases hplaces
    | ok result =>
      rw [haudit] at hplaces
      exact ⟨result, rfl, Except.ok.inj hplaces⟩

end Auditor

end ContractAudit
