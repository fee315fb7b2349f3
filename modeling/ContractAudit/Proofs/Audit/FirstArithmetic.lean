import ContractAudit.Proofs.Audit.CheckWindow
import ContractAudit.Proofs.Audit.Quotation
import ContractAudit.Proofs.Audit.Refusal
import ContractAudit.Proofs.Source.PragmaText

/-!
# The first arithmetic, and the version that lets it through

Arithmetic is reported on one line at most, the first that has any, and only if the version that the source
names is early enough.  The version that counts as safe decides whether there is a report, never what it
says.

* `arithmeticLines` -- the lines with arithmetic, by their numbers;
* `isLeast_of_firstArithmetic?`, `nonempty_arithmeticLines_iff` -- what the search from line to line finds,
  and when it finds something;
* `overflowBelow_eq` -- the gate in front of what is found;
* `Version.isBelow_mono` -- a later bound lets more versions through, whatever the lengths of the bounds;
* `overflow_exact` -- the report;
* `versions_read_back` -- the version that a pragma names is read whatever surrounds it, and so is the one
  that the report quotes.
-/

namespace ContractAudit

open ContractAudit.Text ContractAudit.Source

/-! ### Lines with arithmetic -/

namespace Source

/-- The numbers of the lines that are neither a comment nor an import and that have arithmetic in their
code, pragmas apart. -/
def arithmeticLines (source : Text) : Set Int :=
  {k | ∃ (n : Nat) (line : Text), k = n ∧ IsLine source n line ∧ isComment line = false ∧
    ¬ "import".toList <+: trim line ∧
    Idiom.arithmetic.occursIn (withoutPragmas (codePart line)) = true}

/-- A bound that is not earlier lets no fewer versions through. -/
theorem Version.isBelow_mono {v : Version} {bound bound' : List Int} (h : bound ≤ bound')
    (hbelow : v.isBelow bound = true) : v.isBelow bound' = true := by
  rw [Version.isBelow, decide_eq_true_eq] at hbelow ⊢
  exact lt_of_lt_of_le hbelow h

end Source

namespace Detector

theorem hasArithmetic_iff {line : Text} : hasArithmetic line = true ↔
    isComment line = false ∧ ¬ "import".toList <+: trim line ∧
      Idiom.arithmetic.occursIn (withoutPragmas (codePart line)) = true := by
  rw [hasArithmetic, Bool.and_eq_true, Bool.and_eq_true, Bool.not_eq_true', Bool.not_eq_true',
    ← Bool.not_eq_true ("import".toList.isPrefixOf _), List.isPrefixOf_iff_prefix, and_assoc]

/-! ### The search from line to line -/

theorem firstArithmetic?_eq_none_iff {number : Nat} {ls : List Text} :
    firstArithmetic? number ls = none ↔ ∀ line ∈ ls, hasArithmetic line = false := by
  induction ls generalizing number with
  | nil => simp [firstArithmetic?]
  | cons first ls ih =>
    rw [firstArithmetic?]
    by_cases hfirst : hasArithmetic first = true
    · simp [hfirst]
    · rw [if_neg hfirst, ih]
      simp [hfirst]

section Report

variable {source : Text}

theorem mem_arithmeticLines_of_getElem? {i : Nat} {line : Text} (hline : (lines source)[i]? = some line)
    (h : hasArithmetic line = true) : ((i + 1 : Nat) : Int) ∈ arithmeticLines source :=
  ⟨i + 1, line, rfl, ⟨by omega, hline⟩, hasArithmetic_iff.1 h⟩

/-- The line that is found has the least number of all lines with arithmetic. -/
theorem isLeast_of_firstArithmetic? {n : Nat} {line : Text}
    (h : firstArithmetic? 1 (lines source) = some (n, line)) :
    IsLeast (arithmeticLines source) (n : Int) := by
  obtain ⟨i, rfl, hline, harithmetic, hbefore⟩ := firstArithmetic?_eq_some_iff.1 h
  constructor
  · rw [Nat.add_comm]
    exact mem_arithmeticLines_of_getElem? hline harithmetic
  · intro k hk
    obtain ⟨m, other, rfl, ⟨hm, hother⟩, hthis⟩ := hk
    by_contra hlt
    have hnot := hbefore (m - 1) (by omega) other hother
    rw [hasArithmetic_iff.2 hthis] at hnot
    cases hnot

theorem nonempty_arithmeticLines_iff :
    (arithmeticLines source).Nonempty ↔ firstArithmetic? 1 (lines source) ≠ none := by
  constructor
  · intro h hnone
    obtain ⟨k, n, line, -, ⟨-, hline⟩, harithmetic⟩ := h
    have hnot := firstArithmetic?_eq_none_iff.1 hnone line (List.mem_of_getElem? hline)
    rw [hasArithmetic_iff.2 harithmetic] at hnot
    cases hnot
  · intro h
    obtain ⟨⟨n, line⟩, hfound⟩ := Option.ne_none_iff_exists'.1 h
    exact ⟨n, (isLeast_of_firstArithmetic? hfound).1⟩

/-! ### The gate -/

/-- The bound is a gate: it does not enter into what is found behind it. -/
theorem overflowBelow_eq (safe : List Int) (source : Text) (version : Version) :
    overflowBelow safe source version
      = if version.isBelow safe then
          ((firstArithmetic? 1 (lines source)).map (arithmeticDraft version)).toList
        else [] := by
  rw [overflowBelow]
  split
  · cases firstArithmetic? 1 (lines source) <;> rfl
  · rfl

/-- Which drafts there are about a source that names a version, or none. -/
theorem mem_drafts_iff {safe : List Int} {found : Option Version} {d : Draft} :
    d ∈ found.elim [] (overflowBelow safe source)
      ↔ ∃ v, found = some v ∧ v.isBelow safe = true ∧
        ∃ p, firstArithmetic? 1 (lines source) = some p ∧ arithmeticDraft v p = d := by
  cases found with
  | none =>
    constructor
    · intro h
      cases h
    · intro h
      obtain ⟨v, hv, -⟩ := h
      cases hv
  | some v =>
    show d ∈ overflowBelow safe source v ↔ _
    rw [overflowBelow_eq]
    constructor
    · intro h
      split at h
      · rename_i hbelow
        exact ⟨v, rfl, hbelow, Option.map_eq_some_iff.1 (Option.mem_toList.1 h)⟩
      · cases h
    · intro h
      obtain ⟨u, hu, hbelow, hfound⟩ := h
      cases hu
      rw [if_pos hbelow]
      exact Option.mem_toList.2 (Option.map_eq_some_iff.2 hfound)

theorem length_drafts_le (safe : List Int) (found : Option Version) :
    (found.elim [] (overflowBelow safe source)).length ≤ 1 := by
  cases found with
  | none => exact Nat.zero_le 1
  | some v =>
    show (overflowBelow safe source v).length ≤ 1
    rw [overflowBelow_eq]
    split
    · exact Option.length_toList_le
    · exact Nat.zero_le 1

/-- **The report of arithmetic is exact.**  Of a source whose pragma names a version that can be read, or
none, at most one line is reported, whatever the bound.  There is a report exactly if a version is named, it
comes before the bound, and some line has arithmetic; and the reported line is the first of these.  What is
reported under one bound is reported under every later one, unchanged. -/
theorem overflow_exact {found : Option Version} (h : pragmaVersion source = .ok found) :
    (∀ safe : List Int, ∃ drafts, overflow safe source = .ok drafts ∧ drafts.length ≤ 1 ∧
      (drafts ≠ [] ↔ ∃ v, found = some v ∧ v.parts.map Int.ofNat < safe ∧
        (arithmeticLines source).Nonempty) ∧
      ∀ d ∈ drafts, IsLeast (arithmeticLines source) d.lineStart) ∧
    ∀ (safe safe' : List Int) (d : Draft), safe ≤ safe' → overflow safe source = .ok [d] →
      overflow safe' source = .ok [d] := by
  have hoverflow (safe : List Int) :
      overflow safe source = .ok (found.elim [] (overflowBelow safe source)) := by
    rw [Auditor.overflow_eq, h]
    rfl
  constructor
  · intro safe
    refine ⟨_, hoverflow safe, length_drafts_le safe found, ?_, ?_⟩
    · rw [nonempty_arithmeticLines_iff, Option.ne_none_iff_exists']
      constructor
      · intro hne
        obtain ⟨d, hd⟩ := List.exists_mem_of_ne_nil _ hne
        obtain ⟨v, hv, hbelow, p, hp, -⟩ := mem_drafts_iff.1 hd
        exact ⟨v, hv, of_decide_eq_true hbelow, p, hp⟩
      · intro hgate
        obtain ⟨v, hv, hbelow, p, hp⟩ := hgate
        exact List.ne_nil_of_mem (mem_drafts_iff.2 ⟨v, hv, decide_eq_true hbelow, p, hp, rfl⟩)
    · intro d hd
      obtain ⟨v, -, -, p, hp, rfl⟩ := mem_drafts_iff.1 hd
      exact isLeast_of_firstArithmetic? hp
  · intro safe safe' d hle hd
    rw [hoverflow, Except.ok.injEq] at hd
    have hmem : d ∈ found.elim [] (overflowBelow safe source) := by
      rw [hd]
      exact List.mem_singleton_self d
    obtain ⟨v, rfl, hbelow, p, hp, rfl⟩ := mem_drafts_iff.1 hmem
    -- the gate opens for the later bound as well, and the same is behind it
    rw [hoverflow]
    show Except.ok (overflowBelow safe' source v) = _
    rw [overflowBelow_eq, if_pos (Version.isBelow_mono hle hbelow), hp]
    rfl

/-- Arithmetic in an import and in a comment, and then on two lines. -/
def oldMath : Text :=
  "pragma solidity ^0.7.6;\nimport \"a++.sol\"\n// i++\nx = a * b;\ny += x;".toList

theorem overflow_exact_oldMath :
    ∃ d, overflow [0, 8] oldMath = .ok [d] ∧ IsLeast (arithmeticLines oldMath) d.lineStart ∧
      d.lineStart = 4 ∧ overflow [0, 8, 0] oldMath = .ok [d] ∧ overflow [0, 7] oldMath = .ok [] := by
  obtain ⟨hversion, hlines⟩ :
      (pragmaVersion oldMath).toOption = some (some ⟨0, 7, 6⟩) ∧
      ((overflow [0, 8] oldMath).toOption.map fun drafts => drafts.map Draft.lineStart)
        = some [4] := by
    decide +kernel
  obtain ⟨hgate, hlater⟩ := overflow_exact (eq_ok_of_toOption hversion)
  obtain ⟨drafts, hdrafts, -, -, hleast⟩ := hgate [0, 8]
  obtain ⟨shut, hshut, -, hopen, -⟩ := hgate [0, 7]
  rw [hdrafts] at hlines
  obtain ⟨d, rfl, hd⟩ := List.map_eq_singleton_iff.1 (Option.some.inj hlines)
  refine ⟨d, hdrafts, hleast d (List.mem_singleton_self d), hd,
    hlater [0, 8] [0, 8, 0] d (by decide) hdrafts, ?_⟩
  -- the version is not before a bound that it extends
  have hclosed : shut = [] := by
    by_contra hne
    obtain ⟨v, hv, hbelow, -⟩ := hopen.1 hne
    cases hv
    exact absurd hbelow (by decide)
  rw [hshut, hclosed]

/-! ### The version that is quoted -/

theorem parseVersion_versionNote {v : Version} (hv : v.IsShort) :
    parseVersion (versionNote v) = .ok v := by
  apply parseVersion_append _ hv
  · decide
  · have hquiet : ("The pragma targets Solidity ".toList.all fun c => !isDigit c) = true := by
      decide
    intro c hc
    simpa using List.all_eq_true.1 hquiet c hc

/-- **Versions are read back.**  Behind a text that leads up to it, the first pragma of a source names the
version that is written there, with three numbers or with two, whatever follows that does not go on with the
number.  The dotted form of a version is read as that version.  And so is the version that a report of
arithmetic quotes, alone or in the note around it: it is the version that the source names. -/
theorem versions_read_back :
    (∀ lead, LeadsToVersion lead → ∀ v : Version, v.IsShort → ∀ rest : Text,
      rest.head?.any isDigit = false →
      pragmaVersion (lead ++ (v.render.toList ++ rest)) = .ok (some v) ∧
      ((rest.head? = some '.' → rest.tail.head?.any isDigit = false) →
        pragmaVersion (lead ++ ((toString v.major ++ "." ++ toString v.minor).toList ++ rest))
          = .ok (some { v with patch := 0 }))) ∧
    (∀ v : Version, v.IsShort → parseVersion v.render = .ok v) ∧
    ∀ (safe : List Int) (source : Text) (drafts : List Draft), overflow safe source = .ok drafts →
      ∀ d ∈ drafts, ∃ v, pragmaVersion source = .ok (some v) ∧ d.note = some (versionNote v) ∧
        parseVersion v.render = .ok v ∧ parseVersion (versionNote v) = .ok v := by
  refine ⟨?_, fun v hv => parseVersion_render hv, ?_⟩
  · intro lead hlead v hv rest hrest
    refine ⟨pragmaVersion_render hlead hv hrest, ?_⟩
    intro hthird
    have hwritten : (toString v.major ++ "." ++ toString v.minor).toList
        = Nat.toDigits 10 v.major ++ '.' :: Nat.toDigits 10 v.minor := by
      simp
    rw [hwritten]
    exact pragmaVersion_two hlead hv hrest hthird
  · intro safe source drafts hdrafts d hd
    cases hfound : pragmaVersion source with
    | error failure =>
      rw [Auditor.overflow_eq, hfound] at hdrafts
      cases hdrafts
    | ok found =>
      rw [Auditor.overflow_eq, hfound] at hdrafts
      cases hdrafts
      obtain ⟨v, rfl, -, p, -, rfl⟩ := mem_drafts_iff.1 hd
      have hv := isShort_of_pragmaVersion hfound
      exact ⟨v, rfl, rfl, parseVersion_render hv, parseVersion_versionNote hv⟩

theorem versions_read_back_hedgedPragma :
    pragmaVersion "// pragm\npragma\tsolidity  >=0.7.6 <0.9.0;".toList = .ok (some ⟨0, 7, 6⟩) ∧
      pragmaVersion "// pragm\npragma\tsolidity  >=0.7.x;".toList = .ok (some ⟨0, 7, 0⟩) ∧
      parseVersion "0.7.6" = .ok ⟨0, 7, 6⟩ ∧
      ∃ drafts, overflow [0, 8] oldMath = .ok drafts ∧
        ∃ d ∈ drafts, d.note.map parseVersion = some (.ok ⟨0, 7, 6⟩) := by
  obtain ⟨hreads, hparses, hquotes⟩ := versions_read_back
  have hlead : LeadsToVersion "// pragm\npragma\tsolidity  >=".toList := by
    refine ⟨"// pragm\n".toList, ['\t'], [' ', ' '], ['>', '='], by decide, ?_, ?_, ?_, ?_⟩
    · rw [← includes_eq_true_iff]
      decide
    · exact ⟨by decide, by simp [isBlank]⟩
    · exact ⟨by decide, by simp [isBlank]⟩
    · intro c hc
      have hop : (['>', '='].all fun c => !isDigit c && c != ';') = true := by decide
      simpa using List.all_eq_true.1 hop c hc
  have hshort : (Version.mk 0 7 6).IsShort := by
    show ∀ n ∈ [0, 7, 6], (Nat.toDigits 10 n).length ≤ 4300
    decide
  obtain ⟨hthree, htwo, hrender, hversion, hlines⟩ :
      "// pragm\npragma\tsolidity  >=0.7.6 <0.9.0;".toList
        = "// pragm\npragma\tsolidity  >=".toList
          ++ ((Version.mk 0 7 6).render.toList ++ " <0.9.0;".toList) ∧
      "// pragm\npragma\tsolidity  >=0.7.x;".toList
        = "// pragm\npragma\tsolidity  >=".toList
          ++ ((toString 0 ++ "." ++ toString 7).toList ++ ".x;".toList) ∧
      (Version.mk 0 7 6).render = "0.7.6" ∧
      (pragmaVersion oldMath).toOption = some (some ⟨0, 7, 6⟩) ∧
      ((overflow [0, 8] oldMath).toOption.map fun drafts => drafts.map Draft.lineStart)
        = some [4] := by
    decide +kernel
  refine ⟨?_, ?_, ?_, ?_⟩
  · rw [hthree]
    exact (hreads _ hlead ⟨0, 7, 6⟩ hshort _ (by decide)).1
  · rw [htwo]
    exact (hreads _ hlead ⟨0, 7, 6⟩ hshort _ (by decide)).2 fun _ => by decide
  · rw [← hrender]
    exact hparses ⟨0, 7, 6⟩ hshort
  · cases hdrafts : overflow [0, 8] oldMath with
    | error failure =>
      rw [hdrafts] at hlines
      cases hlines
    | ok drafts =>
      rw [hdrafts] at hlines
      obtain ⟨d, rfl, -⟩ := List.map_eq_singleton_iff.1 (Option.some.inj hlines)
      obtain ⟨v, hv, hnote, -, hread⟩ := hquotes _ _ _ hdrafts d (List.mem_singleton_self d)
      rw [eq_ok_of_toOption hversion] at hv
      cases hv
      refine ⟨[d], rfl, d, List.mem_singleton_self d, ?_⟩
      rw [hnote, Option.map_some, hread]

end Report

end Detector

end ContractAudit
