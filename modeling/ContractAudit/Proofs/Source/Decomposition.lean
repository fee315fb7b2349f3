import ContractAudit.Proofs.Source.Span
import Mathlib.Data.Nat.Find

/-!
# The greedy decomposition of a source

From its first line on, a source falls into gaps and spans: a line that opens nothing is a gap of
its own, and a line with a header opens a span, which takes as many lines as its fate says.

* `IsGap`, `OpensSpan` -- the two kinds of lines, described without the scan;
* `Stretch` -- a gap or a span; `Greedy` -- the decomposition, from the front of the lines on;
* `recordsOf` -- the functions of a decomposition: its closed spans, in order.

Every list of lines has a decomposition (`exists_greedy`) and no more than one (`Greedy.unique`); it
leaves out no line (`Greedy.flatMap_lines`), and only its last stretch can be unclosed
(`Greedy.not_unclosed_of_mem_dropLast`).  The scan follows it (`Greedy.segmentsFrom_eq`), and so the
functions of a source are its closed spans (`functions_eq_recordsOf`).
-/

namespace ContractAudit.Source

open ContractAudit.Text

/-! ### Lines that open a span and lines that do not -/

/-- The line opens a span: it is no comment, and its code has a header, of which `text` is the text
from the keyword on. -/
def OpensSpan (line name text : Text) : Prop :=
  isComment line = false ∧ FirstHeader (codePart line) name text

/-- The line opens nothing: it is a comment, or its code has no header. -/
def IsGap (line : Text) : Prop :=
  isComment line = true ∨
    ∀ front name text, codePart line = front ++ text → ¬ HeaderBehind front name text

theorem opening?_eq_none_iff {number : Nat} {line : Text} :
    opening? number line = none ↔ IsGap line := by
  rw [opening?, IsGap, ← header?_eq_none_iff]
  split
  · rename_i h
    simp [h]
  · rename_i h
    simp [h]

instance (line : Text) : Decidable (IsGap line) :=
  decidable_of_iff (opening? 0 line = none) opening?_eq_none_iff

theorem opening?_eq_some_iff {number : Nat} {line : Text} {f : OpenFunction} {text : Text} :
    opening? number line = some (f, text) ↔
      ∃ name, OpensSpan line name text ∧ f = .atHeader name number := by
  simp only [opening?, OpensSpan, ← header?_eq_some_iff]
  split
  · rename_i h
    simp [h]
  · rename_i h
    simp only [Option.map_eq_some_iff, Prod.exists, Prod.mk.injEq]
    constructor
    · rintro ⟨name, t, hheader, rfl, rfl⟩
      exact ⟨name, ⟨by simpa using h, hheader⟩, rfl⟩
    · rintro ⟨name, ⟨-, hheader⟩, rfl⟩
      exact ⟨name, text, hheader, rfl, rfl⟩

theorem isGap_or_opensSpan (line : Text) : IsGap line ∨ ∃ name text, OpensSpan line name text := by
  cases h : opening? 0 line with
  | none => exact .inl (opening?_eq_none_iff.1 h)
  | some opened =>
    obtain ⟨name, hopens, -⟩ := opening?_eq_some_iff.1 h
    exact .inr ⟨name, opened.2, hopens⟩

theorem OpensSpan.not_isGap {line name text : Text} (h : OpensSpan line name text) :
    ¬ IsGap line := by
  intro hgap
  have hsome : opening? 0 line = some (.atHeader name 0, text) :=
    opening?_eq_some_iff.2 ⟨name, h, rfl⟩
  rw [opening?_eq_none_iff.2 hgap] at hsome
  cases hsome

theorem OpensSpan.unique {line name text name' text' : Text} (h : OpensSpan line name text)
    (h' : OpensSpan line name' text') : name = name' ∧ text = text' := by
  have hheader := header?_eq_some_iff.2 h.2
  rw [header?_eq_some_iff.2 h'.2, Option.some.injEq, Prod.mk.injEq] at hheader
  exact ⟨hheader.1.symm, hheader.2.symm⟩

/-! ### The decomposition -/

/-- A stretch of lines. -/
inductive Stretch where
  /-- One line that opens nothing. -/
  | gap (line : Text)
  /-- The lines of a span, and what counts of them. -/
  | span (fate : Fate) (name : Text) (texts lines : List Text)

namespace Stretch

/-- The lines of a stretch. -/
def lines : Stretch → List Text
  | gap line => [line]
  | span _ _ _ lines => lines

/-- Whether a stretch is a span that never ends. -/
def IsUnclosed : Stretch → Prop
  | gap _ => False
  | span fate _ _ _ => fate = .unclosed

end Stretch

/-- The texts of a span, from its first line on to the last line of the source. -/
def textsFrom (text : Text) (rest : List Text) : List Text :=
  text :: rest.map codePart

/-- The decomposition of lines, each stretch being the one with which the lines that are left
start. -/
inductive Greedy : List Text → List Stretch → Prop where
  | nil : Greedy [] []
  | gap {line : Text} {rest : List Text} {stretches : List Stretch} (isGap : IsGap line)
      (later : Greedy rest stretches) : Greedy (line :: rest) (.gap line :: stretches)
  | span {line name text : Text} {rest : List Text} {fate : Fate} {k : Nat}
      {stretches : List Stretch} (opens : OpensSpan line name text)
      (ends : Ends (textsFrom text rest) fate k)
      (later : Greedy ((line :: rest).drop k) stretches) :
      Greedy (line :: rest)
        (.span fate name ((textsFrom text rest).take k) ((line :: rest).take k) :: stretches)

/-- **Uniqueness.**  The lines that are left decide on the next stretch. -/
theorem Greedy.unique {ls : List Text} {stretches others : List Stretch} (h : Greedy ls stretches)
    (h' : Greedy ls others) : stretches = others := by
  induction h generalizing others with
  | nil =>
    cases h'
    rfl
  | gap isGap _ ih =>
    cases h' with
    | gap _ later => rw [ih later]
    | span opens _ _ => exact absurd isGap opens.not_isGap
  | span opens ends _ ih =>
    cases h' with
    | gap isGap _ => exact absurd isGap opens.not_isGap
    | span opens' ends' later' =>
      obtain ⟨rfl, rfl⟩ := opens.unique opens'
      obtain ⟨rfl, rfl⟩ := ends.unique ends'
      rw [ih later']

/-- Every span has a fate: the first line that ends it in either way, or none. -/
theorem exists_ends (texts : List Text) : ∃ fate k, Ends texts fate k := by
  classical
  by_cases hb : ∃ e, BodilessAt texts e
  · exact ⟨.bodiless, _, .bodiless ⟨Nat.find_spec hb, fun k hk => Nat.find_min' hb hk⟩⟩
  · have hbodied : ∀ k, ¬ BodilessAt texts k := fun k hk => hb ⟨k, hk⟩
    by_cases hc : ∃ e, ClosedAt texts e
    · exact ⟨.closed, _, .closed hbodied ⟨Nat.find_spec hc, fun k hk => Nat.find_min' hc hk⟩⟩
    · exact ⟨.unclosed, _, .unclosed hbodied fun k hk => hc ⟨k, hk⟩⟩

/-- **Existence.** -/
theorem exists_greedy (ls : List Text) : ∃ stretches, Greedy ls stretches := by
  induction hn : ls.length using Nat.strong_induction_on generalizing ls with
  | _ n ih =>
    cases ls with
    | nil => exact ⟨[], .nil⟩
    | cons line rest =>
      rw [List.length_cons] at hn
      rcases isGap_or_opensSpan line with hgap | ⟨name, text, hopens⟩
      · obtain ⟨stretches, hrest⟩ := ih rest.length (by omega) rest rfl
        exact ⟨_, .gap hgap hrest⟩
      · obtain ⟨fate, k, hends⟩ := exists_ends (textsFrom text rest)
        have hk : 0 < k := hends.pos (List.cons_ne_nil _ _)
        have hlen : ((line :: rest).drop k).length < n := by
          rw [List.length_drop, List.length_cons]
          omega
        obtain ⟨stretches, hrest⟩ := ih _ hlen ((line :: rest).drop k) rfl
        exact ⟨_, .span hopens hends hrest⟩

/-- No line is left out, and none is taken twice. -/
theorem Greedy.flatMap_lines {ls : List Text} {stretches : List Stretch} (h : Greedy ls stretches) :
    stretches.flatMap Stretch.lines = ls := by
  induction h with
  | nil => rfl
  | gap _ _ ih => rw [List.flatMap_cons, ih]; rfl
  | span _ _ _ ih => rw [List.flatMap_cons, ih, Stretch.lines, List.take_append_drop]

theorem Greedy.lines_ne_nil {ls : List Text} {stretches : List Stretch} (h : Greedy ls stretches) :
    ∀ stretch ∈ stretches, stretch.lines ≠ [] := by
  induction h with
  | nil => simp
  | gap _ _ ih =>
    intro stretch hmem
    rcases List.mem_cons.1 hmem with rfl | hmem
    · exact List.cons_ne_nil _ _
    · exact ih stretch hmem
  | @span line name text rest fate k _ _ ends _ ih =>
    intro stretch hmem
    rcases List.mem_cons.1 hmem with rfl | hmem
    · show (line :: rest).take k ≠ []
      have hk := ends.pos (List.cons_ne_nil _ _)
      simp [Nat.ne_of_gt hk]
    · exact ih stretch hmem

/-- An unclosed span takes all the lines that are left, so it is the last stretch. -/
theorem Greedy.not_unclosed_of_mem_dropLast {ls : List Text} {stretches : List Stretch}
    (h : Greedy ls stretches) : ∀ stretch ∈ stretches.dropLast, ¬ stretch.IsUnclosed := by
  induction h with
  | nil => simp
  | @gap line rest stretches _ _ ih =>
    intro stretch hmem
    cases stretches with
    | nil => simp at hmem
    | cons next stretches =>
      rw [List.dropLast_cons_cons] at hmem
      rcases List.mem_cons.1 hmem with rfl | hmem
      · exact id
      · exact ih stretch hmem
  | @span line name text rest fate k stretches _ ends later ih =>
    intro stretch hmem
    cases stretches with
    | nil => simp at hmem
    | cons next stretches =>
      rw [List.dropLast_cons_cons] at hmem
      rcases List.mem_cons.1 hmem with rfl | hmem
      · rintro rfl
        cases ends with
        | unclosed =>
          have hnil : (line :: rest).drop (textsFrom text rest).length = [] := by
            simp [textsFrom]
          rw [hnil] at later
          cases later
      · exact ih stretch hmem

/-! ### The scan follows the decomposition -/

/-- The segments of a decomposition, its first line having the given number. -/
def segmentsOf (default : Visibility) : Nat → List Stretch → List Segment
  | _, [] => []
  | number, .gap _ :: rest => segmentsOf default (number + 1) rest
  | number, .span fate name texts lines :: rest =>
    fate.segment default name number texts lines
      :: segmentsOf default (number + lines.length) rest

/-- A span is scanned in one go. -/
theorem segmentsFrom_span (default : Visibility) (number : Nat) {line name text : Text}
    {rest : List Text} {fate : Fate} {k : Nat} (hopens : OpensSpan line name text)
    (hends : Ends (textsFrom text rest) fate k) :
    segmentsFrom default number none (line :: rest)
      = fate.segment default name number ((textsFrom text rest).take k) ((line :: rest).take k)
        :: segmentsFrom default (number + k) none ((line :: rest).drop k) := by
  rw [segmentsFrom_none_of_opening (opening?_eq_some_iff.2 ⟨name, hopens, rfl⟩)]
  have htexts : textsFrom text rest = ([] ++ (line, text) :: withTexts rest).map Prod.snd := by
    simp [textsFrom]
  have hlines : line :: rest = ([] ++ (line, text) :: withTexts rest).map Prod.fst := by simp
  obtain ⟨fate', k', hends', hrun⟩ := spanFrom_spec default (reflects_atHeader name number)
    htexts hlines (fun k hk => absurd hk (Nat.not_lt_zero k))
  obtain ⟨rfl, rfl⟩ := hends.unique hends'
  exact hrun

/-- **The scan follows the decomposition.** -/
theorem Greedy.segmentsFrom_eq {ls : List Text} {stretches : List Stretch}
    (h : Greedy ls stretches) (default : Visibility) (number : Nat) :
    segmentsFrom default number none ls = segmentsOf default number stretches := by
  induction h generalizing number with
  | nil => rfl
  | gap isGap _ ih =>
    rw [segmentsFrom_none_of_gap (opening?_eq_none_iff.2 isGap), ih]
    rfl
  | @span line name text rest fate k stretches opens ends _ ih =>
    have hk : ((line :: rest).take k).length = k := by
      have hle := ends.le_length
      rw [textsFrom, List.length_cons, List.length_map] at hle
      rw [List.length_take, List.length_cons]
      omega
    rw [segmentsFrom_span default number opens ends, ih, segmentsOf, hk]

/-! ### The functions of a decomposition -/

/-- The function of a stretch, whose first line has the given number.  A closed span has one: with
the name of its header, the qualifiers of its signature, its lines and their numbers. -/
def Stretch.record? (default : Visibility) (number : Nat) : Stretch → Option FunctionDef
  | span .closed name texts lines =>
    some (FunctionDef.ofSignature default name (signatureOf texts) lines number
      ((number + lines.length - 1 : Nat) : Int))
  | _ => none

/-- The functions of a decomposition, its first line having the given number. -/
def recordsOf (default : Visibility) : Nat → List Stretch → List FunctionDef
  | _, [] => []
  | number, stretch :: rest =>
    (stretch.record? default number).toList ++ recordsOf default (number + stretch.lines.length) rest

theorem filterMap_segmentsOf (default : Visibility) (number : Nat) (stretches : List Stretch) :
    (segmentsOf default number stretches).filterMap Segment.function?
      = recordsOf default number stretches := by
  induction stretches generalizing number with
  | nil => rfl
  | cons stretch rest ih =>
    cases stretch with
    | gap line =>
      rw [segmentsOf, ih]
      rfl
    | span fate name texts lines =>
      rw [segmentsOf, List.filterMap_cons, ih, recordsOf]
      cases fate <;> rfl

/-- The functions of a source are the closed spans of its decomposition. -/
theorem functions_eq_recordsOf {source : Text} {stretches : List Stretch}
    (h : Greedy (lines source) stretches) (default : Visibility) :
    functions default source = recordsOf default 1 stretches := by
  rw [functions, segments, h.segmentsFrom_eq, filterMap_segmentsOf]

/-- **A source is cut greedily.**  Its lines have one and only one decomposition, which leaves out no
line and has no unclosed span before its last stretch; and the functions are exactly its closed
spans, in order. -/
theorem functions_greedy (default : Visibility) (source : Text) :
    ∃ stretches, Greedy (lines source) stretches ∧
      (∀ others, Greedy (lines source) others → others = stretches) ∧
      stretches.flatMap Stretch.lines = lines source ∧
      (∀ stretch ∈ stretches.dropLast, ¬ stretch.IsUnclosed) ∧
      functions default source = recordsOf default 1 stretches := by
  obtain ⟨stretches, h⟩ := exists_greedy (lines source)
  exact ⟨stretches, h, fun others hothers => hothers.unique h, h.flatMap_lines,
    h.not_unclosed_of_mem_dropLast, functions_eq_recordsOf h default⟩

end ContractAudit.Source
