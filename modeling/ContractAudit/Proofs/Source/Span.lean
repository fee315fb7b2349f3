import ContractAudit.Proofs.Source.Header
import ContractAudit.Source.Segment
import Mathlib.Order.Bounds.Basic

/-!
# Spans

A header opens a span of lines.  What counts of the lines are their texts: each line without its
trailing comment, the first one from the keyword on.  Where the span ends is said here by indices
alone, without a scan:

* `BodilessAt` -- no brace has been opened before the line, and a semicolon stands on it in front of
  its first opening brace;
* `ClosedAt` -- a brace has been opened, the line has a closing one, and up to its end no more are
  opened than closed;
* `Ends` -- the fate of a span: bodiless at the first line of the one kind; otherwise closed at the
  first line of the other; otherwise unclosed, up to the last line.

A list of texts has no more than one fate (`Ends.unique`).  The scan keeps a flag, a depth and the
heads of the lines; `Reflects` is the invariant that ties them to the texts taken in so far,
`Reflects.extend` the step that keeps it, and `spanFrom_spec` the run: the scan leaves a span where
`Ends` says, with the segment that belongs to the fate.
-/

namespace ContractAudit.Source

open ContractAudit.Text

/-! ### The end of a span -/

/-- The braces that the texts open less those that they close. -/
def netBraces : List Text → Int
  | [] => 0
  | t :: ts => t.count '{' - t.count '}' + netBraces ts

/-- The texts have not opened a brace before index `e`, and at `e` a semicolon stands in front of the
first opening brace. -/
def BodilessAt (texts : List Text) (e : Nat) : Prop :=
  ∃ t, texts[e]? = some t ∧ (∀ s ∈ texts.take e, '{' ∉ s) ∧ ';' ∈ t.takeWhile (· != '{')

/-- The texts have opened a brace, the one at index `e` closes one, and by its end no more are opened
than closed. -/
def ClosedAt (texts : List Text) (e : Nat) : Prop :=
  ∃ t, texts[e]? = some t ∧ (∃ s ∈ texts.take (e + 1), '{' ∈ s) ∧ '}' ∈ t ∧
    netBraces (texts.take (e + 1)) ≤ 0

/-- The ways in which a span ends. -/
inductive Fate where
  | bodiless
  | closed
  | unclosed
  deriving DecidableEq, Repr

/-- The fate of the span that the texts start with, and the number of its lines. -/
inductive Ends (texts : List Text) : Fate → Nat → Prop where
  | bodiless {e : Nat} (first : IsLeast {e | BodilessAt texts e} e) : Ends texts .bodiless (e + 1)
  | closed {e : Nat} (bodied : ∀ k, ¬ BodilessAt texts k)
      (first : IsLeast {e | ClosedAt texts e} e) : Ends texts .closed (e + 1)
  | unclosed (bodied : ∀ k, ¬ BodilessAt texts k) (never : ∀ k, ¬ ClosedAt texts k) :
      Ends texts .unclosed texts.length

/-- **A span has one fate.** -/
theorem Ends.unique {texts : List Text} {fate fate' : Fate} {k k' : Nat} (h : Ends texts fate k)
    (h' : Ends texts fate' k') : fate = fate' ∧ k = k' := by
  cases h with
  | bodiless first =>
    cases h' with
    | bodiless first' => exact ⟨rfl, by rw [first.unique first']⟩
    | closed bodied _ => exact absurd first.1 (bodied _)
    | unclosed bodied _ => exact absurd first.1 (bodied _)
  | closed bodied first =>
    cases h' with
    | bodiless first' => exact absurd first'.1 (bodied _)
    | closed _ first' => exact ⟨rfl, by rw [first.unique first']⟩
    | unclosed _ never => exact absurd first.1 (never _)
  | unclosed bodied never =>
    cases h' with
    | bodiless first' => exact absurd first'.1 (bodied _)
    | closed _ first' => exact absurd first'.1 (never _)
    | unclosed _ _ => exact ⟨rfl, rfl⟩

/-- A span lies within its texts. -/
theorem Ends.le_length {texts : List Text} {fate : Fate} {k : Nat} (h : Ends texts fate k) :
    k ≤ texts.length := by
  cases h with
  | bodiless first =>
    obtain ⟨t, ht, -⟩ := first.1
    exact (List.getElem?_eq_some_iff.1 ht).1
  | closed _ first =>
    obtain ⟨t, ht, -⟩ := first.1
    exact (List.getElem?_eq_some_iff.1 ht).1
  | unclosed _ _ => exact Nat.le_refl _

/-- A span has at least one line. -/
theorem Ends.pos {texts : List Text} {fate : Fate} {k : Nat} (h : Ends texts fate k)
    (hne : texts ≠ []) : 0 < k := by
  cases h with
  | bodiless _ => exact Nat.succ_pos _
  | closed _ _ => exact Nat.succ_pos _
  | unclosed _ _ => exact List.length_pos_iff.2 hne

/-! ### The two conditions, one text after those seen -/

theorem bodilessAt_append {seen : List Text} {t : Text} {rest : List Text} :
    BodilessAt (seen ++ t :: rest) seen.length ↔
      (∀ s ∈ seen, '{' ∉ s) ∧ ';' ∈ t.takeWhile (· != '{') := by
  simp only [BodilessAt, List.getElem?_append_right (Nat.le_refl _), Nat.sub_self,
    List.getElem?_cons_zero, Option.some.injEq, List.take_left', exists_eq_left']

theorem closedAt_append {seen : List Text} {t : Text} {rest : List Text} :
    ClosedAt (seen ++ t :: rest) seen.length ↔
      (∃ s ∈ seen ++ [t], '{' ∈ s) ∧ '}' ∈ t ∧ netBraces (seen ++ [t]) ≤ 0 := by
  have htake : (seen ++ t :: rest).take (seen.length + 1) = seen ++ [t] := by
    rw [List.append_cons, List.take_left' (by simp)]
  simp only [ClosedAt, List.getElem?_append_right (Nat.le_refl _), Nat.sub_self,
    List.getElem?_cons_zero, Option.some.injEq, htake, exists_eq_left']

/-- Past the last text nothing ends. -/
theorem lt_length_of_bodilessAt {texts : List Text} {e : Nat} (h : BodilessAt texts e) :
    e < texts.length := by
  obtain ⟨t, ht, -⟩ := h
  exact (List.getElem?_eq_some_iff.1 ht).1

theorem lt_length_of_closedAt {texts : List Text} {e : Nat} (h : ClosedAt texts e) :
    e < texts.length := by
  obtain ⟨t, ht, -⟩ := h
  exact (List.getElem?_eq_some_iff.1 ht).1

/-- Where a brace has been opened, no later line is bodiless. -/
theorem not_bodilessAt_of_closedAt {texts : List Text} {e k : Nat} (h : ClosedAt texts e)
    (hk : e < k) : ¬ BodilessAt texts k := by
  rintro ⟨t, -, hnone, -⟩
  obtain ⟨-, -, ⟨s, hs, hopen⟩, -⟩ := h
  have hs' : s ∈ texts.take k := (List.take_sublist_take_left hk).subset hs
  exact hnone s hs' hopen

/-! ### The signature of a span -/

/-- What stands in front of the first opening brace: the texts up to the one that opens it, and of
that one what stands in front of the brace. -/
def headsOf : List Text → List Text
  | [] => []
  | t :: ts => t.takeWhile (· != '{') :: if '{' ∈ t then [] else headsOf ts

/-- The heads as one text, each behind a blank. -/
def signatureOf (texts : List Text) : Text :=
  (headsOf texts).flatMap (' ' :: ·)

/-- Once a brace is open, no further text has a head. -/
theorem headsOf_append_of_open {seen : List Text} (h : ∃ s ∈ seen, '{' ∈ s) (rest : List Text) :
    headsOf (seen ++ rest) = headsOf seen := by
  induction seen with
  | nil =>
    obtain ⟨s, hs, -⟩ := h
    cases hs
  | cons t seen ih =>
    rw [List.cons_append, headsOf, headsOf]
    split
    · rfl
    · rename_i ht
      rw [ih (by simpa [ht] using h)]

/-- As long as no brace is open, every text has a head. -/
theorem headsOf_append_of_not_open {seen : List Text} (h : ∀ s ∈ seen, '{' ∉ s)
    (rest : List Text) : headsOf (seen ++ rest) = headsOf seen ++ headsOf rest := by
  induction seen with
  | nil => rfl
  | cons t seen ih =>
    have ht : '{' ∉ t := h t List.mem_cons_self
    have hseen : ∀ s ∈ seen, '{' ∉ s := fun s hs => h s (List.mem_cons_of_mem t hs)
    rw [List.cons_append, headsOf, headsOf, if_neg ht, if_neg ht, ih hseen, List.cons_append]

/-! ### The scan of a span -/

/-- The scan inside a function, over lines that come with the text that counts of each. -/
def spanFrom (default : Visibility) : Nat → OpenFunction → List (Text × Text) → List Segment
  | _, f, [] => [.unclosed f.name f.start]
  | number, f, (line, text) :: rest =>
    if f.endsBodiless text then
      .bodiless f.name f.start :: segmentsFrom default (number + 1) none (rest.map Prod.fst)
    else if (f.extend line text).endsClosed text then
      .closed ((f.extend line text).close default number)
        :: segmentsFrom default (number + 1) none (rest.map Prod.fst)
    else spanFrom default (number + 1) (f.extend line text) rest

/-- The lines with what counts of each when no keyword is on it. -/
def withTexts (lines : List Text) : List (Text × Text) :=
  lines.map fun line => (line, codePart line)

@[simp]
theorem map_fst_withTexts (lines : List Text) : (withTexts lines).map Prod.fst = lines := by
  simp [withTexts, Function.comp_def]

@[simp]
theorem map_snd_withTexts (lines : List Text) :
    (withTexts lines).map Prod.snd = lines.map codePart := by
  simp [withTexts, Function.comp_def]

/-- Inside a function the scan goes on as the scan of a span. -/
theorem segmentsFrom_some (default : Visibility) (number : Nat) (f : OpenFunction)
    (lines : List Text) :
    segmentsFrom default number (some f) lines = spanFrom default number f (withTexts lines) := by
  induction lines generalizing number f with
  | nil => rfl
  | cons line lines ih =>
    show segmentsFrom default number (some f) (line :: lines)
      = spanFrom default number f ((line, codePart line) :: withTexts lines)
    simp only [segmentsFrom, spanFrom, map_fst_withTexts, ih]

/-- A line that opens nothing is passed over. -/
theorem segmentsFrom_none_of_gap {default : Visibility} {number : Nat} {line : Text}
    (h : opening? number line = none) (lines : List Text) :
    segmentsFrom default number none (line :: lines)
      = segmentsFrom default (number + 1) none lines := by
  simp only [segmentsFrom, h]

/-- A line that opens a function starts the scan of a span. -/
theorem segmentsFrom_none_of_opening {default : Visibility} {number : Nat} {line : Text}
    {f : OpenFunction} {text : Text} (h : opening? number line = some (f, text))
    (lines : List Text) :
    segmentsFrom default number none (line :: lines)
      = spanFrom default number f ((line, text) :: withTexts lines) := by
  simp only [segmentsFrom, h, spanFrom, map_fst_withTexts, segmentsFrom_some]

/-! ### The invariant of the scan -/

/-- The state of the scan is what the lines taken in so far, and their texts, make it. -/
structure Reflects (f : OpenFunction) (name : Text) (start : Nat) (seen : List (Text × Text)) :
    Prop where
  name_eq : f.name = name
  start_eq : f.start = start
  body_eq : f.body.reverse = seen.map Prod.fst
  heads_eq : f.heads.reverse = headsOf (seen.map Prod.snd)
  depth_eq : f.depth = netBraces (seen.map Prod.snd)
  opened_iff : f.opened = true ↔ ∃ s ∈ seen.map Prod.snd, '{' ∈ s

theorem reflects_atHeader (name : Text) (start : Nat) :
    Reflects (.atHeader name start) name start [] :=
  ⟨rfl, rfl, rfl, rfl, rfl, by simp [OpenFunction.atHeader]⟩

theorem netBraces_append (ts us : List Text) : netBraces (ts ++ us) = netBraces ts + netBraces us := by
  induction ts with
  | nil => simp [netBraces]
  | cons t ts ih =>
    rw [List.cons_append, netBraces, netBraces, ih]
    omega

namespace Reflects

variable {f : OpenFunction} {name : Text} {start : Nat} {seen : List (Text × Text)}

theorem opened_eq_false_iff (h : Reflects f name start seen) :
    f.opened = false ↔ ∀ s ∈ seen.map Prod.snd, '{' ∉ s := by
  rw [← Bool.not_eq_true, h.opened_iff]
  simp only [not_exists, not_and]

/-- **Step.**  One more line keeps the invariant. -/
theorem extend (h : Reflects f name start seen) (line text : Text) :
    Reflects (f.extend line text) name start (seen ++ [(line, text)]) where
  name_eq := h.name_eq
  start_eq := h.start_eq
  body_eq := by
    simp [OpenFunction.extend, h.body_eq]
  heads_eq := by
    rw [List.map_append]
    by_cases hopen : f.opened = true
    · rw [headsOf_append_of_open (h.opened_iff.1 hopen), ← h.heads_eq]
      simp [OpenFunction.extend, hopen]
    · have hopen' : f.opened = false := by simpa using hopen
      rw [headsOf_append_of_not_open (h.opened_eq_false_iff.1 hopen'), ← h.heads_eq]
      simp [OpenFunction.extend, hopen', headsOf]
  depth_eq := by
    rw [List.map_append, netBraces_append, ← h.depth_eq]
    simp only [OpenFunction.extend, List.map_cons, List.map_nil, netBraces]
    omega
  opened_iff := by
    have htext : (text.count '{' != 0) = true ↔ '{' ∈ text := by
      rw [bne_iff_ne, Ne, List.count_eq_zero, not_not]
    simp only [OpenFunction.extend, Bool.or_eq_true, h.opened_iff, htext, List.map_append,
      List.mem_append, List.map_cons, List.map_nil, List.mem_singleton, or_and_right, exists_or,
      exists_eq_left]

/-- The test for a declaration without a body is the first condition. -/
theorem endsBodiless_iff (h : Reflects f name start seen) (text : Text) (rest : List Text) :
    f.endsBodiless text = true ↔
      BodilessAt (seen.map Prod.snd ++ text :: rest) seen.length := by
  rw [← List.length_map (f := Prod.snd), bodilessAt_append, ← h.opened_eq_false_iff]
  simp [OpenFunction.endsBodiless]

/-- The test for a last brace is the second condition. -/
theorem endsClosed_iff (h : Reflects f name start seen) (line text : Text) (rest : List Text) :
    (f.extend line text).endsClosed text = true ↔
      ClosedAt (seen.map Prod.snd ++ text :: rest) seen.length := by
  have hnext := h.extend line text
  rw [← List.length_map (f := Prod.snd), closedAt_append]
  simp only [OpenFunction.endsClosed, Bool.and_eq_true, decide_eq_true_eq, hnext.opened_iff,
    hnext.depth_eq, List.contains_iff_mem, List.map_append, List.map_cons, List.map_nil, and_assoc]

/-- The definition that is finished is made of the lines and of the signature of the texts. -/
theorem close_eq (h : Reflects f name start seen) (default : Visibility) (lineEnd : Nat) :
    f.close default lineEnd =
      FunctionDef.ofSignature default name (signatureOf (seen.map Prod.snd)) (seen.map Prod.fst)
        start lineEnd := by
  rw [OpenFunction.close, OpenFunction.signature, h.name_eq, h.start_eq, h.body_eq, h.heads_eq]
  rfl

end Reflects

/-! ### The run -/

/-- The segment of a span with the given fate, whose texts and lines are given. -/
def Fate.segment (default : Visibility) (name : Text) (start : Nat) (texts lines : List Text) :
    Fate → Segment
  | bodiless => .bodiless name start
  | closed => .closed (FunctionDef.ofSignature default name (signatureOf texts) lines start
      ((start + lines.length - 1 : Nat) : Int))
  | unclosed => .unclosed name start

/-- **Run.**  From a state that reflects the lines `seen`, none of which ended the span, the scan
leaves the span where its fate says and goes on outside of it. -/
theorem spanFrom_spec (default : Visibility) {name : Text} {start : Nat} {f : OpenFunction}
    {seen todo : List (Text × Text)} {texts lines : List Text} (hf : Reflects f name start seen)
    (htexts : texts = (seen ++ todo).map Prod.snd) (hlines : lines = (seen ++ todo).map Prod.fst)
    (hseen : ∀ k < seen.length, ¬ BodilessAt texts k ∧ ¬ ClosedAt texts k) :
    ∃ fate k, Ends texts fate k ∧
      spanFrom default (start + seen.length) f todo
        = fate.segment default name start (texts.take k) (lines.take k)
          :: segmentsFrom default (start + k) none (lines.drop k) := by
  induction todo generalizing f seen with
  | nil =>
    -- no line is left, so the span never ends
    rw [List.append_nil] at htexts hlines
    have hlen : texts.length = seen.length := by rw [htexts, List.length_map]
    refine ⟨.unclosed, texts.length, .unclosed (fun k hk => ?_) (fun k hk => ?_), ?_⟩
    · exact (hseen k (hlen ▸ lt_length_of_bodilessAt hk)).1 hk
    · exact (hseen k (hlen ▸ lt_length_of_closedAt hk)).2 hk
    · have hdrop : lines.drop texts.length = [] := by
        rw [hlen, hlines, List.drop_eq_nil_iff, List.length_map]
      rw [hdrop, spanFrom, hf.name_eq, hf.start_eq]
      rfl
  | cons pair todo ih =>
    obtain ⟨line, text⟩ := pair
    have htexts' : texts = seen.map Prod.snd ++ text :: todo.map Prod.snd := by
      rw [htexts, List.map_append, List.map_cons]
    have hbodiless := hf.endsBodiless_iff text (todo.map Prod.snd)
    have hclosed := hf.endsClosed_iff line text (todo.map Prod.snd)
    rw [← htexts'] at hbodiless hclosed
    -- what is left of the lines behind this one
    have hdrop : lines.drop (seen.length + 1) = todo.map Prod.fst := by
      rw [hlines, List.append_cons, List.map_append, List.drop_left' (by simp)]
    rw [spanFrom]
    by_cases hb : f.endsBodiless text = true
    · -- a declaration without a body
      refine ⟨.bodiless, seen.length + 1, .bodiless ⟨hbodiless.1 hb, fun k hk => ?_⟩, ?_⟩
      · exact Nat.le_of_not_lt fun hlt => (hseen k hlt).1 hk
      · rw [if_pos hb, hdrop, hf.name_eq, hf.start_eq]
        rfl
    rw [if_neg hb]
    have hnext := hf.extend line text
    by_cases hc : (f.extend line text).endsClosed text = true
    · -- the last brace: no later line is bodiless, since a brace is open
      have hat : ClosedAt texts seen.length := hclosed.1 hc
      have hbodied : ∀ k, ¬ BodilessAt texts k := fun k => by
        rcases Nat.lt_trichotomy k seen.length with hlt | rfl | hgt
        · exact (hseen k hlt).1
        · exact fun h => hb (hbodiless.2 h)
        · exact not_bodilessAt_of_closedAt hat hgt
      refine ⟨.closed, seen.length + 1, .closed hbodied ⟨hat, fun k hk => ?_⟩, ?_⟩
      · exact Nat.le_of_not_lt fun hlt => (hseen k hlt).2 hk
      · have htake : texts.take (seen.length + 1) = (seen ++ [(line, text)]).map Prod.snd := by
          rw [htexts, List.append_cons, List.map_append, List.take_left' (by simp)]
        have htake' : lines.take (seen.length + 1) = (seen ++ [(line, text)]).map Prod.fst := by
          rw [hlines, List.append_cons, List.map_append, List.take_left' (by simp)]
        rw [if_pos hc, hdrop, hnext.close_eq, Fate.segment, htake, htake', List.length_map,
          List.length_append]
        rfl
    · -- the span goes on
      rw [if_neg hc]
      have hgoes : ∀ k < (seen ++ [(line, text)]).length,
          ¬ BodilessAt texts k ∧ ¬ ClosedAt texts k := fun k hk => by
        rw [List.length_append, List.length_singleton] at hk
        rcases Nat.lt_succ_iff_lt_or_eq.1 hk with hlt | rfl
        · exact hseen k hlt
        · exact ⟨fun h => hb (hbodiless.2 h), fun h => hc (hclosed.2 h)⟩
      have hrun := ih hnext (by rw [htexts, List.append_cons]) (by rw [hlines, List.append_cons])
        hgoes
      rw [List.length_append, List.length_singleton, ← Nat.add_assoc] at hrun
      exact hrun

end ContractAudit.Source
