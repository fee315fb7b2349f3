import ContractAudit.Proofs.Source.Scan
import ContractAudit.Proofs.Source.Spacing

/-!
# Sources that read alike

Two sources are compared line by line here, and two runs of the scan.  What the scan asks of a line is
whether it is a comment, and the code in front of its trailing comment; and of the code, blanks in
front do not count.  So lines that agree in this much do the same, whatever else they say.

* `ReadsAlike` -- lines that agree in this much;
* `FunctionDef.Alike` -- functions that agree line by line, one of them perhaps further down;
* `OpenFunction.Alike.take`, `scanLine_alike` -- **step**: what one line does;
* `scanFrom_alike` -- **run**: what several lines do;
* `functions_alike` -- the functions of sources whose lines read alike;
* `map_outline_eq` -- they agree in everything but their bodies.

The relation between the lines may be any under which lines read alike.  The functions then hand it on
to whoever looks at their lines.
-/

namespace ContractAudit.Source

open ContractAudit.Text

/-! ### Lines -/

/-- The lines agree in whether they are comments, and in their code behind the blanks in front. -/
structure ReadsAlike (line other : Text) : Prop where
  isComment_eq : isComment line = isComment other
  code_eq : (codePart line).dropWhile isBlank = (codePart other).dropWhile isBlank

namespace ReadsAlike

variable {line other : Text}

theorem of_dropWhile_eq (h : line.dropWhile isBlank = other.dropWhile isBlank) :
    ReadsAlike line other :=
  ⟨marginFree_isComment.eq_of_dropWhile_eq h, marginFree_code.eq_of_dropWhile_eq h⟩

/-- What does not depend on blanks in front is the same for the code of both. -/
theorem ask_codePart (h : ReadsAlike line other) {β : Type} {ask : Text → β} (hask : MarginFree ask) :
    ask (codePart line) = ask (codePart other) :=
  hask.eq_of_dropWhile_eq h.code_eq

theorem isStateMutation_eq (h : ReadsAlike line other) :
    isStateMutation line = isStateMutation other := by
  unfold isStateMutation
  simp only [h.isComment_eq, h.ask_codePart marginFree_isBlankText,
    h.ask_codePart Idiom.marginFree_mappingAssignment,
    h.ask_codePart Idiom.marginFree_localDeclaration, h.ask_codePart Idiom.marginFree_forHeader,
    h.ask_codePart Idiom.marginFree_increment, h.ask_codePart Idiom.marginFree_assignment,
    h.ask_codePart Idiom.marginFree_scopedVariable]

theorem opening?_eq (h : ReadsAlike line other) (number : Nat) :
    opening? number line = opening? number other := by
  rw [opening?, opening?, h.isComment_eq, h.ask_codePart marginFree_header?]

end ReadsAlike

/-! ### Functions -/

/-- The functions agree in their names and qualifiers, the second stands `k` lines further down, and
their lines correspond. -/
structure FunctionDef.Alike (k : Nat) (R : Text → Text → Prop) (f g : FunctionDef) : Prop where
  name_eq : g.name = f.name
  visibility_eq : g.visibility = f.visibility
  payable_eq : g.payable = f.payable
  mutability_eq : g.mutability = f.mutability
  lineStart_eq : g.lineStart = f.lineStart + k
  lineEnd_eq : g.lineEnd = f.lineEnd + k
  lines : List.Forall₂ R (splitWhere (· == '\n') f.body) (splitWhere (· == '\n') g.body)

/-- The open functions agree, the second stands `k` lines further down, their lines correspond, and what
stood in front of the first brace agrees behind the blanks in front of each line. -/
structure OpenFunction.Alike (k : Nat) (R : Text → Text → Prop) (f g : OpenFunction) : Prop where
  name_eq : g.name = f.name
  start_eq : g.start = f.start + k
  body : List.Forall₂ R f.body g.body
  heads : List.Forall₂ (fun l m => l.dropWhile isBlank = m.dropWhile isBlank) f.heads g.heads
  depth_eq : g.depth = f.depth
  opened_eq : g.opened = f.opened

/-- Functions in both segments that are alike, or in neither. -/
def Segment.Alike (k : Nat) (R : Text → Text → Prop) (segment other : Segment) : Prop :=
  Option.Rel (FunctionDef.Alike k R) segment.function? other.function?

/-- Segments that are alike and open functions that are alike. -/
def StepAlike (k : Nat) (R : Text → Text → Prop)
    (step other : Option Segment × Option OpenFunction) : Prop :=
  Option.Rel (Segment.Alike k R) step.1 other.1 ∧ Option.Rel (OpenFunction.Alike k R) step.2 other.2

/-! ### What counts of the code of a line -/

section Code

variable {stop : Char}

theorem marginFree_count (hstop : isBlank stop = false) : MarginFree (List.count stop) := by
  intro c hc s
  refine List.count_cons_of_ne ?_
  rintro rfl
  rw [hc] at hstop
  cases hstop

theorem marginFree_contains (hstop : isBlank stop = false) :
    MarginFree fun code => code.contains stop := by
  intro c hc s
  have hcount := marginFree_count hstop c hc s
  rw [Bool.eq_iff_iff, List.contains_iff_mem, List.contains_iff_mem, ← List.count_pos_iff,
    ← List.count_pos_iff, hcount]

/-- What stands in front of a visible character, up to blanks. -/
theorem dropWhile_takeWhile_eq (hstop : isBlank stop = false) {code code' : Text}
    (h : code.dropWhile isBlank = code'.dropWhile isBlank) :
    (code.takeWhile (· != stop)).dropWhile isBlank
      = (code'.takeWhile (· != stop)).dropWhile isBlank := by
  have hfree : MarginFree fun code : Text => (code.takeWhile (· != stop)).dropWhile isBlank := by
    intro c hc s
    have hne : (c != stop) = true := by
      rw [bne_iff_ne]
      rintro rfl
      rw [hc] at hstop
      cases hstop
    dsimp only
    rw [List.takeWhile_cons, hne]
    exact List.dropWhile_cons_of_pos hc
  exact hfree.eq_of_dropWhile_eq h

end Code

/-! ### The scan -/

section Scan

variable {k : Nat} {R : Text → Text → Prop} {f g : OpenFunction} {line other code code' : Text}

namespace OpenFunction.Alike

theorem endsBodiless_eq (h : f.Alike k R g)
    (hcode : code.dropWhile isBlank = code'.dropWhile isBlank) :
    g.endsBodiless code' = f.endsBodiless code := by
  have hhead := dropWhile_takeWhile_eq (by decide : isBlank '{' = false) hcode
  have hsemicolon := (marginFree_contains (by decide : isBlank ';' = false)).eq_of_dropWhile_eq hhead
  rw [endsBodiless, endsBodiless, h.opened_eq, hsemicolon]

theorem extend (h : f.Alike k R g) (hline : R line other)
    (hcode : code.dropWhile isBlank = code'.dropWhile isBlank) :
    (f.extend line code).Alike k R (g.extend other code') where
  name_eq := h.name_eq
  start_eq := h.start_eq
  body := .cons hline h.body
  heads := by
    have hhead := dropWhile_takeWhile_eq (by decide : isBlank '{' = false) hcode
    simp only [OpenFunction.extend, h.opened_eq]
    split
    · exact h.heads
    · exact .cons hhead h.heads
  depth_eq := by
    have hopens := (marginFree_count (by decide : isBlank '{' = false)).eq_of_dropWhile_eq hcode
    have hcloses := (marginFree_count (by decide : isBlank '}' = false)).eq_of_dropWhile_eq hcode
    simp only [OpenFunction.extend, h.depth_eq, hopens, hcloses]
  opened_eq := by
    have hopens := (marginFree_count (by decide : isBlank '{' = false)).eq_of_dropWhile_eq hcode
    simp only [OpenFunction.extend, h.opened_eq, hopens]

theorem endsClosed_eq (h : f.Alike k R g)
    (hcode : code.dropWhile isBlank = code'.dropWhile isBlank) :
    g.endsClosed code' = f.endsClosed code := by
  have hbrace := (marginFree_contains (by decide : isBlank '}' = false)).eq_of_dropWhile_eq hcode
  rw [endsClosed, endsClosed, h.opened_eq, h.depth_eq, hbrace]

/-- The qualifiers of a signature do not depend on its spacing, and the lines of a function are cut
again where they were joined. -/
theorem close (h : f.Alike k R g) (hne : f.body ≠ [])
    (hfeed : ∀ line other, R line other → '\n' ∉ line ∧ '\n' ∉ other) (default : Visibility)
    (number : Nat) :
    (f.close default number).Alike k R (g.close default (number + k : Nat)) := by
  have hwords : words (qualifiers g.signature) = words (qualifiers f.signature) :=
    (words_qualifiers_respaced
      (respaced_flatMap (by decide : isBlank ' ' = true) (List.rel_reverse h.heads))).symm
  have hbody : List.Forall₂ R f.body.reverse g.body.reverse := List.rel_reverse h.body
  have hmem : (∀ line ∈ f.body.reverse, '\n' ∉ line) ∧ ∀ other ∈ g.body.reverse, '\n' ∉ other := by
    generalize f.body.reverse = ls, g.body.reverse = ms at hbody
    induction hbody with
    | nil => exact ⟨List.forall_mem_nil _, List.forall_mem_nil _⟩
    | cons hline _ ih =>
      exact ⟨List.forall_mem_cons.2 ⟨(hfeed _ _ hline).1, ih.1⟩,
        List.forall_mem_cons.2 ⟨(hfeed _ _ hline).2, ih.2⟩⟩
  have hne' : g.body ≠ [] := by
    intro hnil
    rw [← List.length_eq_zero_iff, ← h.body.length_eq, List.length_eq_zero_iff] at hnil
    exact hne hnil
  rw [OpenFunction.close, OpenFunction.close, ofSignature_eq, ofSignature_eq, hwords]
  refine ⟨h.name_eq, rfl, rfl, rfl, congrArg Nat.cast h.start_eq, rfl, ?_⟩
  dsimp only
  rw [splitWhere_unlines (by simpa using hne) hmem.1, splitWhere_unlines (by simpa using hne') hmem.2]
  exact hbody

/-- **Step**, inside a function: a line ends both functions in the same way, or stays in both. -/
theorem take (h : f.Alike k R g) (hline : R line other)
    (hcode : code.dropWhile isBlank = code'.dropWhile isBlank)
    (hfeed : ∀ line other, R line other → '\n' ∉ line ∧ '\n' ∉ other) (default : Visibility)
    (number : Nat) :
    StepAlike k R (f.take default number line code) (g.take default (number + k) other code') := by
  have hextend := h.extend hline hcode
  rw [OpenFunction.take, OpenFunction.take, h.endsBodiless_eq hcode, hextend.endsClosed_eq hcode]
  split
  · exact ⟨.some .none, .none⟩
  · split
    · exact ⟨.some (.some (hextend.close (List.cons_ne_nil line f.body) hfeed default number)), .none⟩
    · exact ⟨.none, .some hextend⟩

end OpenFunction.Alike

/-- A function that has just been opened has no lines yet. -/
theorem exists_atHeader_of_opening? {number : Nat} {entry : OpenFunction × Text}
    (h : opening? number line = some entry) : ∃ name, entry.1 = OpenFunction.atHeader name number := by
  rw [opening?] at h
  split at h
  · cases h
  · obtain ⟨found, -, rfl⟩ := Option.map_eq_some_iff.1 h
    exact ⟨found.1, rfl⟩

theorem forall₂_toList {α : Type} {P : α → α → Prop} {a b : Option α} (h : Option.Rel P a b) :
    List.Forall₂ P a.toList b.toList := by
  cases h with
  | none => exact .nil
  | some h => exact .cons h .nil

variable (hfeed : ∀ line other, R line other → '\n' ∉ line ∧ '\n' ∉ other)

include hfeed

/-- **Step.**  Lines that read alike do the same when the same function is open. -/
theorem scanLine_alike (hline : R line other) (halike : ReadsAlike line other) (default : Visibility)
    (number : Nat) {current current' : Option OpenFunction}
    (hcurrent : Option.Rel (OpenFunction.Alike k R) current current') :
    StepAlike k R (scanLine default number current line)
      (scanLine default (number + k) current' other) := by
  cases hcurrent with
  | some h => exact h.take hline halike.code_eq hfeed default number
  | none =>
    rw [scanLine, scanLine, entered?, entered?, ← halike.opening?_eq, opening?_shift]
    cases hopening : opening? number line with
    | none => exact ⟨.none, .none⟩
    | some entry =>
      obtain ⟨name, hname⟩ := exists_atHeader_of_opening? hopening
      have hopen : entry.1.Alike k R (entry.1.shift k) := by
        rw [hname]
        exact ⟨rfl, rfl, .nil, .nil, rfl, rfl⟩
      exact hopen.take hline rfl hfeed default number

/-- **Run.**  Lines that read alike, one by one, have functions that are alike. -/
theorem scanFrom_alike {ls ms : List Text}
    (hlines : List.Forall₂ (fun line other => R line other ∧ ReadsAlike line other) ls ms)
    (default : Visibility) (number : Nat) {current current' : Option OpenFunction}
    (hcurrent : Option.Rel (OpenFunction.Alike k R) current current') :
    List.Forall₂ (Segment.Alike k R) (scanFrom default number current ls).1
      (scanFrom default (number + k) current' ms).1 ∧
    Option.Rel (OpenFunction.Alike k R) (scanFrom default number current ls).2
      (scanFrom default (number + k) current' ms).2 := by
  induction hlines generalizing number current current' with
  | nil => exact ⟨.nil, hcurrent⟩
  | cons hline _ ih =>
    obtain ⟨hsegment, hopen⟩ := scanLine_alike hfeed hline.1 hline.2 default number hcurrent
    have hnumber : number + k + 1 = number + 1 + k := by omega
    obtain ⟨hlater, hend⟩ := ih (number + 1) hopen
    rw [scanFrom, scanFrom, hnumber]
    exact ⟨List.rel_append (forall₂_toList hsegment) hlater, hend⟩

end Scan

/-! ### The functions of a source -/

theorem FunctionDef.Alike.imp {k : Nat} {R Q : Text → Text → Prop} {f g : FunctionDef}
    (h : f.Alike k R g) (hRQ : ∀ line other, R line other → Q line other) : f.Alike k Q g :=
  { h with lines := h.lines.imp hRQ }

/-- Lines of sources that correspond have no line feeds in them. -/
theorem forall₂_lines {R : Text → Text → Prop} {s t : Text}
    (hlines : List.Forall₂ R (lines s) (lines t)) :
    List.Forall₂ (fun line other => R line other ∧ '\n' ∉ line ∧ '\n' ∉ other) (lines s) (lines t) := by
  rw [List.forall₂_iff_zip] at hlines ⊢
  refine ⟨hlines.1, fun {line other} hpair => ⟨hlines.2 hpair, ?_⟩⟩
  obtain ⟨hline, hother⟩ := List.of_mem_zip hpair
  exact ⟨newline_not_mem_of_mem_lines hline, newline_not_mem_of_mem_lines hother⟩

/-- The functions of sources whose lines read alike, the lines of the second numbered from `k` further
on. -/
theorem functionsFrom_alike {R : Text → Text → Prop}
    (hR : ∀ line other, R line other → ReadsAlike line other) {s t : Text}
    (hlines : List.Forall₂ R (lines s) (lines t)) (default : Visibility) (k : Nat) :
    List.Forall₂ (FunctionDef.Alike k R) (functions default s)
      ((scanFrom default (1 + k) none (lines t)).1.filterMap Segment.function?) := by
  have hfed := (forall₂_lines hlines).imp fun line other h => And.intro h (hR line other h.1)
  have hsegments := (scanFrom_alike (k := k) (fun _ _ h => h.2) hfed default 1 .none).1
  rw [functions_eq]
  exact (List.rel_filterMap (fun _ _ h => h) hsegments).imp
    fun f g h => h.imp fun _ _ hline => hline.1

/-- **The functions of sources whose lines read alike.** -/
theorem functions_alike {R : Text → Text → Prop}
    (hR : ∀ line other, R line other → ReadsAlike line other) {s t : Text}
    (hlines : List.Forall₂ R (lines s) (lines t)) (default : Visibility) :
    List.Forall₂ (FunctionDef.Alike 0 R) (functions default s) (functions default t) := by
  rw [functions_eq default t]
  exact functionsFrom_alike hR hlines default 0

/-- Lists that agree item by item, as far as a function tells, have the same images. -/
theorem forall₂_iff_map_eq {α β : Type} {f : α → β} {l m : List α} :
    List.Forall₂ (fun a b => f a = f b) l m ↔ l.map f = m.map f := by
  rw [← List.forall₂_eq_eq_eq, List.forall₂_map_left_iff, List.forall₂_map_right_iff]

/-- The definition without its body. -/
def FunctionDef.outline (f : FunctionDef) : FunctionDef :=
  { f with body := [] }

/-- Functions that are alike and stand on the same lines agree, bodies apart. -/
theorem map_outline_eq {R : Text → Text → Prop} {fs gs : List FunctionDef}
    (h : List.Forall₂ (FunctionDef.Alike 0 R) fs gs) :
    fs.map FunctionDef.outline = gs.map FunctionDef.outline := by
  refine forall₂_iff_map_eq.1 (h.imp fun f g hfg => ?_)
  have hstart : g.lineStart = f.lineStart := by simpa using hfg.lineStart_eq
  have hend : g.lineEnd = f.lineEnd := by simpa using hfg.lineEnd_eq
  rw [FunctionDef.outline, FunctionDef.outline, hfg.name_eq, hfg.visibility_eq, hfg.payable_eq,
    hfg.mutability_eq, hstart, hend]

/-! ### The lines of a function -/

section Lines

variable {k : Nat} {R : Text → Text → Prop} {f g : FunctionDef}

/-- Numbered lines that correspond, the second `k` further down. -/
def NumberedAlike (k : Nat) (R : Text → Text → Prop) (p q : Int × Text) : Prop :=
  q.1 = p.1 + k ∧ R p.2 q.2

/-- Lines that correspond, numbered from places `k` apart. -/
theorem numberFrom_alike {ls ms : List Text} (h : List.Forall₂ R ls ms) (n : Int) :
    List.Forall₂ (NumberedAlike k R) (FunctionDef.numberFrom n ls)
      (FunctionDef.numberFrom (n + k) ms) := by
  induction h generalizing n with
  | nil => exact .nil
  | cons hline _ ih =>
    have hnext : n + k + 1 = n + 1 + k := by omega
    rw [FunctionDef.numberFrom, FunctionDef.numberFrom, hnext]
    exact .cons ⟨rfl, hline⟩ (ih (n + 1))

theorem FunctionDef.Alike.numberedLines (h : f.Alike k R g) :
    List.Forall₂ (NumberedAlike k R) f.numberedLines g.numberedLines := by
  rw [FunctionDef.numberedLines, FunctionDef.numberedLines, h.lineStart_eq]
  exact numberFrom_alike h.lines f.lineStart

/-- The first piece of a text goes up to the first newline. -/
theorem head?_splitWhere_newline (s : Text) :
    (splitWhere (· == '\n') s).head? = some (s.takeWhile (· != '\n')) := by
  refine splitWhere_induction
    (motive := fun s pieces => pieces.head? = some (s.takeWhile (· != '\n'))) rfl ?_ ?_ s
  · intro c s piece pieces hc _
    rw [List.takeWhile_cons_of_neg (by simpa using hc)]
    rfl
  · intro c s piece pieces hc ih
    rw [List.takeWhile_cons_of_pos (by simpa using hc)]
    exact congrArg (Option.map (c :: ·)) ih

/-- The first lines correspond. -/
theorem FunctionDef.Alike.firstLine (h : f.Alike k R g) :
    R (f.body.takeWhile (· != '\n')) (g.body.takeWhile (· != '\n')) := by
  have hlines := h.lines
  have hf := head?_splitWhere_newline f.body
  have hg := head?_splitWhere_newline g.body
  generalize splitWhere (· == '\n') f.body = ls at hlines hf
  generalize splitWhere (· == '\n') g.body = ms at hlines hg
  cases hlines with
  | nil => cases hf
  | cons hline _ =>
    cases hf
    cases hg
    exact hline

/-- What does not depend on spacing is the same for the bodies, if lines that correspond agree behind
the blanks in front. -/
theorem FunctionDef.Alike.ask_body (h : f.Alike k R g)
    (hR : ∀ line other, R line other → line.dropWhile isBlank = other.dropWhile isBlank)
    {β : Type} {ask : Text → β} (hask : SpacingFree ask) : ask f.body = ask g.body := by
  have hsame := hask.unlines_eq (h.lines.imp hR)
  rwa [unlines, joinWith_splitWhere, unlines, joinWith_splitWhere] at hsame

end Lines

end ContractAudit.Source
