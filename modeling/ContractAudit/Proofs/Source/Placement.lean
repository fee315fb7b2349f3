import ContractAudit.Proofs.Source.Decomposition
import ContractAudit.Proofs.Text.Pieces

/-!
# Where the functions of a source stand

The line numbers and the body of a function are those of a stretch of the source, and no two
functions share a line.

* `FunctionDef.StandsBehind` -- a definition takes certain lines, behind certain others;
* `exists_standsBehind` -- every function of a source does, and the lines are lines of the source;
* `exists_opening_line` -- the first of these lines is the one that opens the function;
* `functions_pairwise` -- each function ends before the next one starts;
* `numberedLines_eq` -- the numbered lines of a function are the lines of the source under their own
  numbers.

All of it is read off the decomposition of the source: a closed span takes the lines that come next.
-/

namespace ContractAudit.Source

open ContractAudit.Text

/-- The definition takes the lines `inside`, of which the first comes right behind the lines
`before`. -/
structure FunctionDef.StandsBehind (f : FunctionDef) (before inside : List Text) : Prop where
  inside_ne_nil : inside ≠ []
  lineStart_eq : f.lineStart = (before.length + 1 : Nat)
  lineEnd_eq : f.lineEnd = (before.length + inside.length : Nat)
  body_eq : f.body = unlines inside

/-! ### The functions of a decomposition -/

/-- Only a closed span has a function, which is read off its signature and its lines. -/
theorem Stretch.exists_of_record? {default : Visibility} {number : Nat} {stretch : Stretch}
    {f : FunctionDef} (h : stretch.record? default number = some f) :
    ∃ name texts lines, stretch = .span .closed name texts lines ∧
      f = FunctionDef.ofSignature default name (signatureOf texts) lines number
        ((number + lines.length - 1 : Nat) : Int) := by
  cases stretch with
  | gap line => cases h
  | span fate name texts lines =>
    cases fate with
    | closed =>
      cases h
      exact ⟨name, texts, lines, rfl, rfl⟩
    | bodiless => cases h
    | unclosed => cases h

/-- The function of a stretch takes the lines of the stretch. -/
theorem Stretch.standsBehind_of_record? {default : Visibility} {before : List Text}
    {stretch : Stretch} {f : FunctionDef} (hne : stretch.lines ≠ [])
    (h : stretch.record? default (before.length + 1) = some f) :
    f.StandsBehind before stretch.lines := by
  obtain ⟨name, texts, lines, rfl, rfl⟩ := exists_of_record? h
  exact ⟨hne, rfl, congrArg Int.ofNat (by simp only [Stretch.lines]; omega), rfl⟩

/-- Each function of a decomposition is that of one of its stretches, and behind the lines that come
before the stretch. -/
theorem exists_stretch_of_mem_recordsOf {default : Visibility} (before : List Text)
    {stretches : List Stretch} {f : FunctionDef}
    (h : f ∈ recordsOf default (before.length + 1) stretches) :
    ∃ skipped stretch after, stretch ∈ stretches ∧
      stretches.flatMap Stretch.lines = skipped ++ (stretch.lines ++ after) ∧
      stretch.record? default ((before ++ skipped).length + 1) = some f := by
  induction stretches generalizing before with
  | nil => cases h
  | cons stretch rest ih =>
    rw [recordsOf, List.mem_append, Option.mem_toList] at h
    rcases h with hhere | hlater
    · refine ⟨[], stretch, rest.flatMap Stretch.lines, List.mem_cons_self, rfl, ?_⟩
      rw [List.append_nil]
      exact hhere
    · have hlen : before.length + 1 + stretch.lines.length
          = (before ++ stretch.lines).length + 1 := by
        rw [List.length_append]
        omega
      rw [hlen] at hlater
      obtain ⟨skipped, found, after, hmem, hrest, hrecord⟩ := ih _ hlater
      refine ⟨stretch.lines ++ skipped, found, after, List.mem_cons_of_mem stretch hmem, ?_, ?_⟩
      · rw [List.flatMap_cons, hrest, List.append_assoc]
      · rw [← List.append_assoc]
        exact hrecord

/-- Each function of a decomposition takes some of its lines. -/
theorem exists_standsBehind_of_mem_recordsOf {default : Visibility} (before : List Text)
    {stretches : List Stretch} (hne : ∀ stretch ∈ stretches, stretch.lines ≠ []) {f : FunctionDef}
    (h : f ∈ recordsOf default (before.length + 1) stretches) :
    ∃ skipped inside after, stretches.flatMap Stretch.lines = skipped ++ (inside ++ after) ∧
      f.StandsBehind (before ++ skipped) inside := by
  obtain ⟨skipped, stretch, after, hmem, hlines, hrecord⟩ :=
    exists_stretch_of_mem_recordsOf before h
  exact ⟨skipped, stretch.lines, after, hlines,
    Stretch.standsBehind_of_record? (hne stretch hmem) hrecord⟩

/-- No function of a decomposition starts before the decomposition does. -/
theorem le_lineStart_of_mem_recordsOf {default : Visibility} {before : List Text}
    {stretches : List Stretch} (hne : ∀ stretch ∈ stretches, stretch.lines ≠ []) {f : FunctionDef}
    (h : f ∈ recordsOf default (before.length + 1) stretches) :
    ((before.length + 1 : Nat) : Int) ≤ f.lineStart := by
  obtain ⟨skipped, inside, after, -, hstands⟩ := exists_standsBehind_of_mem_recordsOf before hne h
  rw [hstands.lineStart_eq, List.length_append]
  omega

/-- Each function of a decomposition ends before the next one starts. -/
theorem recordsOf_pairwise (default : Visibility) (before : List Text) {stretches : List Stretch}
    (hne : ∀ stretch ∈ stretches, stretch.lines ≠ []) :
    (recordsOf default (before.length + 1) stretches).Pairwise
      fun f g => f.lineEnd < g.lineStart := by
  induction stretches generalizing before with
  | nil => exact List.Pairwise.nil
  | cons stretch rest ih =>
    have hrest : ∀ s ∈ rest, s.lines ≠ [] := fun s hs => hne s (List.mem_cons_of_mem stretch hs)
    have hlen : before.length + 1 + stretch.lines.length
        = (before ++ stretch.lines).length + 1 := by
      rw [List.length_append]
      omega
    rw [recordsOf, hlen, List.pairwise_append]
    refine ⟨?_, ih _ hrest, ?_⟩
    · cases stretch.record? default (before.length + 1) <;> simp
    · -- the first function ends with its stretch, and the others come behind the stretch
      intro f hf g hg
      have hstands := Stretch.standsBehind_of_record? (hne stretch List.mem_cons_self)
        (Option.mem_toList.1 hf)
      have hstart := le_lineStart_of_mem_recordsOf hrest hg
      rw [hstands.lineEnd_eq]
      rw [List.length_append] at hstart
      omega

/-! ### The functions of a source -/

/-- Every function of a source takes some of its lines. -/
theorem exists_standsBehind {default : Visibility} {source : Text} {f : FunctionDef}
    (h : f ∈ functions default source) :
    ∃ before inside after, lines source = before ++ (inside ++ after) ∧
      f.StandsBehind before inside := by
  obtain ⟨stretches, hgreedy⟩ := exists_greedy (lines source)
  rw [functions_eq_recordsOf hgreedy] at h
  rw [← hgreedy.flatMap_lines]
  exact exists_standsBehind_of_mem_recordsOf [] hgreedy.lines_ne_nil h

/-- The first line of a span opens it. -/
theorem Greedy.opensSpan_of_mem {ls : List Text} {stretches : List Stretch}
    (h : Greedy ls stretches) {fate : Fate} {name : Text} {texts taken : List Text}
    (hmem : Stretch.span fate name texts taken ∈ stretches) :
    ∃ line rest text, taken = line :: rest ∧ OpensSpan line name text := by
  induction h with
  | nil => cases hmem
  | gap _ _ ih =>
    rcases List.mem_cons.1 hmem with heq | hlater
    · cases heq
    · exact ih hlater
  | @span line name' text rest fate' k _ opens ends _ ih =>
    rcases List.mem_cons.1 hmem with heq | hlater
    · cases heq
      obtain ⟨e, rfl⟩ := Nat.exists_eq_succ_of_ne_zero
        (Nat.ne_of_gt (ends.pos (List.cons_ne_nil _ _)))
      exact ⟨line, rest.take e, text, List.take_succ_cons, opens⟩
    · exact ih hlater

/-- A function of a source starts with the line that opens it. -/
theorem exists_opening_line {default : Visibility} {source : Text} {f : FunctionDef}
    (h : f ∈ functions default source) :
    ∃ before line rest after name text, lines source = before ++ (line :: rest ++ after) ∧
      f.StandsBehind before (line :: rest) ∧ OpensSpan line name text := by
  obtain ⟨stretches, hgreedy⟩ := exists_greedy (lines source)
  rw [functions_eq_recordsOf hgreedy] at h
  obtain ⟨skipped, stretch, after, hmem, hlines, hrecord⟩ := exists_stretch_of_mem_recordsOf [] h
  have hstands := Stretch.standsBehind_of_record? (hgreedy.lines_ne_nil stretch hmem) hrecord
  obtain ⟨name, texts, taken, rfl, -⟩ := Stretch.exists_of_record? hrecord
  obtain ⟨line, rest, text, rfl, hopens⟩ := hgreedy.opensSpan_of_mem hmem
  rw [← hgreedy.flatMap_lines]
  exact ⟨skipped, line, rest, after, name, text, hlines, hstands, hopens⟩

/-- Each function of a source ends before the next one starts. -/
theorem functions_pairwise (default : Visibility) (source : Text) :
    (functions default source).Pairwise fun f g => f.lineEnd < g.lineStart := by
  obtain ⟨stretches, hgreedy⟩ := exists_greedy (lines source)
  rw [functions_eq_recordsOf hgreedy]
  exact recordsOf_pairwise default [] hgreedy.lines_ne_nil

/-! ### Numbered lines -/

theorem newline_not_mem_inside {source : Text} {before inside after : List Text}
    (h : lines source = before ++ (inside ++ after)) : ∀ line ∈ inside, '\n' ∉ line := by
  intro line hline
  refine newline_not_mem_of_mem_lines (s := source) ?_
  rw [h]
  simp [hline]

/-- The lines behind `before`, numbered from there on, are the lines of the whole under their own
numbers. -/
theorem numberFrom_eq_map_range' (before inside after : List Text) :
    (FunctionDef.numberFrom (before.length + 1 : Nat) inside).map (fun p => (p.1, some p.2))
      = (List.range' (before.length + 1) inside.length).map
          fun (n : Nat) => ((n : Int), (before ++ (inside ++ after))[n - 1]?) := by
  induction inside generalizing before with
  | nil => rfl
  | cons line inside ih =>
    have hih := ih (before ++ [line])
    rw [List.length_append, List.length_singleton] at hih
    have hassoc : before ++ [line] ++ (inside ++ after) = before ++ (line :: inside ++ after) := by
      simp
    rw [hassoc] at hih
    rw [FunctionDef.numberFrom, List.map_cons, List.length_cons, List.range'_succ, List.map_cons]
    refine congrArg₂ List.cons ?_ hih
    simp

/-- The numbered lines of a function start with its first line and go on one by one. -/
theorem numberedLines_eq {f : FunctionDef} {before inside : List Text}
    (h : f.StandsBehind before inside) (hline : ∀ line ∈ inside, '\n' ∉ line) :
    f.numberedLines = FunctionDef.numberFrom (before.length + 1 : Nat) inside := by
  rw [FunctionDef.numberedLines, h.lineStart_eq, h.body_eq, splitWhere_unlines h.inside_ne_nil hline]

theorem bounds_of_mem_numberFrom {n : Int} {ls : List Text} {p : Int × Text}
    (h : p ∈ FunctionDef.numberFrom n ls) : n ≤ p.1 ∧ p.1 < n + ls.length := by
  induction ls generalizing n with
  | nil => cases h
  | cons line ls ih =>
    rw [FunctionDef.numberFrom, List.mem_cons] at h
    rw [List.length_cons]
    rcases h with rfl | h
    · exact ⟨Int.le_refl _, by omega⟩
    · have hlater := ih h
      omega

theorem numberFrom_ascending (n : Int) (ls : List Text) :
    (FunctionDef.numberFrom n ls).Pairwise fun p q => p.1 < q.1 := by
  induction ls generalizing n with
  | nil => exact List.Pairwise.nil
  | cons line ls ih =>
    rw [FunctionDef.numberFrom]
    refine List.pairwise_cons.2 ⟨fun q hq => ?_, ih (n + 1)⟩
    have hbounds := bounds_of_mem_numberFrom hq
    show n < q.1
    omega

/-- A function of a source has a first line that is not behind its last, and its numbered lines are
numbered from the one to the other. -/
theorem bounds_of_mem_functions {default : Visibility} {source : Text} {f : FunctionDef}
    (h : f ∈ functions default source) :
    f.lineStart ≤ f.lineEnd ∧ ∀ p ∈ f.numberedLines, f.lineStart ≤ p.1 ∧ p.1 ≤ f.lineEnd := by
  obtain ⟨before, inside, after, hlines, hstands⟩ := exists_standsBehind h
  have hpos : 0 < inside.length := List.length_pos_iff.2 hstands.inside_ne_nil
  rw [numberedLines_eq hstands (newline_not_mem_inside hlines), hstands.lineStart_eq, hstands.lineEnd_eq]
  refine ⟨by omega, fun p hp => ?_⟩
  have hbounds := bounds_of_mem_numberFrom hp
  omega

/-! ### Mutability -/

/-- A definition takes ether exactly when it is declared to. -/
theorem ofSignature_payable_iff (default : Visibility) (name signature : Text) (body : List Text)
    (lineStart lineEnd : Int) :
    (FunctionDef.ofSignature default name signature body lineStart lineEnd).payable = true ↔
      (FunctionDef.ofSignature default name signature body lineStart lineEnd).mutability
        = .payable := by
  simp only [FunctionDef.ofSignature, beq_iff_eq]
  generalize (firstWordOf? (Mutability.written.map (·.name.toList)) (qualifiers signature)).bind
    (fun w => Mutability.ofName? (String.ofList w)) = found
  cases found <;> simp

/-- A function of a source takes ether exactly when it is declared to. -/
theorem payable_iff_of_mem_functions {default : Visibility} {source : Text} {f : FunctionDef}
    (h : f ∈ functions default source) : f.payable = true ↔ f.mutability = .payable := by
  obtain ⟨stretches, hgreedy⟩ := exists_greedy (lines source)
  rw [functions_eq_recordsOf hgreedy] at h
  obtain ⟨skipped, stretch, after, -, -, hrecord⟩ := exists_stretch_of_mem_recordsOf [] h
  obtain ⟨name, texts, lines, -, rfl⟩ := Stretch.exists_of_record? hrecord
  exact ofSignature_payable_iff default _ _ _ _ _

/-! ### The whole -/

/-- **The functions of a source are faithful to it.**  Each of them takes the lines from its first to
its last, which are lines of the source; its body is those lines, and its numbered lines are those
lines under their numbers; it takes ether exactly when it is declared payable, and then it is not
read-only.  And each of them ends before the next one starts. -/
theorem functions_faithful (default : Visibility) (source : Text) :
    (∀ f ∈ functions default source, ∃ s e : Nat,
      f.lineStart = s ∧ f.lineEnd = e ∧ 1 ≤ s ∧ s ≤ e ∧ e ≤ (lines source).length ∧
      f.body = unlines (((lines source).take e).drop (s - 1)) ∧
      f.numberedLines.map (fun p => (p.1, some p.2))
        = (List.range' s (e + 1 - s)).map (fun (n : Nat) => ((n : Int), (lines source)[n - 1]?)) ∧
      (f.payable = true ↔ f.mutability = .payable) ∧
      (f.payable = true → f.isReadOnly = false)) ∧
    (functions default source).Pairwise fun f g => f.lineEnd < g.lineStart := by
  refine ⟨fun f hf => ?_, functions_pairwise default source⟩
  obtain ⟨before, inside, after, hlines, hstands⟩ := exists_standsBehind hf
  have hpos : 0 < inside.length := List.length_pos_iff.2 hstands.inside_ne_nil
  have hpayable := payable_iff_of_mem_functions hf
  refine ⟨before.length + 1, before.length + inside.length, hstands.lineStart_eq,
    hstands.lineEnd_eq, by omega, by omega, ?_, ?_, ?_, hpayable, ?_⟩
  · rw [hlines, List.length_append, List.length_append]
    omega
  · -- the lines from the first to the last are those that the function takes
    have hslice : ((lines source).take (before.length + inside.length)).drop (before.length + 1 - 1)
        = inside := by
      rw [hlines, ← List.append_assoc, List.take_left' (by simp), Nat.add_sub_cancel,
        List.drop_left]
    rw [hslice, hstands.body_eq]
  · have hcount : before.length + inside.length + 1 - (before.length + 1) = inside.length := by
      omega
    rw [numberedLines_eq hstands (newline_not_mem_inside hlines), hlines, hcount]
    exact numberFrom_eq_map_range' before inside after
  · intro hp
    rw [FunctionDef.isReadOnly, hpayable.1 hp]
    rfl

end ContractAudit.Source
