import ContractAudit.Proofs.Source.Spacing
import ContractAudit.Proofs.Text.Places
import ContractAudit.Proofs.Text.Visible

/-!
# Comparisons and assignments

Signs of comparison and of assignment are made of the same characters, and what tells them apart is the
whole run of such characters: `==` and `<=` compare, `=` and `<<=` assign.

* `isOperator`, `operatorRuns` -- the characters, and the longest runs of them in a text;
* `comparisons`, `assignments` -- the runs that compare, and those that assign;
* `AssignsAt` -- a sign of assignment at the start of a run;
* `exists_assignsAt_of_assignment`, `exists_assignsAt_of_mappingAssignment` -- what the two patterns for
  assignments find is one of these;
* `isStateMutation_separates` -- lines that only compare do not count as writes, and lines that assign do,
  unless what they assign is local.

Both patterns are sure to start at the start of a run: one looks at the character in front, the other comes
from a bracket or a blank.
-/

namespace ContractAudit.Source

open ContractAudit.Text ContractAudit.Text.Pattern

/-! ### Runs of operator characters -/

/-- The characters that signs of comparison, of assignment and of arithmetic are made of. -/
def isOperator (c : Char) : Bool :=
  "=!<>+-*/%&|^".toList.contains c

/-- The longest runs of operator characters, in order. -/
def operatorRuns (s : Text) : List Text :=
  runsOf isOperator s

/-- The signs of comparison. -/
def comparisons : List Text :=
  ["==", "!=", "<=", ">="].map String.toList

/-- The signs of assignment. -/
def assignments : List Text :=
  ["=", "+=", "-=", "*=", "/=", "%=", "&=", "|=", "^=", "<<=", ">>="].map String.toList

theorem isOperator_of_isBlank {c : Char} (h : isBlank c = true) : isOperator c = false :=
  contains_of_isBlank (by decide) c h

theorem isOperator_of_mem_assignments {sign : Text} (h : sign ∈ assignments) :
    ∀ c ∈ sign, isOperator c = true := by
  have hall : (assignments.all fun sign => sign.all isOperator) = true := by decide
  exact List.all_eq_true.1 (List.all_eq_true.1 hall sign h)

theorem equals_mem_of_mem_assignments {sign : Text} (h : sign ∈ assignments) : '=' ∈ sign := by
  have hall : (assignments.all fun sign => sign.contains '=') = true := by decide
  exact List.contains_iff_mem.1 (List.all_eq_true.1 hall sign h)

/-- Of a sign of assignment, only `=` goes on to a sign of comparison, and that is by a second one. -/
theorem eq_of_append_mem_comparisons {sign more : Text} (h : sign ∈ assignments)
    (hmore : sign ++ more ∈ comparisons) : more = ['='] := by
  have hall : (assignments.all fun sign => comparisons.all fun run =>
      !sign.isPrefixOf run || run.drop sign.length == ['=']) = true := by
    decide
  have hrun := List.all_eq_true.1 (List.all_eq_true.1 hall sign h) _ hmore
  have hstarts : sign.isPrefixOf (sign ++ more) = true :=
    List.isPrefixOf_iff_prefix.2 (List.prefix_append sign more)
  rw [hstarts, List.drop_left] at hrun
  simpa using hrun

/-- The sign stands at the start of a run, and no further `=` follows. -/
def AssignsAt (sign s : Text) : Prop :=
  ∃ front rest, s = front ++ (sign ++ rest) ∧ front.getLast?.any isOperator = false ∧
    rest.head? ≠ some '='

/-- The run that starts with a sign of assignment has an `=`, and is no comparison. -/
theorem exists_run_of_assignsAt {sign s : Text} (hsign : sign ∈ assignments) (h : AssignsAt sign s) :
    ∃ run ∈ operatorRuns s, '=' ∈ run ∧ run ∉ comparisons := by
  obtain ⟨front, rest, rfl, hfront, hrest⟩ := h
  have hequals := equals_mem_of_mem_assignments hsign
  refine ⟨sign ++ rest.takeWhile isOperator, ?_, List.mem_append_left _ hequals, ?_⟩
  · refine mem_runsOf_iff.2 ⟨front, rest.dropWhile isOperator, ?_, ?_, ?_, hfront, ?_⟩
    · rw [List.append_assoc, List.takeWhile_append_dropWhile]
    · intro hnil
      rw [(List.append_eq_nil_iff.1 hnil).1] at hequals
      cases hequals
    · intro c hc
      rcases List.mem_append.1 hc with hc | hc
      · exact isOperator_of_mem_assignments hsign c hc
      · exact List.all_eq_true.1 List.all_takeWhile c hc
    · exact head?_dropWhile_any isOperator rest
  · intro hcomparison
    have hmore := eq_of_append_mem_comparisons hsign hcomparison
    cases rest with
    | nil => cases hmore
    | cons c rest =>
      rw [List.takeWhile_cons] at hmore
      split at hmore
      · exact hrest (congrArg some (List.cons.inj hmore).1)
      · cases hmore

/-! ### Assignments -/

/-- A sign of assignment is `=`, alone or behind an operator. -/
theorem assignments_cases {sign : Text} (h : sign ∈ assignments) :
    (∃ c ∈ "+-*/%&|^".toList, sign = [c, '=']) ∨ sign = ['<', '<', '='] ∨ sign = ['>', '>', '='] ∨
      sign = ['='] := by
  have hall : (assignments.all fun sign =>
      ("+-*/%&|^".toList.any fun c => sign == [c, '=']) || sign == ['<', '<', '=']
        || sign == ['>', '>', '='] || sign == ['=']) = true := by
    decide
  have hsign := List.all_eq_true.1 hall sign h
  simpa [or_assoc] using hsign

theorem cons_equals_mem_assignments {c : Char} (h : c ∈ "+-*/%&|^".toList) : [c, '='] ∈ assignments := by
  have hall : ("+-*/%&|^".toList.all fun c => assignments.contains [c, '=']) = true := by decide
  exact List.contains_iff_mem.1 (List.all_eq_true.1 hall c h)

section Signs

variable {next : Trial} {previous : Option Char} {s : Text}

theorem run_equals_iff : (lit "=").run next previous s = true ↔
    ∃ rest, s = '=' :: rest ∧ next (some '=') rest = true :=
  run_lit_iff

/-- Following a sign of assignment. -/
theorem run_sign_iff :
    (maybe (among "+-*/%&|^" ||| lit "<<" ||| lit ">>")).run ((lit "=").run next) previous s = true ↔
      ∃ sign ∈ assignments, ∃ rest, s = sign ++ rest ∧ next (some '=') rest = true := by
  show ((((among "+-*/%&|^").run ((lit "=").run next) previous s
      || (lit "<<").run ((lit "=").run next) previous s)
      || (lit ">>").run ((lit "=").run next) previous s) || (lit "=").run next previous s) = true ↔ _
  rw [Bool.or_eq_true, Bool.or_eq_true, Bool.or_eq_true, run_among_iff, run_lit_iff, run_lit_iff,
    run_equals_iff]
  simp only [run_equals_iff]
  constructor
  · intro h
    rcases h with ((h | h) | h) | h
    · obtain ⟨c, hc, -, rfl, rest, rfl, h⟩ := h
      exact ⟨[c, '='], cons_equals_mem_assignments hc, rest, rfl, h⟩
    · obtain ⟨-, rfl, rest, rfl, h⟩ := h
      exact ⟨['<', '<', '='], by decide, rest, rfl, h⟩
    · obtain ⟨-, rfl, rest, rfl, h⟩ := h
      exact ⟨['>', '>', '='], by decide, rest, rfl, h⟩
    · obtain ⟨rest, rfl, h⟩ := h
      exact ⟨['='], by decide, rest, rfl, h⟩
  · intro h
    obtain ⟨sign, hsign, rest, rfl, h⟩ := h
    rcases assignments_cases hsign with ⟨c, hc, rfl⟩ | rfl | rfl | rfl
    · exact .inl (.inl (.inl ⟨c, hc, '=' :: rest, rfl, rest, rfl, h⟩))
    · exact .inl (.inl (.inr ⟨'=' :: rest, rfl, rest, rfl, h⟩))
    · exact .inl (.inr ⟨'=' :: rest, rfl, rest, rfl, h⟩)
    · exact .inr ⟨rest, rfl, h⟩

/-- Where the pattern for assignments can be followed. -/
theorem startsAt_assignment_iff : Idiom.assignment.startsAt previous s = true ↔
    previous.any isOperator = false ∧
      ∃ sign ∈ assignments, ∃ rest, s = sign ++ rest ∧
        rest.head?.any "=>".toList.contains = false := by
  show (!previous.any isOperator
      && (maybe (among "+-*/%&|^" ||| lit "<<" ||| lit ">>")).run ((lit "=").run
        ((notBefore "=>".toList.contains).run fun _ _ => true)) previous s) = true ↔ _
  rw [Bool.and_eq_true, Bool.not_eq_true', run_sign_iff]
  simp only [run, Bool.and_true, Bool.not_eq_true']

/-- An optional operator and an `=` behind a bracket and blanks are a sign of assignment. -/
theorem run_indexedSign (h : (maybe (among "+-*/")).run ((lit "=").run next) previous s = true) :
    ∃ sign ∈ assignments, ∃ rest, s = sign ++ rest ∧ next (some '=') rest = true := by
  have hcases : (among "+-*/").run ((lit "=").run next) previous s = true ∨
      (lit "=").run next previous s = true := by
    rw [← Bool.or_eq_true]
    exact h
  rw [run_among_iff, run_equals_iff] at hcases
  rcases hcases with ⟨c, hc, later, rfl, hequals⟩ | ⟨rest, rfl, hnext⟩
  · obtain ⟨rest, rfl, hnext⟩ := run_equals_iff.1 hequals
    have hall : ("+-*/".toList.all fun c => assignments.contains [c, '=']) = true := by decide
    exact ⟨[c, '='], List.contains_iff_mem.1 (List.all_eq_true.1 hall c hc), rest, rfl, hnext⟩
  · exact ⟨['='], by decide, rest, rfl, hnext⟩

end Signs

section Found

variable {s : Text}

/-- **An assignment that is found** has a sign of assignment at the start of a run. -/
theorem exists_assignsAt_of_assignment (h : Idiom.assignment.occursIn s = true) :
    ∃ sign ∈ assignments, AssignsAt sign s := by
  obtain ⟨front, back, rfl, hstart⟩ := occursIn_iff.1 h
  obtain ⟨hfront, sign, hsign, rest, rfl, hrest⟩ := startsAt_assignment_iff.1 hstart
  refine ⟨sign, hsign, front, rest, rfl, hfront, ?_⟩
  intro hhead
  rw [hhead] at hrest
  exact absurd hrest (by decide)

/-- A run that is a sign of assignment is found. -/
theorem occursIn_assignment_of_mem {run : Text} (hrun : run ∈ operatorRuns s) (h : run ∈ assignments) :
    Idiom.assignment.occursIn s = true := by
  obtain ⟨front, back, rfl, -, -, hfront, hback⟩ := mem_runsOf_iff.1 hrun
  refine occursIn_iff.2 ⟨front, run ++ back, rfl, ?_⟩
  refine startsAt_assignment_iff.2 ⟨hfront, run, h, back, rfl, ?_⟩
  cases back with
  | nil => rfl
  | cons c back =>
    -- both characters that are looked for are operator characters
    show "=>".toList.contains c = false
    rw [← Bool.not_eq_true, List.contains_iff_mem]
    intro hc
    have hall : ("=>".toList.all isOperator) = true := by decide
    have hoperator := List.all_eq_true.1 hall c hc
    have hother : isOperator c = false := by simpa using hback
    rw [hoperator] at hother
    cases hother

/-- **An assignment to an indexed name** has a sign of assignment at the start of a run: it comes behind
the closing bracket, or behind a blank. -/
theorem exists_assignsAt_of_mappingAssignment (h : Idiom.mappingAssignment.occursIn s = true) :
    ∃ sign ∈ assignments, AssignsAt sign s := by
  obtain ⟨front, back, rfl, hstart⟩ := occursIn_iff.1 h
  have hindex : (someWord ++ blanks ++ lit "[" ++ many (· != ']')).run
      ((lit "]").run (blanks.run ((maybe (among "+-*/")).run ((lit "=").run
        ((notBefore (· == '=')).run fun _ _ => true))))) front.getLast? back = true := hstart
  obtain ⟨name, later, last, rfl, hclose, -⟩ := @exists_of_run isWord _ _ _ _ hindex
  obtain ⟨behind, rfl, hblanks⟩ := run_lit_iff.1 hclose
  obtain ⟨gap, signed, rfl, hgap, hsigned⟩ := run_many_iff.1 hblanks
  obtain ⟨sign, hsign, rest, rfl, hrest⟩ := run_indexedSign hsigned
  refine ⟨sign, hsign, front ++ (name ++ ("]".toList ++ gap)), rest, ?_, ?_, ?_⟩
  · simp only [List.append_assoc]
  · rcases List.eq_nil_or_concat gap with rfl | ⟨gap, d, rfl⟩
    · rw [List.append_nil, ← List.append_assoc]
      show ((front ++ name) ++ [']']).getLast?.any isOperator = false
      rw [List.getLast?_concat]
      decide
    · rw [List.concat_eq_append, ← List.append_assoc, ← List.append_assoc, ← List.append_assoc,
        List.getLast?_concat]
      exact isOperator_of_isBlank (hgap d (by simp))
  · intro hhead
    simp [run, hhead] at hrest

theorem occursIn_increment_iff :
    Idiom.increment.occursIn s = true ↔ "++".toList <:+: s ∨ "--".toList <:+: s := by
  rw [← occursIn_lit_iff, ← occursIn_lit_iff, occursIn_iff, occursIn_iff, occursIn_iff]
  have hstart (previous : Option Char) (t : Text) : Idiom.increment.startsAt previous t = true ↔
      (lit "++").startsAt previous t = true ∨ (lit "--").startsAt previous t = true := by
    rw [← Bool.or_eq_true]
    rfl
  simp only [hstart, and_or_left, exists_or]

/-- The pattern for data locations looks for two whole words. -/
theorem occursIn_scopedVariable_iff :
    Idiom.scopedVariable.occursIn s = true
      ↔ "memory".toList ∈ words s ∨ "calldata".toList ∈ words s := by
  have hmemory : TestsWords (wordEdge ++ lit "memory" ++ wordEdge) (· == "memory".toList) :=
    testsWords_wholeWord (by decide) (by decide)
  have hcalldata : TestsWords (wordEdge ++ lit "calldata" ++ wordEdge) (· == "calldata".toList) :=
    testsWords_wholeWord (by decide) (by decide)
  have hboth := hmemory.or hcalldata
  -- the word edge in front is shared by the two words
  have hstart (previous : Option Char) (t : Text) : Idiom.scopedVariable.startsAt previous t
      = ((wordEdge ++ lit "memory" ++ wordEdge) ||| (wordEdge ++ lit "calldata" ++ wordEdge)).startsAt
        previous t :=
    Bool.and_or_distrib_left _ _ _
  have htests : TestsWords Idiom.scopedVariable
      fun word => word == "memory".toList || word == "calldata".toList := by
    refine ⟨?_, ?_, ?_⟩
    · intro previous hprevious t
      rw [hstart]
      exact hboth.inside hprevious t
    · intro t ht previous
      rw [hstart]
      exact hboth.outside ht previous
    · intro previous run rest hprevious hne hrun hrest
      rw [hstart]
      exact hboth.here hprevious hne hrun hrest
  rw [htests.occursIn_eq_any_words, List.any_eq_true]
  simp only [Bool.or_eq_true, beq_iff_eq, and_or_left, exists_or, exists_eq_right]

end Found

/-! ### Lines -/

/-- **Comparisons and assignments are kept apart.**  Take a line that is no comment, and its code.  If the
code has no step up or down, and each of its runs of operator characters that has an `=` is a sign of
comparison, then the line does not count as a write.  If one of its runs is a sign of assignment, and the
code is not the head of a `for` loop, names no data location and declares no local value, then the line
counts as a write. -/
theorem isStateMutation_separates {line : Text} (hcode : isComment line = false) :
    (¬ "++".toList <:+: codePart line → ¬ "--".toList <:+: codePart line →
      (∀ run ∈ operatorRuns (codePart line), '=' ∈ run → run ∈ comparisons) →
      isStateMutation line = false) ∧
    (∀ run ∈ operatorRuns (codePart line), run ∈ assignments →
      Idiom.forHeader.occursIn (codePart line) = false →
      "memory".toList ∉ words (codePart line) → "calldata".toList ∉ words (codePart line) →
      Idiom.localDeclaration.occursIn (codePart line) = false →
      isStateMutation line = true) := by
  constructor
  · intro hup hdown hruns
    have hnone : ¬ ∃ sign ∈ assignments, AssignsAt sign (codePart line) := by
      intro h
      obtain ⟨sign, hsign, hat⟩ := h
      obtain ⟨run, hrun, hequals, hother⟩ := exists_run_of_assignsAt hsign hat
      exact hother (hruns run hrun hequals)
    have hindexed : Idiom.mappingAssignment.occursIn (codePart line) = false := by
      rw [← Bool.not_eq_true]
      exact fun h => hnone (exists_assignsAt_of_mappingAssignment h)
    have hassignment : Idiom.assignment.occursIn (codePart line) = false := by
      rw [← Bool.not_eq_true]
      exact fun h => hnone (exists_assignsAt_of_assignment h)
    have hstep : Idiom.increment.occursIn (codePart line) = false := by
      rw [← Bool.not_eq_true, occursIn_increment_iff]
      exact fun h => h.elim hup hdown
    simp [isStateMutation, hindexed, hassignment, hstep]
  · intro run hrun hsign hfor hmemory hcalldata hlocal
    have hassignment := occursIn_assignment_of_mem hrun hsign
    have hscoped : Idiom.scopedVariable.occursIn (codePart line) = false := by
      rw [← Bool.not_eq_true, occursIn_scopedVariable_iff]
      exact fun h => h.elim hmemory hcalldata
    have hvisible : isBlankText (codePart line) = false := by
      rw [isBlankText, List.all_eq_false]
      obtain ⟨front, back, hcut, -⟩ := mem_runsOf_iff.1 hrun
      refine ⟨'=', ?_, by decide⟩
      rw [hcut]
      exact List.mem_append_right _
        (List.mem_append_left _ (equals_mem_of_mem_assignments hsign))
    simp [isStateMutation, hcode, hvisible, hfor, hassignment, hscoped, hlocal]

/-- A line that compares in three ways and has an assignment in its comment. -/
def comparingLine : Text :=
  "if (a[i] == b && c <= d - 1) return x != y; // a[i] = 0".toList

/-- A line that shifts a value in place. -/
def shiftingLine : Text :=
  "mask <<= (n >= 8) ? 1 : 2;".toList

theorem isStateMutation_separates_shiftingLine :
    isStateMutation comparingLine = false ∧ isStateMutation shiftingLine = true := by
  obtain ⟨hcode, hup, hdown, hruns, hcode', hrun, hfor, hwords, hlocal⟩ :
      isComment comparingLine = false ∧ includes "++".toList (codePart comparingLine) = false ∧
      includes "--".toList (codePart comparingLine) = false ∧
      ((operatorRuns (codePart comparingLine)).all fun run =>
        !run.contains '=' || comparisons.contains run) = true ∧
      isComment shiftingLine = false ∧ "<<=".toList ∈ operatorRuns (codePart shiftingLine) ∧
      Idiom.forHeader.occursIn (codePart shiftingLine) = false ∧
      ("memory".toList ∉ words (codePart shiftingLine) ∧
        "calldata".toList ∉ words (codePart shiftingLine)) ∧
      Idiom.localDeclaration.occursIn (codePart shiftingLine) = false := by
    decide +kernel
  refine ⟨(isStateMutation_separates hcode).1 ?_ ?_ ?_, ?_⟩
  · rw [← includes_eq_true_iff, hup]
    exact Bool.false_ne_true
  · rw [← includes_eq_true_iff, hdown]
    exact Bool.false_ne_true
  · intro run hmem hequals
    have hthis := List.all_eq_true.1 hruns run hmem
    simpa [hequals] using hthis
  · exact (isStateMutation_separates hcode').2 "<<=".toList hrun (by decide) hfor hwords.1 hwords.2 hlocal

end ContractAudit.Source
