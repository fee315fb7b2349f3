import ContractAudit.Proofs.Audit.Outcome
import ContractAudit.Proofs.Report.Reference
import Mathlib.Data.List.Forall2

/-!
# What an audit takes in

Detectors from elsewhere submit what they like.  Here a battery of any length hands in candidates,
submissions with a category of the catalog, a severity of the scale and a whole number or nothing as
their first line; their last line, their snippet and their note are any values at all.

* `Auditor.report` -- the findings of an audit, before they are summed up;
* `outcome_inspectAll_of_runs` -- a battery hands in the submissions of its detectors, one after the
  other;
* `Candidate`, `Candidate.Reported` -- a candidate, and the finding that it becomes under a number;
* `enter_candidate`, `findings_enterAll` -- one candidate, and a row of them;
* `report_eq` -- the findings of an audit are the candidates that come first under their title and
  line, numbered in order.

A candidate whose title and line are known is dropped before anything else of it is looked at.  Any
other is checked, its note before its location.  A note with a number that is too long to be written
ends the audit, and so does a last line or a snippet that cannot be read; the first candidate at fault
decides which.
-/

namespace ContractAudit

open ContractAudit.Source

/-! ### A battery hands in its submissions -/

namespace Auditor

/-- The findings that a battery makes of a source and its functions. -/
def report (battery : List Detector) (source : Text) (functions : List FunctionDef) :
    Except Failure (List Finding) := do
  let register ← (inspectAll source functions battery .empty).outcome
  return register.conclude

/-- An audit sums up the report of its battery. -/
theorem audit_eq_report (a : Auditor) (source : Option Text) (mode : String) :
    a.audit source mode = (do
      let text ← admitSource source mode
      let visibility ← Visibility.parse a.defaultVisibility
      let findings ← report a.battery text (functions visibility text)
      return assess a.thresholds text findings) := by
  simp only [audit_eq, report, bind_assoc, pure_bind]

end Auditor

theorem Register.enterAll_append (r : Register) (front back : List Submission) :
    r.enterAll (front ++ back) = r.enterAll front >>= fun r => r.enterAll back := by
  induction front generalizing r with
  | nil => rfl
  | cons s front ih => simp only [List.cons_append, enterAll, ih, bind_assoc]

/-- A battery whose detectors return hands in what they submit, in order. -/
theorem outcome_inspectAll_of_runs {source : Text} {functions : List FunctionDef}
    {battery : List Detector} {groups : List (List Submission)}
    (h : List.Forall₂ (fun detector submissions =>
      (detector.inspect source functions).outcome = .ok submissions) battery groups)
    (r : Register) :
    (Auditor.inspectAll source functions battery r).outcome = r.enterAll groups.flatten := by
  induction h generalizing r with
  | nil => rfl
  | cons hdetector _ ih =>
    rw [List.flatten_cons, Register.enterAll_append]
    simp only [Auditor.inspectAll, Journaled.outcome_bind, Journaled.outcome_note,
      Journaled.outcome_lift, hdetector, ok_bind, ih]

/-! ### Candidates -/

/-- A submission of a category of the catalog, with a severity of the scale and a whole number or
nothing as its first line. -/
structure Candidate where
  category : Category
  severity : Severity
  lineStart : Option Int
  lineEnd : Json
  snippet : Json
  note : Json

namespace Candidate

/-- The candidate as it is handed in. -/
def submit (c : Candidate) : Submission where
  category := some (.str c.category.key)
  severity := some (.str c.severity.name)
  lineStart := c.lineStart.elim .null .int
  lineEnd := c.lineEnd
  snippet := c.snippet
  note := c.note

/-- What candidates are told apart by. -/
def key (c : Candidate) : String × Option Int :=
  (c.category.title, c.lineStart)

/-- The same as an entry of a register. -/
def entry (c : Candidate) : String × LineKey :=
  (c.category.title, c.lineStart.elim .absent .whole)

theorem entry_eq_iff {c d : Candidate} : c.entry = d.entry ↔ c.key = d.key := by
  simp only [entry, key, Prod.mk.injEq]
  refine and_congr_right fun _ => ?_
  cases c.lineStart <;> cases d.lineStart <;> simp

/-- The last line is a whole number or nothing, and the snippet a text or nothing. -/
def IsReadable (c : Candidate) : Prop :=
  (∃ lineEnd, Json.readNullable Json.readInt c.lineEnd = .ok lineEnd) ∧
    ∃ snippet, Json.readNullable Json.readText c.snippet = .ok snippet

/-- The note can be written, and the location can be read. -/
def IsAccepted (c : Candidate) : Prop :=
  c.note.isWritable = true ∧ c.IsReadable

/-- The candidate is at fault, and this is the failure that it ends an audit with. -/
def FailsWith (c : Candidate) (failure : Failure) : Prop :=
  (c.note.isWritable = false ∧ failure = .unwritableNumber) ∨
    (c.note.isWritable = true ∧ ¬ c.IsReadable ∧ ∃ issues, failure = .invalid issues)

/-- The candidate is reported by the finding, under the number. -/
structure Reported (c : Candidate) (number : Nat) (f : Finding) : Prop where
  id_eq : f.id = c.category.key ++ "-" ++ toString number
  title_eq : f.title = c.category.title
  severity_eq : f.severity = c.severity
  description_eq : f.description = c.category.description ++ c.submit.remark
  lineStart_eq : f.location.lineStart = c.lineStart
  lineEnd_eq : Json.readNullable Json.readInt c.lineEnd = .ok f.location.lineEnd
  snippet_eq : Json.readNullable Json.readText c.snippet = .ok f.location.snippet
  suggestedFix_eq : f.suggestedFix = c.category.remediation

/-- The finding that a candidate becomes, once its last line and its snippet have been read. -/
def finding (c : Candidate) (number : Nat) (lineEnd : Option Int) (snippet : Option String) :
    Finding where
  id := c.category.key ++ "-" ++ toString number
  title := c.category.title
  severity := c.severity
  description := c.category.description ++ c.submit.remark
  location := ⟨c.lineStart, lineEnd, snippet⟩
  suggestedFix := c.category.remediation

/-! ### One candidate -/

theorem findCategory_submit (c : Candidate) : c.submit.findCategory = .ok c.category := by
  simp only [Submission.findCategory, submit, Category.ofKey?_key]

theorem ofJson_lineStart (c : Candidate) :
    LineKey.ofJson c.submit.lineStart = .ok (c.lineStart.elim .absent .whole) := by
  rw [submit]
  cases c.lineStart <;> rfl

/-- The location of a candidate, whose first line is in order. -/
theorem findLocation_submit (c : Candidate) :
    c.submit.findLocation
      = ((Checked.pass (Location.mk c.lineStart)).both
          ((Json.readNullable Json.readInt c.lineEnd).under (.field "line_end"))).both
          ((Json.readNullable Json.readText c.snippet).under (.field "snippet")) := by
  rw [submit]
  cases c.lineStart <;> rfl

theorem toFinding_of_readable {c : Candidate} {lineEnd : Option Int} {snippet : Option String}
    (hnote : c.note.isWritable = true)
    (hline : Json.readNullable Json.readInt c.lineEnd = .ok lineEnd)
    (hsnippet : Json.readNullable Json.readText c.snippet = .ok snippet) (number : Nat) :
    c.submit.toFinding c.category number = .ok (c.finding number lineEnd snippet) := by
  have hdescribed : c.submit.describe c.category
      = .ok (c.category.description ++ c.submit.remark) := if_pos hnote
  have hnamed : c.submit.severity = some (.str c.severity.name) := rfl
  simp only [Submission.toFinding, hdescribed, hnamed, findLocation_submit, hline, hsnippet,
    Severity.readName_name]
  rfl

theorem findLocation_of_not_readable {c : Candidate} (h : ¬ c.IsReadable) :
    ∃ issues, c.submit.findLocation = .error issues := by
  rw [findLocation_submit]
  rw [IsReadable] at h
  cases hline : Json.readNullable Json.readInt c.lineEnd with
  | error issues =>
    cases Json.readNullable Json.readText c.snippet with
    | error others => exact ⟨_, rfl⟩
    | ok snippet => exact ⟨_, rfl⟩
  | ok lineEnd =>
    cases hsnippet : Json.readNullable Json.readText c.snippet with
    | error issues => exact ⟨_, rfl⟩
    | ok snippet => exact absurd ⟨⟨lineEnd, hline⟩, snippet, hsnippet⟩ h

/-- A candidate that is not accepted ends the audit. -/
theorem toFinding_of_not_accepted {c : Candidate} (h : ¬ c.IsAccepted) (number : Nat) :
    ∃ failure, c.submit.toFinding c.category number = .error failure ∧ c.FailsWith failure := by
  cases hnote : c.note.isWritable with
  | false =>
    have hdescribed : c.submit.describe c.category = .error .unwritableNumber :=
      if_neg (by rw [Bool.not_eq_true]; exact hnote)
    refine ⟨.unwritableNumber, ?_, .inl ⟨hnote, rfl⟩⟩
    rw [Submission.toFinding, hdescribed]
    rfl
  | true =>
    have hread : ¬ c.IsReadable := fun hread => h ⟨hnote, hread⟩
    have hdescribed : c.submit.describe c.category
        = .ok (c.category.description ++ c.submit.remark) := if_pos hnote
    have hnamed : c.submit.severity = some (.str c.severity.name) := rfl
    obtain ⟨issues, hissues⟩ := findLocation_of_not_readable hread
    refine ⟨.invalid issues, ?_, .inr ⟨hnote, hread, issues, rfl⟩⟩
    simp only [Submission.toFinding, hdescribed, hnamed, hissues]
    rfl

theorem reported_finding {c : Candidate} {lineEnd : Option Int} {snippet : Option String}
    (hline : Json.readNullable Json.readInt c.lineEnd = .ok lineEnd)
    (hsnippet : Json.readNullable Json.readText c.snippet = .ok snippet) (number : Nat) :
    c.Reported number (c.finding number lineEnd snippet) :=
  ⟨rfl, rfl, rfl, rfl, rfl, hline, hsnippet, rfl⟩

/-- The key of the category is read back from the finding. -/
theorem Reported.categoryKey_eq {c : Candidate} {number : Nat} {f : Finding}
    (h : c.Reported number f) : f.categoryKey = c.category.key :=
  Finding.categoryKey_eq h.id_eq

end Candidate

/-! ### Candidates in a row -/

/-- The candidates that come first under their key. -/
def firstOccurrences (candidates : List Candidate) : List Candidate :=
  candidates.eraseDupsBy fun c d => c.key == d.key

/-- The candidates as findings, checked one after the other, the first one with the number after
`count`. -/
def numbered : (count : Nat) → List Candidate → Except Failure (List Finding)
  | _, [] => .ok []
  | count, c :: rest => do
    let finding ← c.submit.toFinding c.category (count + 1)
    let later ← numbered (count + 1) rest
    return finding :: later

namespace Register

/-- One more candidate: it is dropped when its entry is known, and otherwise it is checked and takes
the next number. -/
theorem enter_candidate (r : Register) (c : Candidate) :
    r.enter c.submit
      = if c.entry ∈ r.keys then .ok r
        else (c.submit.toFinding c.category (r.findings.length + 1)).map
          fun finding => ⟨r.findings ++ [finding], c.entry :: r.keys⟩ := by
  rw [enter, Candidate.findCategory_submit, ok_bind, Candidate.ofJson_lineStart, ok_bind]
  by_cases hknown : c.entry ∈ r.keys
  · have hcontains := List.contains_iff_mem.2 hknown
    rw [if_pos hknown]
    exact if_pos hcontains
  · have hcontains : ¬ r.keys.contains c.entry = true := fun h => hknown (List.contains_iff_mem.1 h)
    rw [if_neg hknown]
    refine (if_neg hcontains).trans ?_
    cases c.submit.toFinding c.category (r.findings.length + 1) <;> rfl

/-- Of the candidates that a register does not know, those come first that come first among the
others, once the first of them is known. -/
theorem firstOccurrences_filter_cons {keys : List (String × LineKey)} {c : Candidate}
    (h : c.entry ∉ keys) (rest : List Candidate) :
    firstOccurrences ((c :: rest).filter fun d => d.entry ∉ keys)
      = c :: firstOccurrences (rest.filter fun d => d.entry ∉ c.entry :: keys) := by
  rw [List.filter_cons_of_pos (by simpa using h), firstOccurrences, List.eraseDupsBy_cons,
    List.filter_filter, firstOccurrences]
  congr 2
  refine List.filter_congr fun d _ => ?_
  simp only [List.mem_cons, not_or, Candidate.entry_eq_iff, beq_eq_false_iff_ne,
    Bool.decide_and]

/-- **The findings of a row of candidates**: those that a register knows already, and then the
candidates that come first under their key and are not known, in order. -/
theorem findings_enterAll (r : Register) (candidates : List Candidate) :
    (r.enterAll (candidates.map Candidate.submit)).map Register.findings
      = (numbered r.findings.length
          (firstOccurrences (candidates.filter fun c => c.entry ∉ r.keys))).map (r.findings ++ ·) := by
  induction candidates generalizing r with
  | nil =>
    show Except.ok r.findings = Except.ok (r.findings ++ [])
    rw [List.append_nil]
  | cons c rest ih =>
    rw [List.map_cons, enterAll, enter_candidate]
    by_cases hknown : c.entry ∈ r.keys
    · rw [if_pos hknown, ok_bind, ih, List.filter_cons_of_neg (by simpa using hknown)]
    · rw [if_neg hknown, firstOccurrences_filter_cons hknown, numbered]
      cases c.submit.toFinding c.category (r.findings.length + 1) with
      | error failure => rfl
      | ok finding =>
        show Except.map _ (enterAll ⟨r.findings ++ [finding], c.entry :: r.keys⟩ _) = _
        rw [ih, List.length_append, List.length_singleton, ok_bind]
        cases numbered (r.findings.length + 1)
            (firstOccurrences (rest.filter fun d => d.entry ∉ c.entry :: r.keys)) with
        | error failure => rfl
        | ok later => exact congrArg Except.ok (List.append_assoc _ _ _)

end Register

/-! ### Numbers -/

/-- Candidates that are accepted are all reported, under consecutive numbers. -/
theorem exists_numbered {candidates : List Candidate} (h : ∀ c ∈ candidates, c.IsAccepted)
    (count : Nat) :
    ∃ findings, numbered count candidates = .ok findings ∧
      List.Forall₂ (fun p f => p.1.Reported p.2 f) (candidates.zipIdx (count + 1)) findings := by
  induction candidates generalizing count with
  | nil => exact ⟨[], rfl, .nil⟩
  | cons c rest ih =>
    obtain ⟨hnote, ⟨lineEnd, hline⟩, snippet, hsnippet⟩ := h c List.mem_cons_self
    obtain ⟨later, hlater, hreported⟩ :=
      ih (fun d hd => h d (List.mem_cons_of_mem c hd)) (count + 1)
    refine ⟨c.finding (count + 1) lineEnd snippet :: later, ?_, ?_⟩
    · rw [numbered, Candidate.toFinding_of_readable hnote hline hsnippet, ok_bind, hlater]
      rfl
    · rw [List.zipIdx_cons]
      exact .cons (Candidate.reported_finding hline hsnippet _) hreported

/-- The first candidate that is not accepted ends the whole row, with its own failure. -/
theorem numbered_of_not_accepted {candidates : List Candidate}
    (h : ∃ c ∈ candidates, ¬ c.IsAccepted) (count : Nat) :
    ∃ before c after failure, candidates = before ++ c :: after ∧ (∀ d ∈ before, d.IsAccepted) ∧
      c.FailsWith failure ∧ numbered count candidates = .error failure := by
  induction candidates generalizing count with
  | nil =>
    obtain ⟨c, hc, -⟩ := h
    cases hc
  | cons c rest ih =>
    by_cases hc : c.IsAccepted
    · -- the candidate at fault comes later
      have hrest : ∃ d ∈ rest, ¬ d.IsAccepted := by
        obtain ⟨d, hd, hnot⟩ := h
        rcases List.mem_cons.1 hd with rfl | hd
        · exact absurd hc hnot
        · exact ⟨d, hd, hnot⟩
      obtain ⟨before, d, after, failure, rfl, hbefore, hfails, hfailure⟩ := ih hrest (count + 1)
      refine ⟨c :: before, d, after, failure, rfl, List.forall_mem_cons.2 ⟨hc, hbefore⟩, hfails, ?_⟩
      obtain ⟨hnote, ⟨lineEnd, hline⟩, snippet, hsnippet⟩ := hc
      rw [numbered, Candidate.toFinding_of_readable hnote hline hsnippet, ok_bind, hfailure]
      rfl
    · obtain ⟨failure, hfailure, hfails⟩ := Candidate.toFinding_of_not_accepted hc (count + 1)
      refine ⟨[], c, rest, failure, rfl, List.forall_mem_nil _, hfails, ?_⟩
      rw [numbered, hfailure]
      rfl

/-- Findings under different numbers have different ids. -/
theorem nodup_ids_of_reported {candidates : List Candidate} {count : Nat} {findings : List Finding}
    (h : List.Forall₂ (fun p f => p.1.Reported p.2 f) (candidates.zipIdx count) findings) :
    (findings.map Finding.id).Nodup := by
  have hids : findings.map Finding.id
      = (candidates.zipIdx count).map fun p => p.1.category.key ++ "-" ++ toString p.2 := by
    have hsame : List.Forall₂ (· = ·) (findings.map Finding.id)
        ((candidates.zipIdx count).map fun p => p.1.category.key ++ "-" ++ toString p.2) := by
      rw [List.forall₂_map_left_iff, List.forall₂_map_right_iff]
      exact (h.imp fun _ _ hreported => hreported.id_eq).flip
    rwa [List.forall₂_eq_eq_eq] at hsame
  have hnumbers : (candidates.zipIdx count).Pairwise fun p q => p.2 < q.2 := by
    rw [← List.pairwise_map, List.zipIdx_map_snd]
    exact List.pairwise_lt_range'
  rw [hids]
  refine List.pairwise_map.2 (hnumbers.imp fun {p q} hlt heq => ?_)
  have hsame := number_eq_of_id_eq heq
  omega

/-! ### The report of a battery -/

namespace Auditor

/-- The report of a battery whose detectors hand in candidates. -/
theorem report_eq {source : Text} {functions : List FunctionDef} {battery : List Detector}
    {groups : List (List Candidate)}
    (h : List.Forall₂ (fun detector candidates =>
      (detector.inspect source functions).outcome = .ok (candidates.map Candidate.submit))
      battery groups) :
    report battery source functions
      = (numbered 0 (firstOccurrences groups.flatten)).map fun findings =>
          if findings.isEmpty then [Register.nothingFound] else findings := by
  have hruns : List.Forall₂ (fun detector submissions =>
      (detector.inspect source functions).outcome = .ok submissions)
      battery (groups.map (List.map Candidate.submit)) := List.forall₂_map_right_iff.2 h
  have hall : (groups.flatten.filter fun c => c.entry ∉ Register.empty.keys) = groups.flatten :=
    List.filter_eq_self.2 fun c _ => by simp [Register.empty]
  have hfindings := Register.findings_enterAll .empty groups.flatten
  rw [hall] at hfindings
  have hconclude (outcome : Except Failure Register) :
      (outcome >>= fun register => pure register.conclude)
        = (outcome.map Register.findings).map fun findings =>
            if findings.isEmpty then [Register.nothingFound] else findings := by
    cases outcome <;> rfl
  rw [report, outcome_inspectAll_of_runs hruns, ← List.map_flatten, hconclude, hfindings]
  show ((numbered 0 (firstOccurrences groups.flatten)).map _).map _ = _
  cases numbered 0 (firstOccurrences groups.flatten) <;> rfl

theorem firstOccurrences_eq_nil_iff {candidates : List Candidate} :
    firstOccurrences candidates = [] ↔ candidates = [] := by
  cases candidates with
  | nil => simp [firstOccurrences]
  | cons c rest => simp [firstOccurrences, List.eraseDupsBy_cons]

/-- Two detectors, of which the second hands in a candidate that the first one has handed in, and a
last line in writing. -/
def twoDetectors : List (List Candidate) :=
  [[⟨.uncheckedCall, .high, some 3, .int 3, .null, .null⟩,
    ⟨.reentrancy, .low, none, .null, .str "a", .str "b"⟩],
   [⟨.uncheckedCall, .medium, some 3, .str "soon", .null, .null⟩,
    ⟨.uncheckedCall, .high, some 4, .str "07", .null, .null⟩]]

end Auditor

end ContractAudit
