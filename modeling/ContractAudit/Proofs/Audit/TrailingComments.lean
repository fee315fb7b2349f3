import ContractAudit.Proofs.Audit.AlikeDrafts
import ContractAudit.Proofs.Text.Visible

/-!
# Trailing comments

A comment behind the code of a line can say anything: it can hold braces, headers, calls and checks.
None of it counts for the functions of a source, for its unchecked calls or for its calls before a
write.  Two sources are compared line by line here, and two runs of each analysis.

* `SameCode` -- lines that are equal, or have comments behind the same code;
* `SameCode.readsAlike` -- all that the analyses ask of a line is the same for both;
* `outline_functions` -- the functions;
* `bounds_uncheckedCalls`, `bounds_reentrancy` -- the two detectors;
* `trailing_comments_do_not_count` -- all of it.

The reports differ in their snippets, which quote the comments, and in the severity of a call before a
write, because a guard counts wherever it is named.
-/

namespace ContractAudit

open ContractAudit.Text ContractAudit.Source

namespace Source

/-! ### Lines -/

/-- What opens a comment. -/
def commentMarks : List Text := ["//".toList, "/*".toList, "*".toList]

theorem isComment_iff {line : Text} :
    isComment line = true ↔ ∃ mark ∈ commentMarks, mark <+: line.dropWhile isBlank := by
  have hmarks : ∀ mark ∈ commentMarks, mark <+: trim line ↔ mark <+: line.dropWhile isBlank := by
    simp only [commentMarks, List.forall_mem_cons]
    exact ⟨prefix_trim_iff ['/'] line (by decide), prefix_trim_iff ['/'] line (by decide),
      prefix_trim_iff [] line (by decide), List.forall_mem_nil _⟩
  rw [← exists_congr fun mark => and_congr_right (hmarks mark)]
  simp [isComment, commentMarks, or_assoc]

/-- The double slash is seen, so that trimming in front goes no further. -/
theorem dropWhile_isBlank_append (code rest : Text) :
    (code ++ ("//".toList ++ rest)).dropWhile isBlank
      = code.dropWhile isBlank ++ "//".toList ++ rest := by
  rw [List.dropWhile_append]
  split
  · rename_i hempty
    rw [List.isEmpty_iff.1 hempty]
    rfl
  · rw [List.append_assoc]

/-- Whether a line is a comment does not depend on what its trailing comment says: no mark reaches
beyond the double slash. -/
theorem isComment_append (code rest : Text) :
    isComment (code ++ ("//".toList ++ rest)) = isComment (code ++ ("//".toList ++ [])) := by
  have hmarks : ∀ mark ∈ commentMarks,
      mark <+: code.dropWhile isBlank ++ "//".toList ++ rest ↔
        mark <+: code.dropWhile isBlank ++ "//".toList := by
    intro mark hmark
    have hshort : mark.length ≤ 2 :=
      (show ∀ mark ∈ commentMarks, mark.length ≤ 2 by decide) mark hmark
    constructor
    · intro h
      refine List.prefix_of_prefix_length_le h (List.prefix_append _ _) ?_
      rw [List.length_append]
      exact hshort.trans (Nat.le_add_left 2 _)
    · intro h
      exact h.trans (List.prefix_append _ _)
  rw [Bool.eq_iff_iff, isComment_iff, isComment_iff, dropWhile_isBlank_append,
    dropWhile_isBlank_append, List.append_nil]
  exact exists_congr fun mark => and_congr_right (hmarks mark)

/-- The lines are equal, or both have a comment behind the same code. -/
def SameCode (line other : Text) : Prop :=
  line = other ∨
    ("//".toList <:+: line ∧ "//".toList <:+: other ∧ codePart line = codePart other)

instance (line other : Text) : Decidable (SameCode line other) :=
  decidable_of_iff (line = other ∨ includes "//".toList line = true ∧
    includes "//".toList other = true ∧ codePart line = codePart other)
    (by simp only [includes_eq_true_iff, SameCode])

namespace SameCode

variable {line other : Text}

theorem codePart_eq (h : SameCode line other) : codePart line = codePart other := by
  rcases h with rfl | ⟨-, -, hcode⟩
  · rfl
  · exact hcode

theorem isComment_eq (h : SameCode line other) : isComment line = isComment other := by
  rcases h with rfl | ⟨hline, hother, hcode⟩
  · rfl
  · obtain ⟨rest, hrest⟩ := exists_eq_before_append hline
    obtain ⟨rest', hrest'⟩ := exists_eq_before_append hother
    rw [hrest, hrest', isComment_append, isComment_append _ rest']
    exact congrArg (fun code => isComment (code ++ ("//".toList ++ []))) hcode

/-- The analyses ask nothing else. -/
theorem readsAlike (h : SameCode line other) : ReadsAlike line other :=
  ⟨h.isComment_eq, congrArg (List.dropWhile isBlank) h.codePart_eq⟩

end SameCode

theorem functions_sameCode {s t : Text} (h : List.Forall₂ SameCode (lines s) (lines t))
    (default : Visibility) :
    List.Forall₂ (FunctionDef.Alike 0 SameCode) (functions default s) (functions default t) :=
  functions_alike (fun _ _ hline => hline.readsAlike) h default

/-- The functions of sources with the same code agree, bodies apart. -/
theorem outline_functions {s t : Text} (h : List.Forall₂ SameCode (lines s) (lines t))
    (default : Visibility) :
    (functions default s).map FunctionDef.outline
      = (functions default t).map FunctionDef.outline :=
  map_outline_eq (functions_sameCode h default)

end Source

/-! ### The detectors -/

namespace Detector

/-- The lines of a draft. -/
def bounds (d : Draft) : Int × Int :=
  (d.lineStart, d.lineEnd)

/-- Unchecked calls are found on the same lines. -/
theorem bounds_uncheckedCalls {s t : Text} (h : List.Forall₂ SameCode (lines s) (lines t))
    (window : Int) :
    (uncheckedCalls window s).map bounds = (uncheckedCalls window t).map bounds :=
  forall₂_iff_map_eq.1 (uncheckedCalls_alike (fun _ _ hline => hline.readsAlike)
    (fun _ _ _ _ => rfl) h window)

/-- Calls before a write are found on the same lines. -/
theorem bounds_reentrancy {s t : Text} (h : List.Forall₂ SameCode (lines s) (lines t))
    (default : Visibility) :
    (reentrancy s (functions default s)).map bounds
      = (reentrancy t (functions default t)).map bounds := by
  refine forall₂_iff_map_eq.1 (reentrancy_alike (fun _ _ hline => hline.readsAlike)
    (functions_sameCode h default) fun name found found' hcall hwrite => ?_)
  have hstart : found'.1.1 = found.1.1 := by simpa using hcall.1
  have hend : found'.2.1 = found.2.1 := by simpa using hwrite.1
  show (found.1.1, found.2.1) = (found'.1.1, found'.2.1)
  rw [hstart, hend]

end Detector

/-- **Trailing comments do not count.**  If two sources have equally many lines, and the lines under
each number are equal or have comments behind the same code, then their functions agree in everything
but their bodies, unchecked calls are reported on the same lines for every window, and so are calls
before a write. -/
theorem trailing_comments_do_not_count {s t : Text}
    (h : List.Forall₂ SameCode (lines s) (lines t)) (default : Visibility) (window : Int) :
    (functions default s).map FunctionDef.outline
      = (functions default t).map FunctionDef.outline ∧
    (Detector.uncheckedCalls window s).map Detector.bounds
      = (Detector.uncheckedCalls window t).map Detector.bounds ∧
    (Detector.reentrancy s (functions default s)).map Detector.bounds
      = (Detector.reentrancy t (functions default t)).map Detector.bounds :=
  ⟨outline_functions h default, Detector.bounds_uncheckedCalls h window,
    Detector.bounds_reentrancy h default⟩

/-- A payment before a step of a counter, with comments that say nothing. -/
def quietComments : Text :=
  "//\nfunction f() public \x7b //\na.call(x); //\nn += 1; //\n\x7d".toList

/-- The same with comments that look like code. -/
def loudComments : Text :=
  "// \x7b\nfunction f() public \x7b // \x7d\na.call(x); // require(ok);\nn += 1; //\x7b\n\x7d".toList

theorem trailing_comments_do_not_count_loudComments :
    List.Forall₂ SameCode (lines quietComments) (lines loudComments) ∧
    (functions .public quietComments).map FunctionDef.outline
      = (functions .public loudComments).map FunctionDef.outline ∧
    (functions .public quietComments).length = 1 ∧
    (Detector.uncheckedCalls 5 loudComments).map Detector.bounds = [(3, 3)] ∧
    (Detector.reentrancy loudComments (functions .public loudComments)).map Detector.bounds
      = [(3, 4)] := by
  have hsame : List.Forall₂ SameCode (lines quietComments) (lines loudComments) := by
    have hquiet : lines quietComments = ["//".toList, "function f() public \x7b //".toList,
        "a.call(x); //".toList, "n += 1; //".toList, "\x7d".toList] := by
      decide +kernel
    have hloud : lines loudComments = ["// \x7b".toList, "function f() public \x7b // \x7d".toList,
        "a.call(x); // require(ok);".toList, "n += 1; //\x7b".toList, "\x7d".toList] := by
      decide +kernel
    rw [hquiet, hloud]
    exact .cons (by decide) (.cons (by decide) (.cons (by decide) (.cons (by decide)
      (.cons (by decide) .nil))))
  obtain ⟨hfunctions, hcalls, hwrites⟩ := trailing_comments_do_not_count hsame .public 5
  refine ⟨hsame, hfunctions, by decide +kernel, ?_, ?_⟩
  · rw [← hcalls]
    decide +kernel
  · rw [← hwrites]
    decide +kernel

end ContractAudit
