import ContractAudit.Proofs.Source.Decomposition
import ContractAudit.Proofs.Source.Scan
import ContractAudit.Proofs.Source.Spacing
import ContractAudit.Proofs.Text.Pieces
import ContractAudit.Proofs.Text.Visible

/-!
# Functions and declarations

Two numbers are worked out for a source.  Its functions are cut out of it line by line: a line that is no
comment and has a header opens one.  Its declarations are counted over the text as it stands, comments
and line ends included, and no two of those that are counted overlap, so that one declaration can take
the keyword of another one for its name.  Still there are never more functions than declarations.

* `length_segmentsFrom_le` -- **lines**: the scan opens no more functions than there are lines with a
  header;
* `headers_le_of_no_paren` -- a front of the text without a parenthesis takes up at most one line with a
  header;
* `headers_le_declarationsFrom` -- **text**: there are no more lines with a header than declarations;
* `length_functions_le_declarationCount` -- the two numbers.

A declaration that is counted ends in front of the parenthesis of its header, and so the lines that it
takes up have no header, the last of them apart.
-/

namespace ContractAudit.Source

open ContractAudit.Text

/-! ### Lines with a header -/

/-- Whether there is a header on the line, be it in a comment. -/
def hasHeader (line : Text) : Bool :=
  (header? line).isSome

theorem countP_hasHeader_cons (line : Text) (rest : List Text) :
    (line :: rest).countP hasHeader = (header? line).isSome.toNat + rest.countP hasHeader := by
  have hsame : hasHeader line = (header? line).isSome := rfl
  rw [List.countP_cons, hsame]
  cases (header? line).isSome
  · exact (Nat.zero_add _).symm
  · exact Nat.add_comm _ 1

/-- What stands behind a header does not matter. -/
theorem StartsHeader.append {name s : Text} (h : StartsHeader name s) (rest : Text) :
    StartsHeader name (s ++ rest) := by
  obtain ⟨gap, space, after, rfl, hgap, hblank, hname, hword, hspace⟩ := h
  refine ⟨gap, space, after ++ rest, ?_, hgap, hblank, hname, hword, hspace⟩
  simp only [List.append_assoc, List.cons_append]

/-- A header has a parenthesis. -/
theorem headerFrom?_eq_none {s : Text} (h : '(' ∉ s) (previous : Option Char) :
    headerFrom? previous s = none := by
  cases hfound : headerFrom? previous s with
  | none => rfl
  | some found =>
    obtain ⟨front, hs, -, hstart, -⟩ := (headerFrom?_spec previous s).1 found.1 found.2 hfound
    obtain ⟨gap, space, rest, ht, -⟩ := hstart
    refine absurd ?_ h
    rw [hs, ht]
    simp

theorem hasHeader_eq_false {line : Text} (h : '(' ∉ line) : hasHeader line = false := by
  show (headerFrom? none line).isSome = false
  rw [headerFrom?_eq_none h]
  rfl

/-- A line that opens a function has a header: leaving out its comment adds none. -/
theorem hasHeader_of_opening? {number : Nat} {line : Text} {entry : OpenFunction × Text}
    (h : opening? number line = some entry) : hasHeader line = true := by
  obtain ⟨name, ⟨-, front, hcode, hbehind, -⟩, -⟩ :=
    opening?_eq_some_iff.1 (show opening? number line = some (entry.1, entry.2) from h)
  obtain ⟨comment, hline⟩ : ∃ comment, codePart line ++ comment = line :=
    isPrefix_before "//".toList line
  cases hfound : header? line with
  | some found =>
    show (header? line).isSome = true
    rw [hfound]
    rfl
  | none =>
    have hsplit : line = front ++ (entry.2 ++ comment) := by
      rw [← hline, hcode, List.append_assoc]
    exact absurd ⟨hbehind.1, hbehind.2.append comment⟩
      (header?_eq_none_iff.1 hfound front name (entry.2 ++ comment) hsplit)

/-! ### The scan opens no more functions than there are headers -/

/-- **Step.**  A line ends or leaves open no more functions than were open before it or have a header on
it. -/
theorem length_scanLine_le (default : Visibility) (number : Nat) (current : Option OpenFunction)
    (line : Text) :
    (scanLine default number current line).1.toList.length
        + (scanLine default number current line).2.toList.length
      ≤ current.toList.length + (hasHeader line).toNat := by
  -- a line that belongs to a function does one of the two with it
  have htake (f : OpenFunction) (code : Text) :
      (f.take default number line code).1.toList.length
        + (f.take default number line code).2.toList.length = 1 := by
    rw [OpenFunction.take]
    split
    · rfl
    · split <;> rfl
  rw [scanLine]
  cases current with
  | some f =>
    show (f.take default number line (codePart line)).1.toList.length
      + (f.take default number line (codePart line)).2.toList.length ≤ 1 + (hasHeader line).toNat
    rw [htake]
    omega
  | none =>
    cases hopening : opening? number line with
    | none =>
      simp only [entered?, hopening]
      exact Nat.zero_le _
    | some entry =>
      simp only [entered?, hopening, htake, hasHeader_of_opening? hopening]
      exact Nat.le_refl _

/-- **Run.**  The scan opens no more functions than there are lines with a header. -/
theorem length_segmentsFrom_le (default : Visibility) (number : Nat) (current : Option OpenFunction)
    (ls : List Text) :
    (segmentsFrom default number current ls).length
      ≤ current.toList.length + ls.countP hasHeader := by
  induction ls generalizing number current with
  | nil =>
    rw [segmentsFrom_nil]
    cases current <;> exact Nat.le_refl _
  | cons line rest ih =>
    have hstep := length_scanLine_le default number current line
    have hrest := ih (number + 1) (scanLine default number current line).2
    rw [hasHeader] at hstep
    rw [segmentsFrom_cons, List.length_append, countP_hasHeader_cons]
    omega

/-! ### No more lines with a header than declarations -/

/-- A front without a parenthesis takes up at most one line with a header, the one that it shares with
the rest of the text. -/
theorem headers_le_of_no_paren {front : Text} (hfront : '(' ∉ front) {rest first next : Text}
    {later lines : List Text} (hrest : splitWhere (· == '\n') rest = first :: later)
    (hall : splitWhere (· == '\n') (front ++ rest) = next :: lines) (previous : Option Char) :
    (headerFrom? previous next).isSome.toNat + lines.countP hasHeader ≤ 1 + later.countP hasHeader := by
  obtain ⟨pieces, last, hpieces, hjoined⟩ := splitWhere_append front hrest
  -- no line that the front has for itself has a parenthesis
  have hnone : ∀ piece ∈ pieces, '(' ∉ piece := by
    intro piece hpiece hparen
    have hmem : piece ∈ splitWhere (· == '\n') front := by
      rw [hpieces]
      exact List.mem_append_left _ hpiece
    exact hfront ((infix_of_mem_splitWhere hmem).subset hparen)
  rw [hjoined] at hall
  cases pieces with
  | nil =>
    obtain ⟨rfl, rfl⟩ := List.cons.inj hall
    have hone := Bool.toNat_le (headerFrom? previous (last ++ first)).isSome
    omega
  | cons piece pieces =>
    obtain ⟨rfl, rfl⟩ := List.cons.inj hall
    have hfirst : headerFrom? previous piece = none :=
      headerFrom?_eq_none (hnone piece List.mem_cons_self) previous
    have hmiddle : pieces.countP hasHeader = 0 := by
      rw [List.countP_eq_zero]
      intro other hother
      simp [hasHeader_eq_false (hnone other (List.mem_cons_of_mem piece hother))]
    have hone := Bool.toNat_le (header? (last ++ first)).isSome
    show _ + (pieces ++ (last ++ first) :: later).countP hasHeader ≤ _
    rw [hfirst, List.countP_append, hmiddle, countP_hasHeader_cons]
    show 0 + (0 + _) ≤ _
    omega

/-- A place where no declaration starts is not the place of a header either, also if the text is cut at
the end of the line. -/
theorem headerName?_eq_none_of_prefix {s line : Text} (hline : line <+: s)
    (h : declaredName? s = none) : headerName? line = none := by
  cases hname : headerName? line with
  | none => rfl
  | some name =>
    obtain ⟨rest, rfl⟩ := hline
    have hstart := (headerName?_eq_some_iff.1 hname).append rest
    rw [← headerName?_eq_some_iff, headerName?, h] at hstart
    cases hstart

/-- What a declaration is made of has no parenthesis. -/
theorem exists_front_of_declaredName? {s name rest : Text} (h : declaredName? s = some (name, rest)) :
    ∃ front, s = front ++ rest ∧ '(' ∉ front ∧ rest.length < s.length := by
  obtain ⟨gap, rfl, -, hgap, -, hname⟩ := exists_of_declaredName? h
  refine ⟨"function".toList ++ (gap ++ name), by simp only [List.append_assoc], ?_, ?_⟩
  · simp only [List.mem_append, not_or]
    refine ⟨by decide, fun hmem => ?_, fun hmem => ?_⟩
    · have hblank := hgap _ hmem
      cases hblank
    · have hword := hname _ hmem
      revert hword
      decide
  · rw [keyword_eq, keyword]
    simp only [List.length_append, List.length_cons]
    omega

/-- **Text.**  There are no more lines with a header, the first one being read behind `previous`, than
declarations. -/
theorem headers_le_declarationsFrom {s first : Text} {later : List Text}
    (h : splitWhere (· == '\n') s = first :: later) (previous : Option Char) :
    (headerFrom? previous first).isSome.toNat + later.countP hasHeader
      ≤ declarationsFrom previous 0 s := by
  -- the induction is on the length, since the count goes on behind a whole declaration
  induction hn : s.length using Nat.strongRecOn generalizing s first later previous with
  | ind n ih =>
    subst hn
    cases s with
    | nil =>
      obtain ⟨rfl, rfl⟩ := List.cons.inj h
      exact Nat.le_refl 0
    | cons c s =>
      rw [declarationsFrom_cons]
      cases hfound : (if previous.any isWord then none else declaredName? (c :: s)) with
      | some found =>
        -- a declaration is counted, and takes up at most one line with a header
        have hdeclared : declaredName? (c :: s) = some (found.1, found.2) := by
          split at hfound
          · cases hfound
          · exact hfound
        obtain ⟨front, hs, hparen, hshorter⟩ := exists_front_of_declaredName? hdeclared
        obtain ⟨next, lines, hrest⟩ :=
          List.exists_cons_of_ne_nil (splitWhere_ne_nil (· == '\n') found.2)
        have hlater := ih found.2.length hshorter hrest none rfl
        rw [hs] at h
        have htaken := headers_le_of_no_paren hparen hrest h previous
        show _ ≤ 1 + declarationsFrom none 0 found.2
        omega
      | none =>
        -- no declaration starts here, and so no header
        obtain ⟨next, lines, hs⟩ := List.exists_cons_of_ne_nil (splitWhere_ne_nil (· == '\n') s)
        have hrest := ih s.length (Nat.lt_succ_self _) hs (some c) rfl
        show _ ≤ declarationsFrom (some c) 0 s
        have hprefix := prefix_of_splitWhere h
        rw [splitWhere, hs] at h
        by_cases hc : c = '\n'
        · subst hc
          obtain ⟨rfl, rfl⟩ := List.cons.inj h
          have hsame : headerFrom? (some '\n') next = header? next :=
            headerFrom?_previous (by decide) next
          rw [hsame, ← countP_hasHeader_cons] at hrest
          show 0 + _ ≤ _
          rw [Nat.zero_add]
          exact hrest
        · rw [if_neg (by simpa using hc)] at h
          obtain ⟨rfl, rfl⟩ := List.cons.inj h
          have hhere : (if previous.any isWord then none else headerName? (c :: next)) = none := by
            split
            · rfl
            · rename_i hedge
              rw [if_neg hedge] at hfound
              exact headerName?_eq_none_of_prefix hprefix hfound
          rw [headerFrom?_cons, hhere]
          exact hrest

/-! ### The two numbers -/

/-- Every function that is opened, be it closed or not, has a declaration of its own. -/
theorem length_segments_le_declarationCount (default : Visibility) (source : Text) :
    (segments default source).length ≤ declarationCount source := by
  obtain ⟨first, later, hlines⟩ :=
    List.exists_cons_of_ne_nil (splitWhere_ne_nil (· == '\n') (dropReturns source))
  have hscan := length_segmentsFrom_le default 1 none (lines source)
  have htext := headers_le_declarationsFrom hlines none
  rw [spacingFree_declarationCount.respaced (respaced_dropReturns source)]
  show _ ≤ declarationsFrom none 0 (dropReturns source)
  calc (segments default source).length
      ≤ 0 + (lines source).countP hasHeader := hscan
    _ = (header? first).isSome.toNat + later.countP hasHeader := by
        rw [Nat.zero_add, lines, hlines, countP_hasHeader_cons]
    _ ≤ declarationsFrom none 0 (dropReturns source) := htext

/-- **There are never more functions than declarations.** -/
theorem length_functions_le_declarationCount (default : Visibility) (source : Text) :
    (functions default source).length ≤ declarationCount source := by
  have hclosed : (functions default source).length ≤ (segments default source).length :=
    List.length_filterMap_le Segment.function? (segments default source)
  exact Nat.le_trans hclosed (length_segments_le_declarationCount default source)

/-- The keyword that opens the function is the name of the only declaration. -/
example : (functions .public "function\nfunction f() \x7b\x7d".toList).length = 1 ∧
    declarationCount "function\nfunction f() \x7b\x7d".toList = 1 := by
  decide +kernel

end ContractAudit.Source
