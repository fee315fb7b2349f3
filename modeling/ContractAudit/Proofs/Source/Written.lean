import ContractAudit.Proofs.Source.Decomposition
import ContractAudit.Proofs.Source.Qualifiers

/-!
# Well-formed functions are found

A function as it is usually written: indentation, the keyword, a name, parameters in parentheses,
qualifiers, and a body in braces, over as many lines as one likes.  Such functions, with lines between
them that open nothing, are found one by one, with their names, their lines and their qualifiers.

* `FunctionText`, `WrittenFunction` -- the parts of such a function, and the conditions on them;
* `WrittenFunction.opensSpan` -- its first line opens a span;
* `WrittenFunction.ends` -- the span is closed, and ends with its last line, whatever follows;
* `WrittenFunction.words_signature` -- the words of its qualifiers are the words that count;
* `functions_written` -- the functions of a source that is made of such functions.

What a span does is said line by line, and what a function looks like is said of its text.  The first
section goes from the one to the other.
-/

namespace ContractAudit.Source

open ContractAudit.Text

/-! ### The lines of a text as the texts of a span -/

/-- The lines of a text open and close the braces of the text. -/
theorem netBraces_splitWhere (s : Text) :
    netBraces (splitWhere (· == '\n') s) = s.count '{' - s.count '}' := by
  refine splitWhere_induction
    (motive := fun s ls => netBraces ls = s.count '{' - s.count '}') rfl ?_ ?_ s
  · intro c s line rest hc ih
    obtain rfl : c = '\n' := by simpa using hc
    rw [netBraces, ih, List.count_cons_of_ne (by decide), List.count_cons_of_ne (by decide)]
    simp
  · intro c s line rest _ ih
    rw [netBraces] at ih ⊢
    rw [List.count_cons, List.count_cons, List.count_cons, List.count_cons]
    omega

/-- The heads of the lines of a text are the lines of what stands in front of its first opening
brace. -/
theorem headsOf_splitWhere (s : Text) :
    headsOf (splitWhere (· == '\n') s) = splitWhere (· == '\n') (s.takeWhile (· != '{')) := by
  refine splitWhere_induction
    (motive := fun s ls => headsOf ls = splitWhere (· == '\n') (s.takeWhile (· != '{')))
    rfl ?_ ?_ s
  · intro c s line rest hc ih
    obtain rfl : c = '\n' := by simpa using hc
    rw [headsOf, ih, List.takeWhile_cons_of_pos (by decide)]
    rfl
  · intro c s line rest hc ih
    rw [headsOf] at ih ⊢
    by_cases hb : c = '{'
    · subst hb
      simp [splitWhere]
    · have hmem : '{' ∈ c :: line ↔ '{' ∈ line := by
        rw [List.mem_cons, or_iff_right (Ne.symm hb)]
      rw [List.takeWhile_cons_of_pos (by simpa using hb), List.takeWhile_cons_of_pos
        (by simpa using hb), splitWhere, hc, if_neg Bool.false_ne_true, ← ih, consHead]
      simp only [hmem]

/-- Behind a blank each, the lines of a text are the text on one line behind a blank. -/
theorem flatMap_splitWhere (s : Text) :
    (splitWhere (· == '\n') s).flatMap (' ' :: ·) = ' ' :: onOneLine s := by
  refine splitWhere_induction
    (motive := fun s ls => ls.flatMap (' ' :: ·) = ' ' :: onOneLine s) rfl ?_ ?_ s
  · intro c s line rest hc ih
    obtain rfl : c = '\n' := by simpa using hc
    rw [List.flatMap_cons, ih]
    rfl
  · intro c s line rest hc ih
    have hc' : c ≠ '\n' := by simpa using hc
    rw [List.flatMap_cons, List.cons_append, List.cons.injEq] at ih
    rw [List.flatMap_cons, List.cons_append, List.cons_append, ih.2, onOneLine, onOneLine,
      List.map_cons, if_neg hc']

/-- The signature of the lines of a text is what stands in front of its first opening brace, on one
line. -/
theorem signatureOf_splitWhere (s : Text) :
    signatureOf (splitWhere (· == '\n') s) = onOneLine (' ' :: s.takeWhile (· != '{')) := by
  rw [signatureOf, headsOf_splitWhere, flatMap_splitWhere]
  rfl

/-- A semicolon that ends a declaration without a body is in one of the heads. -/
theorem exists_head_of_bodilessAt {texts : List Text} {e : Nat} (h : BodilessAt texts e) :
    ∃ head ∈ headsOf texts, ';' ∈ head := by
  induction texts generalizing e with
  | nil => exact absurd (lt_length_of_bodilessAt h) (Nat.not_lt_zero e)
  | cons t texts ih =>
    obtain ⟨s, hs, hnone, hsemi⟩ := h
    cases e with
    | zero =>
      obtain rfl : t = s := by simpa using hs
      exact ⟨_, List.mem_cons_self, hsemi⟩
    | succ e =>
      rw [List.take_succ_cons] at hnone
      have ht : '{' ∉ t := hnone t List.mem_cons_self
      obtain ⟨head, hhead, hin⟩ := ih ⟨s, by simpa using hs,
        fun u hu => hnone u (List.mem_cons_of_mem t hu), hsemi⟩
      refine ⟨head, ?_, hin⟩
      rw [headsOf, if_neg ht]
      exact List.mem_cons_of_mem _ hhead

/-! ### Functions as they are written -/

/-- The parts of a function, in the order in which they are written. -/
structure FunctionText where
  indent : Text
  /-- What stands between the keyword and the name. -/
  gap : Text
  name : Text
  /-- What stands between the name and the parameters. -/
  space : Text
  params : Text
  qualifiers : Text
  body : Text
  /-- What stands behind the last brace. -/
  trail : Text

namespace FunctionText

variable (w : FunctionText)

/-- The part in front of the parameters. -/
def front : Text :=
  keyword ++ (w.gap ++ (w.name ++ w.space))

/-- The part in front of the body. -/
def head : Text :=
  w.front ++ '(' :: (w.params ++ ')' :: w.qualifiers)

/-- The function from its keyword on. -/
def code : Text :=
  w.head ++ '{' :: (w.body ++ '}' :: w.trail)

/-- The function as it stands in a source. -/
def text : Text :=
  w.indent ++ w.code

end FunctionText

/-- A blank that ends no line. -/
def isInnerBlank (c : Char) : Bool :=
  isBlank c && c != '\n'

/-- Neither a brace nor a semicolon is in the text. -/
def IsPlain (s : Text) : Prop :=
  '{' ∉ s ∧ '}' ∉ s ∧ ';' ∉ s

instance (s : Text) : Decidable (IsPlain s) :=
  inferInstanceAs (Decidable ('{' ∉ s ∧ '}' ∉ s ∧ ';' ∉ s))

/-- A function that is well-formed: its header stands on one line up to the parameters; the parameters
are nested in parentheses and the body in braces; up to the body there is no other brace and no
semicolon; and nothing but blanks stands behind the last brace. -/
structure WrittenFunction extends FunctionText where
  indent_blank : ∀ c ∈ indent, isInnerBlank c = true
  gap_ne_nil : gap ≠ []
  gap_blank : ∀ c ∈ gap, isInnerBlank c = true
  name_ne_nil : name ≠ []
  name_word : ∀ c ∈ name, isWord c = true
  space_blank : ∀ c ∈ space, isInnerBlank c = true
  params_nested : Nested '(' ')' params
  params_plain : IsPlain params
  qualifiers_plain : IsPlain qualifiers
  body_nested : Nested '{' '}' body
  trail_blank : ∀ c ∈ trail, isInnerBlank c = true
  no_return : '\r' ∉ toFunctionText.text
  no_comment : includes "//".toList toFunctionText.text = false

/-! ### Blanks, names and plain texts -/

theorem isBlank_of_isInnerBlank {c : Char} (h : isInnerBlank c = true) : isBlank c = true := by
  rw [isInnerBlank, Bool.and_eq_true] at h
  exact h.1

theorem not_mem_of_inner {s : Text} (h : ∀ c ∈ s, isInnerBlank c = true) {d : Char}
    (hd : isInnerBlank d = false) : d ∉ s := by
  intro hmem
  rw [h d hmem] at hd
  cases hd

theorem not_mem_of_word {s : Text} (h : ∀ c ∈ s, isWord c = true) {d : Char}
    (hd : isWord d = false) : d ∉ s := by
  intro hmem
  rw [h d hmem] at hd
  cases hd

theorem isPlain_append {s t : Text} : IsPlain (s ++ t) ↔ IsPlain s ∧ IsPlain t := by
  simp only [IsPlain, List.mem_append, not_or]
  tauto

theorem isPlain_of_inner {s : Text} (h : ∀ c ∈ s, isInnerBlank c = true) : IsPlain s :=
  ⟨not_mem_of_inner h (by decide), not_mem_of_inner h (by decide), not_mem_of_inner h (by decide)⟩

namespace WrittenFunction

variable (w : WrittenFunction)

/-- A character that is neither in the keyword nor a blank nor part of a name is not in front of the
parameters. -/
theorem not_mem_front {d : Char} (hkey : d ∉ keyword) (hblank : isInnerBlank d = false)
    (hword : isWord d = false) : d ∉ w.front := by
  intro hmem
  rw [FunctionText.front, List.mem_append, List.mem_append, List.mem_append] at hmem
  rcases hmem with h | h | h | h
  · exact hkey h
  · exact not_mem_of_inner w.gap_blank hblank h
  · exact not_mem_of_word w.name_word hword h
  · exact not_mem_of_inner w.space_blank hblank h

theorem head_plain : IsPlain w.head := by
  have hfront : IsPlain w.front :=
    ⟨w.not_mem_front (by decide) (by decide) (by decide),
      w.not_mem_front (by decide) (by decide) (by decide),
      w.not_mem_front (by decide) (by decide) (by decide)⟩
  rw [FunctionText.head, List.append_cons, List.append_cons w.params, isPlain_append,
    isPlain_append, isPlain_append, isPlain_append]
  exact ⟨⟨hfront, by decide⟩, ⟨w.params_plain, by decide⟩, w.qualifiers_plain⟩

theorem takeWhile_code : w.code.takeWhile (· != '{') = w.head :=
  takeWhile_run (forall_bne_of_not_mem w.head_plain.1) rfl

/-! ### The first line -/

/-- The lines of the function, the first one from the keyword on. -/
def codeLines : List Text :=
  splitWhere (· == '\n') w.code

/-- The lines of the function are those of its code, the first one indented. -/
theorem lines_text : lines w.text = w.codeLines.modifyHead (w.indent ++ ·) := by
  have hindent : ∀ c ∈ w.indent, (c == '\n') = false := by
    intro c hc
    have hinner := w.indent_blank c hc
    rw [isInnerBlank, Bool.and_eq_true, bne_iff_ne] at hinner
    exact beq_false_of_ne hinner.2
  rw [lines, dropReturns_eq_self w.no_return, FunctionText.text, splitWhere_append_left hindent]
  rfl

/-- The first line starts with the front of the function and an opening parenthesis. -/
theorem exists_codeLines :
    ∃ first rest, w.codeLines = (w.front ++ '(' :: first) :: rest := by
  have hfront : ∀ c ∈ w.front ++ ['('], (c == '\n') = false := by
    intro c hc
    refine beq_false_of_ne ?_
    rintro rfl
    rcases List.mem_append.1 hc with hc | hc
    · exact w.not_mem_front (by decide) (by decide) (by decide) hc
    · exact absurd hc (by decide)
  obtain ⟨first, rest, hs⟩ := List.exists_cons_of_ne_nil (splitWhere_ne_nil (· == '\n')
    (w.params ++ ')' :: w.qualifiers ++ '{' :: (w.body ++ '}' :: w.trail)))
  have hcode : w.code = (w.front ++ ['('])
      ++ (w.params ++ ')' :: w.qualifiers ++ '{' :: (w.body ++ '}' :: w.trail)) := by
    simp [FunctionText.code, FunctionText.head]
  refine ⟨first, rest, ?_⟩
  rw [codeLines, hcode, splitWhere_append_left hfront, hs, List.modifyHead_cons, List.append_assoc]
  rfl

theorem not_comment_infix {s : Text} (h : s <:+: w.text) : ¬ "//".toList <:+: s := by
  intro hmark
  have hin := includes_eq_true_iff.2 (hmark.trans h)
  rw [w.no_comment] at hin
  cases hin

/-- Nothing is taken from a line of the function. -/
theorem codePart_eq_self {line : Text} (h : line ∈ lines w.text) : codePart line = line := by
  refine before_eq_self (w.not_comment_infix ?_)
  rw [lines, dropReturns_eq_self w.no_return] at h
  exact infix_of_mem_splitWhere h

/-- What starts with the front of the function and an opening parenthesis starts with its header. -/
theorem startsHeader (rest : Text) : StartsHeader w.name (w.front ++ '(' :: rest) := by
  refine ⟨w.gap, w.space, rest, ?_, w.gap_ne_nil,
    fun c hc => isBlank_of_isInnerBlank (w.gap_blank c hc), w.name_ne_nil, w.name_word,
    fun c hc => isBlank_of_isInnerBlank (w.space_blank c hc)⟩
  rw [keyword_eq, FunctionText.front]
  simp only [List.append_assoc]

/-- Behind blanks, a text that starts with a character that is visible is seen from there on. -/
theorem isComment_indented {indent rest : Text} (hindent : ∀ c ∈ indent, isBlank c = true) :
    isComment (indent ++ 'f' :: rest) = false := by
  have hdrop : (indent ++ 'f' :: rest).dropWhile isBlank = 'f' :: rest :=
    dropWhile_run hindent (show isBlank 'f' = false by decide)
  have htrim : ∃ more, trim (indent ++ 'f' :: rest) = 'f' :: more := by
    rw [trim, hdrop, trimRight, List.reverse_cons, List.dropWhile_append]
    split
    · exact ⟨[], rfl⟩
    · exact ⟨(rest.reverse.dropWhile isBlank).reverse, by simp⟩
  obtain ⟨more, hmore⟩ := htrim
  simp [isComment, hmore, List.isPrefixOf]

/-- The first header behind blanks is the one that follows them. -/
theorem firstHeader_indented {indent rest name : Text} (hindent : ∀ c ∈ indent, isBlank c = true)
    (h : StartsHeader name rest) : FirstHeader (indent ++ rest) name rest := by
  refine ⟨indent, rfl, ⟨?_, h⟩, fun front name' t hs hbehind => Nat.le_of_not_lt fun hlt => ?_⟩
  · cases hlast : indent.getLast? with
    | none => rfl
    | some c => exact isWord_of_isBlank (hindent c (List.mem_of_getLast? hlast))
  · -- a header that starts further in front would start with a blank
    obtain ⟨gap, space, after, ht, -⟩ := hbehind.2
    have hhead : (indent ++ rest)[front.length]? = some 'f' := by
      rw [hs, List.getElem?_append_right (Nat.le_refl _), Nat.sub_self, ht, keyword_eq]
      rfl
    rw [List.getElem?_append_left hlt] at hhead
    have hblank := hindent 'f' (List.mem_of_getElem? hhead)
    exact absurd hblank (by decide)

/-- **The first line of the function opens a span.** -/
theorem opensSpan {first : Text} {rest : List Text} (h : w.codeLines = first :: rest) :
    OpensSpan (w.indent ++ first) w.name first := by
  have hindent : ∀ c ∈ w.indent, isBlank c = true :=
    fun c hc => isBlank_of_isInnerBlank (w.indent_blank c hc)
  have hmem : w.indent ++ first ∈ lines w.text := by
    rw [w.lines_text, h]
    exact List.mem_cons_self
  obtain ⟨first', rest', h'⟩ := w.exists_codeLines
  obtain ⟨rfl, rfl⟩ : first = w.front ++ '(' :: first' ∧ rest = rest' := by
    rw [h] at h'
    simpa using h'
  refine ⟨isComment_indented hindent, ?_⟩
  rw [w.codePart_eq_self hmem]
  exact firstHeader_indented hindent (w.startsHeader first')

/-! ### The last line -/

/-- Braces open and close in the function as in its body, with one pair around it. -/
theorem count_code (c : Char) (hc : c = '{' ∨ c = '}') :
    w.code.count c = w.body.count c + 1 := by
  have hhead : w.head.count c = 0 := by
    rcases hc with rfl | rfl
    · exact List.count_eq_zero.2 w.head_plain.1
    · exact List.count_eq_zero.2 w.head_plain.2.1
  have htrail : w.trail.count c = 0 := by
    have hplain := isPlain_of_inner w.trail_blank
    rcases hc with rfl | rfl
    · exact List.count_eq_zero.2 hplain.1
    · exact List.count_eq_zero.2 hplain.2.1
  rw [FunctionText.code, List.count_append, List.count_cons, List.count_append, List.count_cons,
    hhead, htrail]
  rcases hc with rfl | rfl
  · simp
  · simp

/-- **Inside the function a brace is open.**  At a line end, once a brace has been opened, more are
open than closed. -/
theorem count_lt_count_of_line_end {front back : Text} (h : w.code = front ++ '\n' :: back)
    (hopen : '{' ∈ front) : front.count '}' < front.count '{' := by
  rw [FunctionText.code] at h
  rcases List.append_eq_append_iff.1 h with ⟨inner, rfl, hrest⟩ | ⟨inner, hhead, -⟩
  · -- the line ends behind the head
    have hclose : w.head.count '}' = 0 := List.count_eq_zero.2 w.head_plain.2.1
    cases inner with
    | nil => simp at hrest
    | cons c inner =>
      obtain ⟨rfl, hbody⟩ : '{' = c ∧ w.body ++ '}' :: w.trail = inner ++ '\n' :: back := by
        simpa using hrest
      rcases List.append_eq_append_iff.1 hbody with ⟨tail, rfl, htail⟩ | ⟨tail, hinner, -⟩
      · -- behind the last brace no line ends
        exfalso
        cases tail with
        | nil => simp at htail
        | cons d tail =>
          obtain ⟨-, htrail⟩ : '}' = d ∧ w.trail = tail ++ '\n' :: back := by simpa using htail
          refine not_mem_of_inner w.trail_blank (by decide) (d := '\n') ?_
          rw [htrail]
          simp
      · -- within the body, no more has been closed than opened
        have hle := w.body_nested.closes_le inner ⟨tail, hinner.symm⟩
        rw [List.count_append, List.count_append, hclose, List.count_cons_self,
          List.count_cons_of_ne (by decide)]
        omega
  · -- in the head no brace is opened
    have hmem : '{' ∈ w.head := by
      rw [hhead]
      exact List.mem_append_left _ hopen
    exact absurd hmem w.head_plain.1

/-- The last line of the function has its last brace. -/
theorem exists_last_line : ∃ init last, w.codeLines = init ++ [last] ∧ '}' ∈ last := by
  have htrail : ∀ c ∈ '}' :: w.trail, (c == '\n') = false := by
    intro c hc
    refine beq_false_of_ne ?_
    rintro rfl
    rcases List.mem_cons.1 hc with hc | hc
    · exact absurd hc (by decide)
    · exact not_mem_of_inner w.trail_blank (by decide) hc
  obtain ⟨init, last, -, hlast⟩ := splitWhere_append_right (w.head ++ '{' :: w.body) htrail
  have hcode : w.code = w.head ++ '{' :: w.body ++ '}' :: w.trail := by
    simp [FunctionText.code]
  refine ⟨init, last ++ '}' :: w.trail, ?_, by simp⟩
  rw [codeLines, hcode, hlast]

/-- **The span is closed with the last line of the function**, whatever lines follow. -/
theorem ends (later : List Text) : Ends (w.codeLines ++ later) .closed w.codeLines.length := by
  have hopen : ∃ line ∈ w.codeLines, '{' ∈ line := by
    rw [codeLines, exists_mem_splitWhere_iff (by decide), FunctionText.code]
    simp
  have hbodied : ∀ k, ¬ BodilessAt (w.codeLines ++ later) k := by
    intro k hk
    obtain ⟨head, hhead, hsemi⟩ := exists_head_of_bodilessAt hk
    rw [headsOf_append_of_open hopen, codeLines, headsOf_splitWhere, w.takeWhile_code] at hhead
    exact w.head_plain.2.2 ((infix_of_mem_splitWhere hhead).subset hsemi)
  obtain ⟨init, last, hlines, hclose⟩ := w.exists_last_line
  have hlen : w.codeLines.length = init.length + 1 := by
    rw [hlines, List.length_append, List.length_singleton]
  rw [hlen]
  refine .closed hbodied ⟨?_, fun k hk => Nat.le_of_not_lt fun hlt => ?_⟩
  · -- at the last line the braces of the whole function have been counted
    have hat : ClosedAt (init ++ last :: later) init.length := by
      rw [closedAt_append, ← hlines]
      refine ⟨hopen, hclose, ?_⟩
      have heq := w.body_nested.closes_eq
      rw [codeLines, netBraces_splitWhere, w.count_code '{' (.inl rfl), w.count_code '}' (.inr rfl)]
      omega
    rw [hlines, ← List.append_cons]
    exact hat
  · -- at an earlier line a brace is open
    obtain ⟨-, -, hopened, -, hnet⟩ := hk
    have hlt' : k + 1 < w.codeLines.length := by omega
    rw [List.take_append_of_le_length (by omega)] at hopened hnet
    obtain ⟨front, c, back, hcode, hc, htake⟩ := exists_take_splitWhere hlt'
    obtain rfl : c = '\n' := by simpa using hc
    rw [codeLines, htake] at hopened hnet
    rw [exists_mem_splitWhere_iff (by decide)] at hopened
    rw [netBraces_splitWhere] at hnet
    have hcount := w.count_lt_count_of_line_end hcode hopened
    omega

/-! ### The qualifiers -/

/-- **The words that count are those of the qualifiers**, up to the word `returns`. -/
theorem words_signature :
    words (qualifiers (signatureOf w.codeLines)) = wordsBeforeReturns w.qualifiers := by
  have hfront : '(' ∉ ' ' :: w.front := by
    rw [List.mem_cons, not_or]
    exact ⟨by decide, w.not_mem_front (by decide) (by decide) (by decide)⟩
  rw [codeLines, signatureOf_splitWhere, w.takeWhile_code, words_qualifiers_onOneLine]
  exact words_qualifiers hfront w.params_nested w.qualifiers_plain.1

/-! ### The record -/

/-- The record of the function, its first line having the given number. -/
def record (default : Visibility) (number : Nat) : FunctionDef where
  name := w.name
  visibility := (firstSpelled? Visibility.all Visibility.name
    (wordsBeforeReturns w.qualifiers)).getD default
  payable := firstSpelled? Mutability.written Mutability.name
    (wordsBeforeReturns w.qualifiers) == some .payable
  mutability := (firstSpelled? Mutability.written Mutability.name
    (wordsBeforeReturns w.qualifiers)).getD .nonpayable
  body := w.text
  lineStart := number
  lineEnd := (number + (lines w.text).length - 1 : Nat)

/-- The function as a stretch of lines. -/
def stretch : Stretch :=
  .span .closed w.name w.codeLines (lines w.text)

theorem record?_stretch (default : Visibility) (number : Nat) :
    w.stretch.record? default number = some (w.record default number) := by
  have hbody : unlines (lines w.text) = w.text := by
    rw [unlines, lines, dropReturns_eq_self w.no_return, joinWith_splitWhere]
  rw [stretch, Stretch.record?, ofSignature_eq, w.words_signature, hbody]
  rfl

/-- **A function is one stretch**, whatever follows it. -/
theorem greedy {rest : List Text} {stretches : List Stretch} (h : Greedy rest stretches) :
    Greedy (lines w.text ++ rest) (w.stretch :: stretches) := by
  obtain ⟨first, more, hcode⟩ := List.exists_cons_of_ne_nil (splitWhere_ne_nil (· == '\n') w.code)
  have hlines : lines w.text = (w.indent ++ first) :: more := by
    rw [w.lines_text, codeLines, hcode, List.modifyHead_cons]
  have hmore : more.map codePart = more := by
    refine (List.map_congr_left fun line hline => ?_).trans (List.map_id more)
    exact w.codePart_eq_self (by simp [hlines, hline])
  have htexts : textsFrom first (more ++ rest) = w.codeLines ++ rest.map codePart := by
    rw [textsFrom, List.map_append, hmore, codeLines, hcode, List.cons_append]
  have hlen : w.codeLines.length = (lines w.text).length := by
    rw [w.lines_text, List.length_modifyHead]
  have hends := w.ends (rest.map codePart)
  rw [← htexts] at hends
  have hlater : Greedy (((w.indent ++ first) :: (more ++ rest)).drop w.codeLines.length)
      stretches := by
    rw [← List.cons_append, ← hlines, hlen, List.drop_left]
    exact h
  have hspan := Greedy.span (w.opensSpan hcode) hends hlater
  rw [htexts, List.take_left, ← List.cons_append, ← hlines, hlen, List.take_left] at hspan
  exact hspan

end WrittenFunction

/-! ### Sources made of functions -/

/-- Lines that open nothing are gaps, one by one. -/
theorem Greedy.gaps_append {gaps rest : List Text} {stretches : List Stretch}
    (hgaps : ∀ line ∈ gaps, IsGap line) (h : Greedy rest stretches) :
    Greedy (gaps ++ rest) (gaps.map .gap ++ stretches) := by
  induction gaps with
  | nil => exact h
  | cons line gaps ih =>
    exact .gap (hgaps line List.mem_cons_self)
      (ih fun other hother => hgaps other (List.mem_cons_of_mem line hother))

theorem recordsOf_gaps_append (default : Visibility) (number : Nat) (gaps : List Text)
    (stretches : List Stretch) :
    recordsOf default number (gaps.map .gap ++ stretches)
      = recordsOf default (number + gaps.length) stretches := by
  induction gaps generalizing number with
  | nil => rfl
  | cons line gaps ih =>
    have hnumber : number + (line :: gaps).length = number + 1 + gaps.length := by
      rw [List.length_cons]
      omega
    rw [hnumber, ← ih]
    rfl

/-- A function and the lines behind it up to the next one, which open nothing. -/
structure Block where
  function : WrittenFunction
  after : List Text
  after_gap : ∀ line ∈ after, IsGap line

namespace Block

/-- The lines of a block. -/
def lines (block : Block) : List Text :=
  Text.lines block.function.text ++ block.after

/-- The records of blocks, the first line of the first having the given number. -/
def records (default : Visibility) : Nat → List Block → List FunctionDef
  | _, [] => []
  | number, block :: rest =>
    block.function.record default number :: records default (number + block.lines.length) rest

/-- The stretches of a block. -/
def stretches (block : Block) : List Stretch :=
  block.function.stretch :: block.after.map .gap

theorem greedy_flatMap (blocks : List Block) :
    Greedy (blocks.flatMap Block.lines) (blocks.flatMap Block.stretches) := by
  induction blocks with
  | nil => exact .nil
  | cons block blocks ih =>
    rw [List.flatMap_cons, List.flatMap_cons, lines, stretches, List.append_assoc,
      List.cons_append]
    exact block.function.greedy (Greedy.gaps_append block.after_gap ih)

theorem recordsOf_flatMap (default : Visibility) (number : Nat) (blocks : List Block) :
    recordsOf default number (blocks.flatMap Block.stretches) = records default number blocks := by
  induction blocks generalizing number with
  | nil => rfl
  | cons block blocks ih =>
    rw [List.flatMap_cons, stretches, List.cons_append, recordsOf, recordsOf_gaps_append, ih,
      block.function.record?_stretch, records, lines, List.length_append, Nat.add_assoc]
    rfl

end Block

/-- **Well-formed functions are neither lost nor merged nor mislabelled.**  In a source made of them,
with lines in front, between and behind that open nothing, each has its record, in order, and there is
no other. -/
theorem functions_written (default : Visibility) {source : Text} {before : List Text}
    {blocks : List Block} (hbefore : ∀ line ∈ before, IsGap line)
    (hsource : lines source = before ++ blocks.flatMap Block.lines) :
    functions default source = Block.records default (before.length + 1) blocks := by
  have hgreedy := Greedy.gaps_append hbefore (Block.greedy_flatMap blocks)
  rw [← hsource] at hgreedy
  rw [functions_eq_recordsOf hgreedy, recordsOf_gaps_append, Block.recordsOf_flatMap,
    Nat.add_comm before.length 1]

/-- A payable function over five lines, with a line behind it. -/
def payBlock : Block where
  function :=
    { indent := [' ']
      gap := [' ']
      name := ['p', 'a', 'y']
      space := []
      params := ['u', ' ', '(', ')', '\n']
      qualifiers := "\n payable returns (bool) ".toList
      body := "\n if (u) \x7b\x7d\n".toList
      trail := [' ']
      indent_blank := List.all_eq_true.1 (by decide)
      gap_ne_nil := by decide
      gap_blank := List.all_eq_true.1 (by decide)
      name_ne_nil := by decide
      name_word := List.all_eq_true.1 (by decide)
      space_blank := List.all_eq_true.1 (by decide)
      params_nested := by decide
      params_plain := by decide
      qualifiers_plain := by decide
      body_nested := by decide
      trail_blank := List.all_eq_true.1 (by decide)
      no_return := by decide
      no_comment := by decide }
  after := ["// function old() \x7b".toList]
  after_gap := by decide

theorem functions_written_payBlock :
    functions .internal (unlines ("contract C \x7b".toList :: payBlock.lines))
      = Block.records .internal 2 [payBlock] := by
  have hbefore : ∀ line ∈ ["contract C \x7b".toList], IsGap line := by decide
  have hsource : lines (unlines ("contract C \x7b".toList :: payBlock.lines))
      = ["contract C \x7b".toList] ++ [payBlock].flatMap Block.lines := by decide
  exact functions_written .internal hbefore hsource

end ContractAudit.Source
