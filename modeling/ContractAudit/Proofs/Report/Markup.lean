import ContractAudit.Proofs.Number.Decimal
import ContractAudit.Proofs.Report.Template
import Mathlib.Data.List.Forall2

/-!
# The markup of an HTML report

The markup of a report is what is left of it when only its angle brackets and quotes are kept.  A
text of the assessment is written with none of them and a number has none, so that they all come from
the fixed pieces of the report, and which pieces there are depends on a few things only: the risk
level, and for each finding its id, its severity, whether its first line is known and whether there
is a snippet to show.

* `markup` -- the angle brackets and quotes of a report;
* `SameOutline` -- two findings agree in what their cards are made of;
* `markupOf_htmlFinding`, `markupOf_htmlOverview` -- so their cards have the same markup, and the same
  goes for two overviews;
* `markupOf_htmlWith` -- no text changes the markup of a report, whatever replacement of characters is
  used, if it leaves no markup over;
* `htmlNumbers` -- the numbers of a report;
* `markup_html` -- the report itself.
-/

namespace ContractAudit.Report

open ContractAudit.Text

/-! ### Markup -/

/-- An angle bracket or a quote. -/
def isMarkup (c : Char) : Bool :=
  c == '<' || c == '>' || c == '"' || c == '\x27'

/-- The angle brackets and quotes among the signs, in order. -/
def markup (s : Signs) : Text :=
  s.characters.filter isMarkup

/-- The markup of pieces, in order. -/
def markupOf (pieces : List Piece) : Text :=
  pieces.flatMap fun piece => markup piece.signs

theorem markup_append (s t : Signs) : markup (s ++ t) = markup s ++ markup t := by
  rw [markup, Signs.characters, List.filterMap_append, List.filter_append]
  rfl

theorem markup_flatMap {α : Type} (f : α → Signs) (l : List α) :
    markup (l.flatMap f) = l.flatMap fun a => markup (f a) := by
  induction l with
  | nil => rfl
  | cons a l ih => rw [List.flatMap_cons, List.flatMap_cons, markup_append, ih]

theorem markup_flatMap_signs (pieces : List Piece) :
    markup (pieces.flatMap Piece.signs) = markupOf pieces :=
  markup_flatMap Piece.signs pieces

theorem markup_ofText (s : Text) : markup (.ofText s) = s.filter isMarkup := by
  rw [markup, Signs.characters, Signs.ofText, List.filterMap_map]
  exact congrArg (List.filter isMarkup) List.filterMap_some

@[simp]
theorem markupOf_nil : markupOf [] = [] := rfl

@[simp]
theorem markupOf_cons (piece : Piece) (pieces : List Piece) :
    markupOf (piece :: pieces) = markup piece.signs ++ markupOf pieces := rfl

@[simp]
theorem markupOf_append (pieces others : List Piece) :
    markupOf (pieces ++ others) = markupOf pieces ++ markupOf others :=
  List.flatMap_append

@[simp]
theorem markup_number_signs (n : Int) : markup (Piece.number n).signs = [] := by
  show markup (.ofText (Numeral.digits n)) = []
  rw [markup_ofText, List.filter_eq_nil_iff]
  intro c hc
  rcases isDigit_or_minus hc with hdigit | rfl
  · have hne (d : Char) (hd : d.isDigit = false) : c ≠ d := ne_of_isDigit hdigit hd
    simp [isMarkup, hne '<' rfl, hne '>' rfl, hne '"' rfl, hne '\x27' rfl]
  · decide

@[simp]
theorem markup_number (n : Option Int) : markup (number n).signs = [] := by
  cases n with
  | none => decide
  | some n => exact markup_number_signs n

/-- None of the five references has markup, and they stand for all the characters that are. -/
theorem markup_escapeMarkup (c : Char) : markup (.ofText (escapeMarkup c)) = [] := by
  rw [markup_ofText]
  unfold escapeMarkup
  iterate 5
    split
    · decide
  rename_i _ hless hgreater hquote happostrophe
  simp [isMarkup, hless, hgreater, hquote, happostrophe]

/-! ### The parts of a report -/

/-- Two findings have the same id and severity, their first lines are both known or both not, and
they both have a snippet to show or both have none. -/
structure SameOutline (f g : Finding) : Prop where
  id_eq : f.id = g.id
  severity_eq : f.severity = g.severity
  located_eq : f.location.lineStart.isSome = g.location.lineStart.isSome
  quoted_eq : (given? f.location.snippet).isSome = (given? g.location.snippet).isSome

theorem markupOf_htmlCell (n m : Int) : markupOf (htmlCell n) = markupOf (htmlCell m) := by
  simp only [htmlCell, markupOf_cons, markup_number_signs]

section Escaping

variable {escape : Char → Text} (hescape : ∀ c, markup (.ofText (escape c)) = [])

include hescape

/-- **A text has no markup.** -/
theorem markup_asText (s : String) : markup (asText escape s).signs = [] := by
  show markup (.ofText (s.toList.flatMap escape)) = []
  rw [Signs.ofText, List.map_flatMap, markup_flatMap]
  exact List.flatMap_eq_nil_iff.2 fun c _ => hescape c

/-- **A name has no markup.** -/
theorem markup_nameAsText (name : Signs) : markup (nameAsText escape name).signs = [] := by
  show markup (name.flatMap _) = []
  rw [markup_flatMap]
  refine List.flatMap_eq_nil_iff.2 fun sign _ => ?_
  cases sign with
  | char c => exact hescape c
  | octet low => rfl

/-- The lines about a location, told by what they are made of. -/
theorem markupOf_htmlLocation (l : Location) :
    markupOf (htmlLocation escape l)
      = if l.lineStart.isSome then
          markup (words "    <p>Lines ").signs ++ markup (words "</p>\n").signs
            ++ if (given? l.snippet).isSome then
                markup (words "    <pre><code>").signs ++ markup (words "</code></pre>\n").signs
              else []
        else [] := by
  have hdash : markup (words "-").signs = [] := rfl
  obtain ⟨lineStart, lineEnd, snippet⟩ := l
  cases lineStart with
  | none => rfl
  | some line =>
    cases hsnippet : given? snippet <;>
      simp [htmlLocation, hsnippet, hdash, markup_asText hescape]

/-- Findings of one outline have cards of one markup. -/
theorem markupOf_htmlFinding {f g : Finding} (h : SameOutline f g) :
    markupOf (htmlFinding escape f) = markupOf (htmlFinding escape g) := by
  have hreferences : f.references = g.references := by
    simp only [Finding.references, Finding.categoryKey, h.id_eq]
  simp only [htmlFinding, markupOf_append, markupOf_cons, markup_asText hescape,
    markupOf_htmlLocation hescape, h.severity_eq, h.located_eq, h.quoted_eq, hreferences]

/-- Overviews of one risk level have one markup. -/
theorem markupOf_htmlOverview {a b : Assessment} (h : a.riskLevel = b.riskLevel)
    (sourceName sourceName' : Signs) (date date' : String) :
    markupOf (htmlOverview escape a sourceName date)
      = markupOf (htmlOverview escape b sourceName' date') := by
  have hcell (n : Int) : markupOf (htmlCell n) = markupOf (htmlCell 0) := markupOf_htmlCell n 0
  simp only [htmlOverview, markupOf_append, markupOf_cons, markup_asText hescape,
    markup_nameAsText hescape, markup_number_signs, hcell, h]

theorem markupOf_htmlHead (sourceName sourceName' : Signs) :
    markupOf (htmlHead escape sourceName) = markupOf (htmlHead escape sourceName') := by
  simp only [htmlHead, markupOf_cons, markup_nameAsText hescape]

theorem markupOf_flatMap_htmlFinding {fs gs : List Finding} (h : List.Forall₂ SameOutline fs gs) :
    markupOf (fs.flatMap (htmlFinding escape)) = markupOf (gs.flatMap (htmlFinding escape)) := by
  induction h with
  | nil => rfl
  | cons hfirst _ ih =>
    rw [List.flatMap_cons, List.flatMap_cons, markupOf_append, markupOf_append,
      markupOf_htmlFinding hescape hfirst, ih]

/-- **No text changes the markup of a report**, whatever replacement of characters is used, if it
leaves no markup over. -/
theorem markupOf_htmlWith {a b : Assessment} (hlevel : a.riskLevel = b.riskLevel)
    (hfindings : List.Forall₂ SameOutline a.findings b.findings) (sourceName sourceName' : Signs)
    (date date' : String) :
    markupOf (htmlWith escape a sourceName date) = markupOf (htmlWith escape b sourceName' date') := by
  simp only [htmlWith, markupOf_append, markupOf_htmlHead hescape sourceName sourceName',
    markupOf_htmlOverview hescape hlevel sourceName sourceName' date date',
    markupOf_flatMap_htmlFinding hescape hfindings]

end Escaping

/-! ### The numbers of a report -/

/-- The lines of a location that are shown: none if the first is not known. -/
def shownLines (l : Location) : List Int :=
  match l.lineStart with
  | none => []
  | some first => first :: l.lineEnd.toList

/-- The numbers of an HTML report. -/
def htmlNumbers (a : Assessment) : List Int :=
  [(a.riskScore : Int), a.metrics.criticalCount, a.metrics.highCount, a.metrics.mediumCount,
    a.metrics.lowCount, a.metrics.linesOfCode, a.metrics.functionCount]
    ++ a.findings.flatMap fun f => shownLines f.location

theorem numbers_htmlLocation (escape : Char → Text) (l : Location) :
    (htmlLocation escape l).flatMap Piece.numbers = shownLines l := by
  obtain ⟨lineStart, lineEnd, snippet⟩ := l
  cases lineStart with
  | none => rfl
  | some first =>
    cases lineEnd <;> cases hsnippet : given? snippet <;>
      simp [htmlLocation, shownLines, hsnippet, number]

theorem numbers_htmlReferences (escape : Char → Text) (urls : List String) :
    (htmlReferences escape urls).flatMap Piece.numbers = [] := by
  have hone (url : String) : (htmlReference escape url).flatMap Piece.numbers = [] := rfl
  cases urls with
  | nil => rfl
  | cons url urls =>
    have hall : ((url :: urls).flatMap (htmlReference escape)).flatMap Piece.numbers = [] := by
      rw [List.flatMap_assoc]
      exact List.flatMap_eq_nil_iff.2 fun url _ => hone url
    rw [htmlReferences, List.flatMap_append, List.flatMap_cons, hall]
    · rfl
    · exact List.cons_ne_nil url urls

theorem numbers_htmlFinding (escape : Char → Text) (f : Finding) :
    (htmlFinding escape f).flatMap Piece.numbers = shownLines f.location := by
  simp [htmlFinding, numbers_htmlLocation, numbers_htmlReferences]

theorem numbers_htmlWith (escape : Char → Text) (a : Assessment) (sourceName : Signs)
    (date : String) :
    (htmlWith escape a sourceName date).flatMap Piece.numbers = htmlNumbers a := by
  have hfindings : (a.findings.flatMap (htmlFinding escape)).flatMap Piece.numbers
      = a.findings.flatMap fun f => shownLines f.location := by
    rw [List.flatMap_assoc]
    exact congrArg (List.flatMap · a.findings) (funext (numbers_htmlFinding escape))
  have hname : (nameAsText escape sourceName).numbers = [] := rfl
  have hstyle (s : Text) : (Piece.text s).numbers = [] := rfl
  simp only [htmlWith, htmlHead, htmlOverview, htmlCell, htmlNumbers, List.flatMap_append,
    List.flatMap_cons, List.flatMap_nil, hfindings, hname, hstyle, numbers_number, numbers_words,
    numbers_asText, List.nil_append, List.append_nil, List.cons_append]

/-! ### Reports -/

/-- What an HTML report is, if it comes about. -/
theorem render_html_eq (a : Assessment) (sourceName : Signs) (date : String) :
    render .html a sourceName date
      = if (htmlNumbers a).all Numeral.isWritable then
          .ok ((html a sourceName date).flatMap Piece.signs)
        else .error .unwritableNumber := by
  rw [render, fill_eq, html, numbers_htmlWith]

/-- An assessment with harmless texts. -/
def harmlessTexts : Assessment where
  riskScore := 20
  riskLevel := .low
  summary := "Found one."
  findings := [⟨"reentrancy-1", "Reentrancy", .high, "State is written late.",
    ⟨some 3, some 4, some "a.call();"⟩, "Write it first."⟩]
  metrics := ⟨1, 0, 1, 0, 0, 9, 1⟩
  riskScore_le := by decide

/-- An assessment of the same outline, with texts that try to be markup. -/
def hostileTexts : Assessment where
  riskScore := 35
  riskLevel := .low
  summary := "</p><script>alert('x')</script>"
  findings := [⟨"reentrancy-1", "\"><b>", .high, "' onload='",
    ⟨some (-3), none, some "</code></pre><img src=\"x\">"⟩, "<!--"⟩]
  metrics := ⟨7, -1, 1, 0, 0, 0, 0⟩
  riskScore_le := by decide

end ContractAudit.Report
