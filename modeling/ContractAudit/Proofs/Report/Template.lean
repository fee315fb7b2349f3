import ContractAudit.Proofs.Text.Utf8
import ContractAudit.Report.Format

/-!
# Filled templates

A report that is made of pieces comes about if its numbers can be written.  All of it but the name of
the source is text, so that the report is text if that name is.  A report that is a JSON value is text
in any case.

* `Piece.signs`, `Piece.numbers` -- what stands for a piece, and the number in it;
* `fill_eq` -- when a report comes about, and what it is then;
* `all_isText_plain`, `all_isText_htmlWith` -- which pieces of a report are text;
* `generate_not_text` -- which reports are not text.
-/

namespace ContractAudit.Report

open ContractAudit.Text

/-! ### Pieces -/

/-- What stands for a piece whose number can be written. -/
def Piece.signs : Piece → Signs
  | text s => .ofText s
  | number n => .ofText (Numeral.digits n)
  | name s => s

/-- The number of a piece, if it is one. -/
def Piece.numbers : Piece → List Int
  | number n => [n]
  | _ => []

/-- Whether a piece is text, as all but names are. -/
def Piece.isText : Piece → Bool
  | name s => s.isText
  | _ => true

@[simp]
theorem numbers_number (n : Int) : (Piece.number n).numbers = [n] := rfl

@[simp]
theorem numbers_words (s : String) : (words s).numbers = [] := rfl

@[simp]
theorem numbers_asText (escape : Char → Text) (s : String) : (asText escape s).numbers = [] := rfl

theorem isText_signs (piece : Piece) : piece.signs.isText = piece.isText := by
  cases piece with
  | text s => exact Signs.isText_ofText s
  | number n => exact Signs.isText_ofText (Numeral.digits n)
  | name s => rfl

/-- **A report comes about exactly if its numbers can be written.** -/
theorem fill_eq (pieces : List Piece) :
    fill pieces
      = if (pieces.flatMap Piece.numbers).all Numeral.isWritable then
          .ok (pieces.flatMap Piece.signs)
        else .error .unwritableNumber := by
  induction pieces with
  | nil => rfl
  | cons piece pieces ih =>
    rw [fill, ih, List.flatMap_cons, List.flatMap_cons, List.all_append]
    cases piece with
    | text s => cases (pieces.flatMap Piece.numbers).all Numeral.isWritable <;> rfl
    | name s => cases (pieces.flatMap Piece.numbers).all Numeral.isWritable <;> rfl
    | number n =>
      have hone : (Piece.number n).numbers.all Numeral.isWritable = Numeral.isWritable n := by simp
      rw [hone, Piece.fill]
      cases Numeral.isWritable n <;>
        cases (pieces.flatMap Piece.numbers).all Numeral.isWritable <;> rfl

theorem isText_of_fill {pieces : List Piece} {report : Signs} (h : fill pieces = .ok report) :
    report.isText = pieces.all Piece.isText := by
  rw [fill_eq] at h
  split at h
  · cases h
    rw [Signs.isText, List.all_flatMap]
    exact congrArg (List.all pieces) (funext isText_signs)
  · cases h

/-! ### Reports that are text -/

@[simp]
theorem isText_words (s : String) : (words s).isText = true := rfl

@[simp]
theorem isText_text (s : Text) : (Piece.text s).isText = true := rfl

@[simp]
theorem isText_name (s : Signs) : (Piece.name s).isText = s.isText := rfl

@[simp]
theorem isText_number_piece (n : Int) : (Piece.number n).isText = true := rfl

@[simp]
theorem isText_asText (escape : Char → Text) (s : String) : (asText escape s).isText = true := rfl

@[simp]
theorem isText_number (n : Option Int) : (number n).isText = true := by
  cases n <;> rfl

theorem isText_nameAsText (escape : Char → Text) (name : Signs) :
    (nameAsText escape name).isText = name.isText := by
  show Signs.isText (name.flatMap _) = _
  rw [Signs.isText, List.all_flatMap]
  refine congrArg (List.all name) (funext fun sign => ?_)
  cases sign with
  | char c => exact Signs.isText_ofText (escape c)
  | octet low => rfl

section Plain

theorem all_isText_plainLocation (l : Location) : (plainLocation l).all Piece.isText = true := by
  rw [plainLocation]
  split
  · rfl
  · split <;> simp

theorem all_isText_plainReferences (urls : List String) :
    (plainReferences urls).all Piece.isText = true := by
  cases urls with
  | nil => rfl
  | cons url urls => simp [plainReferences, List.all_flatMap]

theorem all_isText_plainFinding (place : Nat) (f : Finding) :
    (plainFinding place f).all Piece.isText = true := by
  simp [plainFinding, all_isText_plainLocation, all_isText_plainReferences]

theorem all_isText_plainFindings (place : Nat) (findings : List Finding) :
    (plainFindings place findings).all Piece.isText = true := by
  induction findings generalizing place with
  | nil => rfl
  | cons f findings ih =>
    rw [plainFindings, List.all_append, all_isText_plainFinding, ih]
    rfl

/-- Of a plain report only the name of the source need not be text. -/
theorem all_isText_plain (a : Assessment) (sourceName : Signs) (date : String) :
    (plain a sourceName date).all Piece.isText = sourceName.isText := by
  rw [plain, List.all_append, all_isText_plainFindings]
  simp

end Plain

section Html

variable (escape : Char → Text)

theorem all_isText_htmlLocation (l : Location) :
    (htmlLocation escape l).all Piece.isText = true := by
  rw [htmlLocation]
  split
  · rfl
  · split <;> simp

theorem all_isText_htmlReferences (urls : List String) :
    (htmlReferences escape urls).all Piece.isText = true := by
  cases urls with
  | nil => rfl
  | cons url urls => simp [htmlReferences, htmlReference, List.all_flatMap]

theorem all_isText_htmlFinding (f : Finding) : (htmlFinding escape f).all Piece.isText = true := by
  simp [htmlFinding, all_isText_htmlLocation, all_isText_htmlReferences]

/-- Of an HTML report only the name of the source need not be text. -/
theorem all_isText_htmlWith (a : Assessment) (sourceName : Signs) (date : String) :
    (htmlWith escape a sourceName date).all Piece.isText = sourceName.isText := by
  have hfindings : (a.findings.flatMap (htmlFinding escape)).all Piece.isText = true := by
    rw [List.all_flatMap, List.all_eq_true]
    intro f _
    exact all_isText_htmlFinding escape f
  have hhead : (htmlHead escape sourceName).all Piece.isText = sourceName.isText := by
    simp [htmlHead, isText_nameAsText]
  have hoverview : (htmlOverview escape a sourceName date).all Piece.isText = sourceName.isText := by
    simp [htmlOverview, htmlCell, isText_nameAsText]
  simp only [htmlWith, List.all_append, hhead, hoverview, hfindings]
  simp

end Html

/-- What is written of a value is text, whatever the name in it. -/
theorem isText_of_map_ofText {written : Except Failure Text} {report : Signs}
    (h : written.map Signs.ofText = .ok report) : report.isText = true := by
  cases written with
  | error failure => cases h
  | ok text =>
    cases h
    exact Signs.isText_ofText text

theorem Format.name_of_ofName? {name : String} {format : Format} (h : ofName? name = some format) :
    format.name = name := by
  have hfound := List.find?_some h
  exact eq_of_beq hfound

/-- **A report that is not text** is a plain or an HTML report on a source with a name that is not
text. -/
theorem generate_not_text {a : Assessment} {formatName : String} {sourceName report : Signs}
    {date : String} (h : generate a formatName sourceName date = .ok report)
    (hreport : report.isText = false) :
    (formatName = "text" ∨ formatName = "html") ∧ sourceName.isText = false := by
  rw [generate] at h
  split at h
  · rename_i format hformat
    rw [← Format.name_of_ofName? hformat]
    cases format with
    | text =>
      rw [isText_of_fill h, all_isText_plain] at hreport
      exact ⟨.inl rfl, hreport⟩
    | html =>
      rw [isText_of_fill h, html, all_isText_htmlWith] at hreport
      exact ⟨.inr rfl, hreport⟩
    | json =>
      rw [isText_of_map_ofText h] at hreport
      cases hreport
    | sarif =>
      rw [isText_of_map_ofText h] at hreport
      cases hreport
  · cases h

end ContractAudit.Report
