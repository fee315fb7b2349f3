import ContractAudit.Failure

/-!
# Templates

A report is made of pieces: fixed words and texts of the assessment, numbers, and the name of the
source, which need not be text.  It comes about only if all its numbers can be written.

* `Piece` -- a part of a report;
* `Piece.fill`, `fill` -- what stands for a piece, and for all of them.
-/

namespace ContractAudit.Report

/-- A part of a report. -/
inductive Piece where
  | text (s : Text)
  | number (n : Int)
  | name (s : Signs)

/-- Fixed words. -/
def words (s : String) : Piece :=
  .text s.toList

/-- What stands for a piece. -/
def Piece.fill : Piece → Except Failure Signs
  | text s => .ok (.ofText s)
  | number n =>
    if Numeral.isWritable n then .ok (.ofText (Numeral.digits n)) else .error .unwritableNumber
  | name s => .ok s

/-- What stands for several pieces in order. -/
def fill : List Piece → Except Failure Signs
  | [] => .ok []
  | piece :: pieces => do
    let front ← piece.fill
    let back ← fill pieces
    return front ++ back

end ContractAudit.Report
