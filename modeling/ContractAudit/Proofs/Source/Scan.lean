import ContractAudit.Proofs.Text.Pieces
import ContractAudit.Source.Segment

/-!
# The scan, line by line

The scan carries one thing from line to line, the function that is open.  So it can be stopped behind
any line and taken up again there, and outside a function nothing is left of the lines before but
their number.

* `scanLine` -- what one line does;
* `scanFrom` -- what several lines do, as long as the source does not end with them;
* `segmentsFrom_cons` -- **step**: the scan takes a line and goes on with what is open behind it;
* `scanFrom_append`, `segmentsFrom_append` -- **run**: the scan of a front and a back goes on behind the
  front with what is open there;
* `segmentsFrom_shift` -- the numbers of the lines do not matter for anything but themselves;
* `functions_append` -- the functions of two texts with a line feed between them.
-/

namespace ContractAudit.Source

open ContractAudit.Text

/-! ### One line -/

/-- The function that a line belongs to, and the code of the line that counts for it: the open one, or
one that the line opens. -/
def entered? (number : Nat) (line : Text) : Option OpenFunction → Option (OpenFunction × Text)
  | some f => some (f, codePart line)
  | none => opening? number line

/-- What a line does to the function that it belongs to: the segment that ends with the line, if one
does, and the function that is open behind it. -/
def OpenFunction.take (default : Visibility) (number : Nat) (line : Text) (f : OpenFunction)
    (code : Text) : Option Segment × Option OpenFunction :=
  if f.endsBodiless code then (some (.bodiless f.name f.start), none)
  else if (f.extend line code).endsClosed code then
    (some (.closed ((f.extend line code).close default number)), none)
  else (none, some (f.extend line code))

/-- What a line does: the segment that ends with it, if one does, and the function that is open behind
it. -/
def scanLine (default : Visibility) (number : Nat) (current : Option OpenFunction) (line : Text) :
    Option Segment × Option OpenFunction :=
  match entered? number line current with
  | none => (none, none)
  | some (f, code) => f.take default number line code

/-- The scan from a line on that belongs to a function. -/
theorem OpenFunction.segments_take (default : Visibility) (number : Nat) (f : OpenFunction)
    (line code : Text) (rest : List Text) :
    (f.take default number line code).1.toList
        ++ segmentsFrom default (number + 1) (f.take default number line code).2 rest
      = if f.endsBodiless code then
          .bodiless f.name f.start :: segmentsFrom default (number + 1) none rest
        else if (f.extend line code).endsClosed code then
          .closed ((f.extend line code).close default number)
            :: segmentsFrom default (number + 1) none rest
        else segmentsFrom default (number + 1) (some (f.extend line code)) rest := by
  rw [OpenFunction.take]
  split
  · rfl
  · split <;> rfl

/-- **Step.**  The scan takes a line and goes on with what is open behind it. -/
theorem segmentsFrom_cons (default : Visibility) (number : Nat) (current : Option OpenFunction)
    (line : Text) (rest : List Text) :
    segmentsFrom default number current (line :: rest)
      = (scanLine default number current line).1.toList
        ++ segmentsFrom default (number + 1) (scanLine default number current line).2 rest := by
  cases current with
  | some f => simp only [segmentsFrom, scanLine, entered?, OpenFunction.segments_take]
  | none =>
    cases hopening : opening? number line with
    | none =>
      simp only [segmentsFrom, scanLine, entered?, hopening]
      rfl
    | some entry =>
      simp only [segmentsFrom, scanLine, entered?, hopening, OpenFunction.segments_take]

/-- At the end of the source, what is open stays so. -/
theorem segmentsFrom_nil (default : Visibility) (number : Nat) (current : Option OpenFunction) :
    segmentsFrom default number current []
      = (current.map fun f => Segment.unclosed f.name f.start).toList := by
  cases current <;> rfl

/-! ### Several lines -/

/-- What several lines do: the segments that end with them, and the function that is open behind the
last of them. -/
def scanFrom (default : Visibility) :
    Nat → Option OpenFunction → List Text → List Segment × Option OpenFunction
  | _, current, [] => ([], current)
  | number, current, line :: rest =>
    let step := scanLine default number current line
    let later := scanFrom default (number + 1) step.2 rest
    (step.1.toList ++ later.1, later.2)

theorem scanFrom_append (default : Visibility) (number : Nat) (current : Option OpenFunction)
    (front back : List Text) :
    scanFrom default number current (front ++ back)
      = ((scanFrom default number current front).1
          ++ (scanFrom default (number + front.length) (scanFrom default number current front).2 back).1,
        (scanFrom default (number + front.length) (scanFrom default number current front).2 back).2) := by
  induction front generalizing number current with
  | nil => rfl
  | cons line front ih =>
    have hnumber : number + (line :: front).length = number + 1 + front.length := by
      rw [List.length_cons]
      omega
    rw [List.cons_append, scanFrom, scanFrom, ih, hnumber, List.append_assoc]

/-- The scan of a whole source: what its lines do, and what is left open behind them. -/
theorem segmentsFrom_eq (default : Visibility) (number : Nat) (current : Option OpenFunction)
    (ls : List Text) :
    segmentsFrom default number current ls
      = (scanFrom default number current ls).1
        ++ ((scanFrom default number current ls).2.map fun f =>
            Segment.unclosed f.name f.start).toList := by
  induction ls generalizing number current with
  | nil => exact segmentsFrom_nil default number current
  | cons line rest ih => rw [segmentsFrom_cons, ih, scanFrom, List.append_assoc]

/-- **Run.**  Behind a front of the lines the scan goes on with what is open there. -/
theorem segmentsFrom_append (default : Visibility) (number : Nat) (current : Option OpenFunction)
    (front back : List Text) :
    segmentsFrom default number current (front ++ back)
      = (scanFrom default number current front).1
        ++ segmentsFrom default (number + front.length) (scanFrom default number current front).2
            back := by
  rw [segmentsFrom_eq, scanFrom_append, List.append_assoc, ← segmentsFrom_eq]

/-! ### Lines further down -/

/-- The open function with its lines `k` further down. -/
def OpenFunction.shift (k : Nat) (f : OpenFunction) : OpenFunction :=
  { f with start := f.start + k }

/-- The definition with its lines `k` further down. -/
def FunctionDef.shift (k : Nat) (f : FunctionDef) : FunctionDef :=
  { f with lineStart := f.lineStart + k, lineEnd := f.lineEnd + k }

/-- The segment with its lines `k` further down. -/
def Segment.shift (k : Nat) : Segment → Segment
  | closed f => closed (f.shift k)
  | bodiless name start => bodiless name (start + k)
  | unclosed name start => unclosed name (start + k)

theorem OpenFunction.take_shift (k : Nat) (default : Visibility) (number : Nat) (f : OpenFunction)
    (line code : Text) :
    (f.shift k).take default (number + k) line code
      = ((f.take default number line code).1.map (Segment.shift k),
          (f.take default number line code).2.map (OpenFunction.shift k)) := by
  -- neither test looks at a number
  have hbodiless : (f.shift k).endsBodiless code = f.endsBodiless code := rfl
  have hclosed : ((f.shift k).extend line code).endsClosed code
      = (f.extend line code).endsClosed code := rfl
  rw [OpenFunction.take, OpenFunction.take, hbodiless, hclosed]
  split
  · rfl
  · split <;> rfl

theorem opening?_shift (k number : Nat) (line : Text) :
    opening? (number + k) line
      = (opening? number line).map fun entry => (entry.1.shift k, entry.2) := by
  rw [opening?, opening?]
  split
  · rfl
  · rw [Option.map_map]
    rfl

theorem scanLine_shift (k : Nat) (default : Visibility) (number : Nat)
    (current : Option OpenFunction) (line : Text) :
    scanLine default (number + k) (current.map (OpenFunction.shift k)) line
      = ((scanLine default number current line).1.map (Segment.shift k),
          (scanLine default number current line).2.map (OpenFunction.shift k)) := by
  have hentered : entered? (number + k) line (current.map (OpenFunction.shift k))
      = (entered? number line current).map fun entry => (entry.1.shift k, entry.2) := by
    cases current with
    | none => exact opening?_shift k number line
    | some f => rfl
  rw [scanLine, scanLine, hentered]
  cases entered? number line current with
  | none => rfl
  | some entry => exact OpenFunction.take_shift k default number entry.1 line entry.2

/-- **The scan of lines that stand further down.** -/
theorem segmentsFrom_shift (k : Nat) (default : Visibility) (number : Nat)
    (current : Option OpenFunction) (ls : List Text) :
    segmentsFrom default (number + k) (current.map (OpenFunction.shift k)) ls
      = (segmentsFrom default number current ls).map (Segment.shift k) := by
  induction ls generalizing number current with
  | nil => cases current <;> rfl
  | cons line rest ih =>
    have hnumber : number + k + 1 = number + 1 + k := by omega
    rw [segmentsFrom_cons, segmentsFrom_cons, scanLine_shift, hnumber, ih, List.map_append]
    cases (scanLine default number current line).1 <;> rfl

theorem filterMap_map_shift (k : Nat) (segments : List Segment) :
    (segments.map (Segment.shift k)).filterMap Segment.function?
      = (segments.filterMap Segment.function?).map (FunctionDef.shift k) := by
  rw [List.filterMap_map, List.map_filterMap]
  congr 1
  funext segment
  cases segment <;> rfl

/-! ### Two texts, one behind the other -/

/-- The segments of a source: those that end in it, and the one that it leaves open. -/
theorem segments_eq (default : Visibility) (source : Text) :
    segments default source
      = (scanFrom default 1 none (lines source)).1
        ++ ((scanFrom default 1 none (lines source)).2.map fun f =>
            Segment.unclosed f.name f.start).toList :=
  segmentsFrom_eq default 1 none (lines source)

/-- What is left open is no function. -/
theorem functions_eq (default : Visibility) (source : Text) :
    functions default source
      = (scanFrom default 1 none (lines source)).1.filterMap Segment.function? := by
  rw [functions, segments_eq, List.filterMap_append]
  cases (scanFrom default 1 none (lines source)).2 <;> exact List.append_nil _

/-- Whether the segment is a function that never ends. -/
def Segment.isUnclosed : Segment → Bool
  | unclosed _ _ => true
  | _ => false

/-- **The functions of two texts with a line feed between them** start with those of the first.  If
the first leaves no function open, those of the second follow, as far down as the first has lines. -/
theorem functions_append (default : Visibility) {a : Text} (ha : a.getLast? ≠ some '\r')
    (b : Text) :
    functions default a <+: functions default (a ++ '\n' :: b) ∧
    ((∀ segment ∈ segments default a, segment.isUnclosed = false) →
      functions default (a ++ '\n' :: b)
        = functions default a
          ++ (functions default b).map (FunctionDef.shift (lines a).length)) := by
  have hwhole : functions default (a ++ '\n' :: b)
      = functions default a
        ++ (segmentsFrom default (1 + (lines a).length)
            (scanFrom default 1 none (lines a)).2 (lines b)).filterMap Segment.function? := by
    rw [functions, segments, lines_append ha, segmentsFrom_append, List.filterMap_append,
      ← functions_eq]
  refine ⟨hwhole ▸ List.prefix_append _ _, fun hclosed => ?_⟩
  have hnone : (scanFrom default 1 none (lines a)).2 = none := by
    rw [segments_eq] at hclosed
    cases hopen : (scanFrom default 1 none (lines a)).2 with
    | none => rfl
    | some f =>
      rw [hopen] at hclosed
      have hlast := hclosed _ (List.mem_append_right _ List.mem_cons_self)
      cases hlast
  have hback : (segmentsFrom default (1 + (lines a).length) none (lines b)).filterMap
      Segment.function? = (functions default b).map (FunctionDef.shift (lines a).length) := by
    have hshift := segmentsFrom_shift (lines a).length default 1 none (lines b)
    rw [functions, segments, ← filterMap_map_shift, ← hshift]
    rfl
  rw [hwhole, hnone, hback]

/-- A contract up to the end of its first function, behind an interface. -/
def openContract : Text :=
  "interface I \x7b function f() external; \x7d\ncontract C \x7b\r\nfunction g() public \x7b\n\x7d".toList

/-- The rest of the contract, and a function that is never closed. -/
def restOfContract : Text :=
  "function h(uint x)\n  external view \x7b \x7d\n\x7d\nfunction k() \x7b".toList

theorem functions_append_openContract :
    openContract.getLast? ≠ some '\r' ∧
    (∀ segment ∈ segments .public openContract, segment.isUnclosed = false) ∧
    functions .public (openContract ++ '\n' :: restOfContract)
      = functions .public openContract
        ++ (functions .public restOfContract).map (FunctionDef.shift 4) ∧
    (functions .public openContract).map FunctionDef.name = ["g".toList] ∧
    (functions .public restOfContract).map FunctionDef.name = ["h".toList] := by
  have hlast : openContract.getLast? ≠ some '\r' := by decide
  have hclosed : ∀ segment ∈ segments .public openContract, segment.isUnclosed = false := by
    decide +kernel
  have hlines : (lines openContract).length = 4 := by decide
  have happend := (functions_append .public hlast restOfContract).2 hclosed
  rw [hlines] at happend
  exact ⟨hlast, hclosed, happend, by decide +kernel, by decide +kernel⟩

end ContractAudit.Source
