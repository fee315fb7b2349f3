import ContractAudit.Json.Value
import ContractAudit.Number.Numeral

/-!
# Checked fields

What comes in as JSON is checked field by field.  A check does not stop at the first fault: it
collects all of them, in the order in which the fields are declared, each with the path to the value
at fault.

* `Issue` -- a fault and where it lies;
* `Checked` -- a value, or the faults that stand in its way;
* `Checked.both` -- two checks side by side;
* `readInt`, `readBool`, `readText`, `readNullable`, `readList`, `readRecord` -- checks of one
  value;
* `Slot` -- the names under which a record may have a field.

Whole numbers are read leniently: a number with a fraction of zeros, a truth value and a string that
writes a whole number will do.
-/

namespace ContractAudit

/-- One step on the way to a value. -/
inductive PathStep where
  | field (name : String)
  | index (position : Nat)
  deriving DecidableEq, Repr

/-- What can be wrong with a value. -/
inductive Fault where
  | missing
  | notText
  | notAllowed
  | notInteger
  | unreadableInteger
  | oversizedInteger
  | fractionalInteger
  | notFinite
  | notBoolean
  | unreadableBoolean
  | belowMinimum
  | aboveMaximum
  | notList
  | notRecord
  deriving DecidableEq, Repr

/-- A fault and the path to the value at fault. -/
structure Issue where
  path : List PathStep
  fault : Fault
  deriving DecidableEq, Repr

/-- One step on the way to a value, in writing. -/
def PathStep.name : PathStep → String
  | field name => name
  | index position => toString position

/-- The path to the value at fault, in writing. -/
def Issue.place (issue : Issue) : String :=
  ".".intercalate (issue.path.map PathStep.name)

/-- A value, or all the faults that stand in its way. -/
abbrev Checked (α : Type) := Except (List Issue) α

namespace Checked

/-- Nothing to complain about. -/
def pass {α : Type} (a : α) : Checked α :=
  .ok a

/-- A single fault, at the value itself. -/
def fail {α : Type} (fault : Fault) : Checked α :=
  .error [⟨[], fault⟩]

/-- The same check with its faults one step further down. -/
def under {α : Type} (step : PathStep) : Checked α → Checked α
  | .ok a => .ok a
  | .error issues => .error (issues.map fun issue => { issue with path := step :: issue.path })

/-- Two checks side by side: the faults of the first come first. -/
def both {α β : Type} : Checked (α → β) → Checked α → Checked β
  | .ok f, .ok a => .ok (f a)
  | .ok _, .error issues => .error issues
  | .error issues, .ok _ => .error issues
  | .error first, .error second => .error (first ++ second)

/-- A further check of a value that passed. -/
def andThen {α β : Type} (check : Checked α) (next : α → Checked β) : Checked β :=
  match check with
  | .ok a => next a
  | .error issues => .error issues

end Checked

namespace Json

/-! ### Whole numbers -/

/-- The least number that does not fit into a signed word of 64 binary digits. -/
def wordLimit : Nat := 9223372036854775808

/-- A whole number. -/
def readInt : Json → Checked Int
  | int n => .ok n
  | bool b => .ok (if b then 1 else 0)
  | real x =>
    match x, x.whole? with
    | .finite .., some n => if n.natAbs < wordLimit then .ok n else Checked.fail .oversizedInteger
    | .finite .., none => Checked.fail .fractionalInteger
    | _, _ => Checked.fail .notFinite
  | str s =>
    match Numeral.read s.toList with
    | .ok n => .ok n
    | .error .oversized => Checked.fail .oversizedInteger
    | .error .unreadable => Checked.fail .unreadableInteger
  | _ => Checked.fail .notInteger

/-! ### Other single values -/

/-- The truth value of a whole number: zero and one have one. -/
def boolOfInt (n : Int) : Checked Bool :=
  if n = 0 then .ok false else if n = 1 then .ok true else Checked.fail .unreadableBoolean

/-- A truth value: also zero and one, and the usual words in any case.  A number that does not fit
into a word, or is not whole, is not even looked at. -/
def readBool : Json → Checked Bool
  | bool b => .ok b
  | int n =>
    if -(wordLimit : Int) ≤ n ∧ n < wordLimit then boolOfInt n else Checked.fail .notBoolean
  | real x =>
    match x.whole? with
    | some n => if n.natAbs < wordLimit then boolOfInt n else Checked.fail .notBoolean
    | none => Checked.fail .notBoolean
  | str s =>
    let word := String.ofList (s.toList.map Char.toLower)
    if ["0", "off", "f", "false", "n", "no"].contains word then .ok false
    else if ["1", "on", "t", "true", "y", "yes"].contains word then .ok true
    else Checked.fail .unreadableBoolean
  | _ => Checked.fail .notBoolean

/-- A string. -/
def readText : Json → Checked String
  | str s => .ok s
  | _ => Checked.fail .notText

/-- A string that names something. -/
def readName {α : Type} (ofName? : String → Option α) : Json → Checked α
  | str s =>
    match ofName? s with
    | some a => .ok a
    | none => Checked.fail .notAllowed
  | _ => Checked.fail .notAllowed

/-- A value that may be null. -/
def readNullable {α : Type} (read : Json → Checked α) : Json → Checked (Option α)
  | null => .ok none
  | value => match read value with
    | .ok a => .ok (some a)
    | .error issues => .error issues

/-! ### Lists and records -/

/-- The items of a list from a position on, each checked. -/
def readItemsFrom {α : Type} (read : Json → Checked α) : Nat → List Json → Checked (List α)
  | _, [] => .ok []
  | position, item :: items =>
    ((Checked.pass List.cons).both ((read item).under (.index position))).both
      (readItemsFrom read (position + 1) items)

/-- A list of values. -/
def readList {α : Type} (read : Json → Checked α) : Json → Checked (List α)
  | arr items => readItemsFrom read 0 items
  | _ => Checked.fail .notList

/-- A record, given by its fields. -/
def readRecord {α : Type} (read : List (String × Json) → Checked α) : Json → Checked α
  | obj fields => read fields
  | _ => Checked.fail .notRecord

end Json

/-- The names under which a record may have a field: the first one that is present counts, and the
first one is named when none is. -/
structure Slot where
  name : String
  alternative : Option String := none

namespace Slot

/-- The name that is present and the value under it. -/
def find? (slot : Slot) (fields : List (String × Json)) : Option (String × Json) :=
  match Json.field? slot.name fields with
  | some value => some (slot.name, value)
  | none =>
    slot.alternative.bind fun name => (Json.field? name fields).map fun value => (name, value)

/-- A field that has to be there. -/
def required {α : Type} (slot : Slot) (read : Json → Checked α) (fields : List (String × Json)) :
    Checked α :=
  match slot.find? fields with
  | some (name, value) => (read value).under (.field name)
  | none => (Checked.fail .missing).under (.field slot.name)

/-- A field that has a value of its own when it is not there. -/
def orElse {α : Type} (slot : Slot) (read : Json → Checked α) (default : α)
    (fields : List (String × Json)) : Checked α :=
  match slot.find? fields with
  | some (name, value) => (read value).under (.field name)
  | none => .ok default

end Slot

end ContractAudit
