import ContractAudit.Failure
import ContractAudit.Source.Header
import ContractAudit.Text.Lines

/-!
# Function definitions

* `Visibility`, `Mutability` -- the two qualifiers that the analyses look at;
* `FunctionDef` -- one function with its body as it stands in the source and its first and last
  line;
* `FunctionDef.numberedLines` -- the lines of the body with their numbers in the source;
* `FunctionDef.read` -- a definition that comes in from outside, checked.
-/

namespace ContractAudit.Source

open ContractAudit.Text

/-- Who may call a function. -/
inductive Visibility where
  | «public»
  | external
  | internal
  | «private»
  deriving DecidableEq, Repr

namespace Visibility

/-- The keyword of a visibility. -/
def name : Visibility → String
  | «public» => "public"
  | external => "external"
  | internal => "internal"
  | «private» => "private"

/-- All of them. -/
def all : List Visibility := [«public», external, internal, «private»]

/-- The visibility with the given keyword. -/
def ofName? (s : String) : Option Visibility :=
  all.find? fun v => v.name == s

/-- The visibility with the given keyword, or a failure that quotes it. -/
def parse (s : String) : Except Failure Visibility :=
  match ofName? s with
  | some v => .ok v
  | none => .error (.unknownVisibility s)

end Visibility

/-- What a function may do with state and ether. -/
inductive Mutability where
  | pure
  | view
  | payable
  | nonpayable
  deriving DecidableEq, Repr

namespace Mutability

/-- The keyword of a mutability; `nonpayable` goes without saying in source. -/
def name : Mutability → String
  | pure => "pure"
  | view => "view"
  | payable => "payable"
  | nonpayable => "nonpayable"

/-- Those that source spells out. -/
def written : List Mutability := [pure, view, payable]

/-- The mutability with the given keyword. -/
def ofName? (s : String) : Option Mutability :=
  (nonpayable :: written).find? fun m => m.name == s

end Mutability

/-- One function definition. -/
structure FunctionDef where
  name : Text
  visibility : Visibility
  payable : Bool
  mutability : Mutability
  /-- The lines of the definition, as they stand in the source. -/
  body : Text
  /-- The number of the first line, counted from one. -/
  lineStart : Int
  /-- The number of the last line. -/
  lineEnd : Int
  deriving DecidableEq

namespace FunctionDef

/-- Whether other accounts can call the function. -/
def isExternallyCallable (f : FunctionDef) : Bool :=
  f.visibility == .public || f.visibility == .external

/-- Whether the function declares that it writes nothing. -/
def isReadOnly (f : FunctionDef) : Bool :=
  f.mutability == .pure || f.mutability == .view

/-- The lines of a text, numbered from a given number on. -/
def numberFrom : Int → List Text → List (Int × Text)
  | _, [] => []
  | n, line :: lines => (n, line) :: numberFrom (n + 1) lines

/-- The lines of the body with their numbers. -/
def numberedLines (f : FunctionDef) : List (Int × Text) :=
  numberFrom f.lineStart (splitWhere (· == '\n') f.body)

/-- The definition that a signature and the lines under it describe. -/
def ofSignature (default : Visibility) (name signature : Text) (body : List Text)
    (lineStart lineEnd : Int) : FunctionDef :=
  let qualifiers := qualifiers signature
  let visibility := (firstWordOf? (Visibility.all.map (·.name.toList)) qualifiers).bind
    fun w => Visibility.ofName? (String.ofList w)
  let mutability := (firstWordOf? (Mutability.written.map (·.name.toList)) qualifiers).bind
    fun w => Mutability.ofName? (String.ofList w)
  { name
    visibility := visibility.getD default
    payable := mutability == some .payable
    mutability := mutability.getD .nonpayable
    body := unlines body
    lineStart
    lineEnd }

/-- A definition that comes in from outside. -/
def read : Json → Checked FunctionDef :=
  Json.readRecord fun fields =>
    let text (slot : String) := Slot.required ⟨slot, none⟩ Json.readText fields
    let number (slot : String) := Slot.required ⟨slot, none⟩ Json.readInt fields
    (((((((Checked.pass fun name visibility payable mutability body lineStart lineEnd =>
        { name := String.toList name, visibility, payable, mutability, body := String.toList body,
          lineStart, lineEnd : FunctionDef }).both
      (text "name")).both
      (Slot.required ⟨"visibility", none⟩ (Json.readName Visibility.ofName?) fields)).both
      (Slot.required ⟨"payable", none⟩ Json.readBool fields)).both
      (Slot.orElse ⟨"mutability", none⟩ (Json.readName Mutability.ofName?) .nonpayable fields)).both
      (text "body")).both
      (number "line_start")).both
      (number "line_end")

end FunctionDef

end ContractAudit.Source
