import ContractAudit.Number.Numeral
import ContractAudit.Number.Shortest
import ContractAudit.Text.Quoted

/-!
# JSON values

Reports are JSON values, and so is everything that comes in unchecked: a stored report, a setting, a
finding that somebody else's detector submits.  Objects keep the order of their fields.

The texts of a value are strings, except in a report that names a file, whose name need not be one.

* `Json` -- the values;
* `Json.isWritable` -- whether all its numbers can be written;
* `Json.field?` -- the value under a name;
* `Json.isEmptyLike` -- the values that count as "nothing given";
* `Json.display` -- a value as it stands in running text.
-/

namespace ContractAudit

/-- A JSON value with texts of a type.  A number that is written without a point and without an
exponent is an `int`, any other is a `real`. -/
inductive Json (σ : Type := String) where
  | null
  | bool (value : Bool)
  | int (value : Int)
  | real (value : Binary64)
  | str (value : σ)
  | arr (items : List (Json σ))
  | obj (fields : List (String × Json σ))

namespace Json

/-! ### Values with texts of any type -/

section Texts

variable {σ : Type}

mutual

/-- Whether all whole numbers in a value can be written. -/
def isWritable : Json σ → Bool
  | int n => Numeral.isWritable n
  | arr items => itemsWritable items
  | obj fields => fieldsWritable fields
  | _ => true

/-- The same for all items. -/
def itemsWritable : List (Json σ) → Bool
  | [] => true
  | item :: items => isWritable item && itemsWritable items

/-- The same for all fields. -/
def fieldsWritable : List (String × Json σ) → Bool
  | [] => true
  | (_, value) :: fields => isWritable value && fieldsWritable fields

end

end Texts

/-! ### Fields and emptiness -/

/-- The value that an object has under a name.  Where a name is repeated the last value counts. -/
def field? (name : String) (fields : List (String × Json)) : Option Json :=
  (fields.reverse.find? fun field => field.1 == name).map Prod.snd

/-- Null, false, zero and everything empty. -/
def isEmptyLike : Json → Bool
  | null => true
  | bool b => !b
  | int n => n == 0
  | real x => x.isZero
  | str s => s.isEmpty
  | arr items => items.isEmpty
  | obj fields => fields.isEmpty

/-! ### Values in running text

Only a value whose numbers can be written stands in running text. -/

mutual

/-- A value inside another one: strings stand between quotes. -/
def displayInner : Json → String
  | null => "None"
  | bool true => "True"
  | bool false => "False"
  | int n => toString n
  | real x => x.display
  | str s => Text.quoted s
  | arr items => "[" ++ ", ".intercalate (displayItems items) ++ "]"
  | obj fields => "\x7b" ++ ", ".intercalate (displayFields fields) ++ "\x7d"

/-- The items of an array, one by one. -/
def displayItems : List Json → List String
  | [] => []
  | item :: items => displayInner item :: displayItems items

/-- The fields of an object, one by one. -/
def displayFields : List (String × Json) → List String
  | [] => []
  | (name, value) :: fields =>
    (Text.quoted name ++ ": " ++ displayInner value) :: displayFields fields

end

/-- A value as it stands in running text: a string as it is. -/
def display : Json → String
  | str s => s
  | value => displayInner value

end Json

end ContractAudit
