import ContractAudit.Proofs.Json.Values

/-!
# The texts of a value

How a value is laid out does not depend on what its texts are made of.  So a value whose texts are
characters only is printed as the value with strings in their places is, and it can be printed if that
one can.

* `map` -- a value with its texts replaced;
* `printAt_map` -- a value is printed as its replacement is, if their texts are spelled the same;
* `isWritable_map` -- and its numbers can be written if those of the replacement can;
* `writeSigns_map_ofString` -- signs that are characters only, and strings;
* `itemsWritable_eq_all`, `fieldsWritable_eq_all` -- which numbers an array and an object have.
-/

namespace ContractAudit.Json

open ContractAudit.Text

section Texts

variable {σ τ : Type}

mutual

/-- The value with its texts replaced. -/
def map (f : σ → τ) : Json σ → Json τ
  | null => null
  | bool b => bool b
  | int n => int n
  | real x => real x
  | str s => str (f s)
  | arr items => arr (mapItems f items)
  | obj fields => obj (mapFields f fields)

/-- The items with their texts replaced. -/
def mapItems (f : σ → τ) : List (Json σ) → List (Json τ)
  | [] => []
  | item :: items => map f item :: mapItems f items

/-- The fields with their texts replaced. -/
def mapFields (f : σ → τ) : List (String × Json σ) → List (String × Json τ)
  | [] => []
  | (name, value) :: fields => (name, map f value) :: mapFields f fields

end

theorem mapItems_eq_map (f : σ → τ) (items : List (Json σ)) :
    mapItems f items = items.map (map f) := by
  induction items with
  | nil => rfl
  | cons item items ih => rw [mapItems, ih, List.map_cons]

/-! ### In print -/

section Spelling

variable {f : σ → τ} {spell : σ → Text} {spell' : τ → Text}

mutual

/-- **The layout of a value does not depend on its texts.** -/
theorem printAt_map (h : ∀ s, spell' (f s) = spell s) (level : Nat) :
    ∀ value : Json σ, printAt spell' level (map f value) = printAt spell level value
  | null => rfl
  | bool true => rfl
  | bool false => rfl
  | int _ => rfl
  | real _ => rfl
  | str s => h s
  | arr [] => rfl
  | arr (item :: items) => by
    rw [map, mapItems, printAt, printAt, printAt_map h, printItems_map h]
  | obj [] => rfl
  | obj ((name, value) :: fields) => by
    rw [map, mapFields, printAt, printAt, printAt_map h, printFields_map h]

theorem printItems_map (h : ∀ s, spell' (f s) = spell s) (level : Nat) :
    ∀ items : List (Json σ), printItems spell' level (mapItems f items) = printItems spell level items
  | [] => rfl
  | item :: items => by
    rw [mapItems, printItems, printItems, printAt_map h, printItems_map h]

theorem printFields_map (h : ∀ s, spell' (f s) = spell s) (level : Nat) :
    ∀ fields : List (String × Json σ),
      printFields spell' level (mapFields f fields) = printFields spell level fields
  | [] => rfl
  | (name, value) :: fields => by
    rw [mapFields, printFields, printFields, printAt_map h, printFields_map h]

end

end Spelling

/-! ### Numbers that can be written -/

@[simp]
theorem itemsWritable_eq_all (items : List (Json σ)) :
    itemsWritable items = items.all isWritable := by
  induction items with
  | nil => rfl
  | cons item items ih => rw [itemsWritable, ih, List.all_cons]

@[simp]
theorem fieldsWritable_eq_all (fields : List (String × Json σ)) :
    fieldsWritable fields = fields.all fun field => field.2.isWritable := by
  induction fields with
  | nil => rfl
  | cons field fields ih => rw [fieldsWritable, ih, List.all_cons]

mutual

theorem isWritable_map (f : σ → τ) : ∀ value : Json σ, (map f value).isWritable = value.isWritable
  | null => rfl
  | bool _ => rfl
  | int _ => rfl
  | real _ => rfl
  | str _ => rfl
  | arr items => by rw [map, isWritable, isWritable, itemsWritable_map f items]
  | obj fields => by rw [map, isWritable, isWritable, fieldsWritable_map f fields]

theorem itemsWritable_map (f : σ → τ) :
    ∀ items : List (Json σ), itemsWritable (mapItems f items) = itemsWritable items
  | [] => rfl
  | item :: items => by
    rw [mapItems, itemsWritable, itemsWritable, isWritable_map f item, itemsWritable_map f items]

theorem fieldsWritable_map (f : σ → τ) :
    ∀ fields : List (String × Json σ), fieldsWritable (mapFields f fields) = fieldsWritable fields
  | [] => rfl
  | (name, value) :: fields => by
    rw [mapFields, fieldsWritable, fieldsWritable, isWritable_map f value,
      fieldsWritable_map f fields]

end

end Texts

/-! ### Signs that are characters only -/

theorem printSigns_ofString (s : String) : printSigns (.ofString s) = printString s := by
  rw [printSigns, printString, Signs.ofString, Signs.ofText, List.flatMap_map]
  rfl

/-- **Signs that are characters only are printed as strings are.** -/
theorem writeSigns_map_ofString (value : Json) :
    (value.map Signs.ofString).writeSigns = value.write := by
  rw [writeSigns, writeWith, isWritable_map, printAt_map printSigns_ofString]
  rfl

end ContractAudit.Json
