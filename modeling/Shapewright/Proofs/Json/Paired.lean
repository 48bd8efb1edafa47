import Shapewright.Proofs.Json.Reading
import Shapewright.Proofs.Ordered
import Shapewright.Proofs.Text.Units

/-!
# Pairs in texts

A high half and a low half that are written next to each other are read as one character, so in
every text of a value that is read, two halves that make a pair never stand apart.
-/
namespace Shapewright.Json
open Result

/-- In no text of the value two halves that make a pair stand apart. -/
inductive Paired : Json → Prop
  | null : Paired .null
  | boolean (b : Bool) : Paired (.boolean b)
  | integer (n : Int) : Paired (.integer n)
  | double (x : Binary64) : Paired (.double x)
  | string {s : Text} : s.IsPaired → Paired (.string s)
  | array {items : List Json} : (∀ item ∈ items, Paired item) → Paired (.array items)
  | object {fields : Entries Text Json} :
      (∀ field ∈ fields, field.1.IsPaired) → (∀ field ∈ fields, Paired field.2) →
        Paired (.object fields)

attribute [simp] Paired.null Paired.boolean Paired.integer Paired.double

@[simp] theorem paired_string {s : Text} : (Json.string s).Paired ↔ s.IsPaired := by
  constructor
  · intro h
    cases h with
    | string paired => exact paired
  · exact .string

@[simp] theorem paired_array {items : List Json} :
    (Json.array items).Paired ↔ ∀ item ∈ items, item.Paired := by
  constructor
  · intro h
    cases h with
    | array inner => exact inner
  · exact .array

end Shapewright.Json
