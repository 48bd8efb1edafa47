import Shapewright.Proofs.Json.Reading
import Shapewright.Proofs.Ordered

/-!
# Keys of objects

Induction over JSON with a hypothesis for every item and every field. An object that is read holds
each key once, whatever the text repeats.
-/
namespace Shapewright.Json

@[elab_as_elim, induction_eliminator]
theorem inductOn {P : Json → Prop} (null : P .null) (boolean : ∀ b, P (.boolean b))
    (integer : ∀ n, P (.integer n)) (double : ∀ x, P (.double x)) (string : ∀ s, P (.string s))
    (array : ∀ items, (∀ item ∈ items, P item) → P (.array items))
    (object : ∀ fields, (∀ field ∈ fields, P field.2) → P (.object fields)) : ∀ node, P node
  | .null => null
  | .boolean b => boolean b
  | .integer n => integer n
  | .double x => double x
  | .string s => string s
  | .array items => array items fun item _ =>
      inductOn null boolean integer double string array object item
  | .object fields => object fields fun field _ =>
      inductOn null boolean integer double string array object field.2
decreasing_by
  · decreasing_tactic
  · next inside =>
    have field_lt := List.sizeOf_lt_of_mem inside
    obtain ⟨key, node⟩ := field
    simp only [Prod.mk.sizeOf_spec, Json.object.sizeOf_spec] at field_lt ⊢
    omega

inductive KeysOnce : Json → Prop
  | null : KeysOnce .null
  | boolean (b : Bool) : KeysOnce (.boolean b)
  | integer (n : Int) : KeysOnce (.integer n)
  | double (x : Binary64) : KeysOnce (.double x)
  | string (s : Text) : KeysOnce (.string s)
  | array {items : List Json} : (∀ item ∈ items, KeysOnce item) → KeysOnce (.array items)
  | object {fields : Entries Text Json} :
      fields.keys.Nodup → (∀ field ∈ fields, KeysOnce field.2) → KeysOnce (.object fields)

attribute [simp] KeysOnce.null KeysOnce.boolean KeysOnce.integer KeysOnce.double KeysOnce.string

@[simp] theorem keysOnce_array {items : List Json} :
    (Json.array items).KeysOnce ↔ ∀ item ∈ items, item.KeysOnce := by
  constructor
  · intro h
    cases h with
    | array inner => exact inner
  · exact .array

@[simp] theorem keysOnce_object {fields : Entries Text Json} :
    (Json.object fields).KeysOnce ↔ fields.keys.Nodup ∧ ∀ field ∈ fields, field.2.KeysOnce := by
  constructor
  · intro h
    cases h with
    | object nodup inner => exact ⟨nodup, inner⟩
  · rintro ⟨nodup, inner⟩
    exact .object nodup inner

theorem kept_keysOnce : Kept (fun _ => True) KeysOnce where
  text _ := trivial
  literal := by simp [literals]
  integer := .integer
  double := .double
  string _ := .string _
  array := .array
  object each := .object (Entries.keys_ofList_nodup _) fun field inside =>
    (each field (Entries.mem_ofList inside)).2

theorem read_keysOnce {text : String} {value : Json} (h : read text = .ok value) : value.KeysOnce :=
  kept_keysOnce.read h

end Shapewright.Json
