import Shapewright.Proofs.Shape.Canonical

/-!
# Shapes inside shapes

Induction over shapes with a hypothesis for every member of a union, and the walk as the set of
shapes inside a shape: it holds the shape itself, and with each shape everything inside that one.
-/
namespace Shapewright.Shape

@[elab_as_elim, induction_eliminator]
theorem inductOn {P : Shape → Prop} (nothing : P .nothing) (null : P .null) (boolean : P .boolean)
    (integer : P .integer) (double : P .double) (string : P .string)
    (array : ∀ items, P items → P (.array items)) (map : ∀ values, P values → P (.map values))
    (record : ∀ ref, P (.record ref))
    (union : ∀ members, (∀ m ∈ members, P m) → P (.union members)) : ∀ s, P s
  | .nothing => nothing
  | .null => null
  | .boolean => boolean
  | .integer => integer
  | .double => double
  | .string => string
  | .array items => array items
      (inductOn nothing null boolean integer double string array map record union items)
  | .map values => map values
      (inductOn nothing null boolean integer double string array map record union values)
  | .record ref => record ref
  | .union members => union members fun m _ =>
      inductOn nothing null boolean integer double string array map record union m

@[simp] theorem mem_walkAll {x : Shape} {ms : List Shape} :
    x ∈ walkAll ms ↔ ∃ m ∈ ms, x ∈ m.walk := by
  induction ms with
  | nil => simp [walkAll]
  | cons m ms ih => simp [walkAll, ih]

theorem mem_walk_array {x items : Shape} :
    x ∈ (array items).walk ↔ x = array items ∨ x ∈ items.walk := by
  simp [walk]

theorem mem_walk_map {x values : Shape} :
    x ∈ (map values).walk ↔ x = map values ∨ x ∈ values.walk := by
  simp [walk]

theorem mem_walk_union {x : Shape} {members : List Shape} :
    x ∈ (union members).walk ↔ x = union members ∨ ∃ m ∈ members, x ∈ m.walk := by
  simp [walk]

theorem mem_walk_self (s : Shape) : s ∈ s.walk := by
  cases s <;> simp [walk]

theorem mem_walk_trans {s x y : Shape} (hx : x ∈ s.walk) (hy : y ∈ x.walk) : y ∈ s.walk := by
  induction s with
  | array items ih =>
    rcases mem_walk_array.mp hx with rfl | hx
    · exact hy
    · exact mem_walk_array.mpr (.inr (ih hx))
  | map values ih =>
    rcases mem_walk_map.mp hx with rfl | hx
    · exact hy
    · exact mem_walk_map.mpr (.inr (ih hx))
  | union members ih =>
    rcases mem_walk_union.mp hx with rfl | ⟨m, hm, hx⟩
    · exact hy
    · exact mem_walk_union.mpr (.inr ⟨m, hm, ih m hm hx⟩)
  | _ =>
    obtain rfl := List.mem_singleton.mp hx
    exact hy

theorem canonical_of_mem_walk {s x : Shape} (h : s.Canonical) (hx : x ∈ s.walk) : x.Canonical := by
  induction s with
  | array items ih =>
    rcases mem_walk_array.mp hx with rfl | hx
    · exact h
    · exact ih h hx
  | map values ih =>
    rcases mem_walk_map.mp hx with rfl | hx
    · exact h
    · exact ih h hx
  | union members ih =>
    rcases mem_walk_union.mp hx with rfl | ⟨m, hm, hx⟩
    · exact h
    · exact ih m hm (allCanonical_iff.mp h.2.2.2 m hm) hx
  | _ =>
    obtain rfl := List.mem_singleton.mp hx
    exact h

end Shapewright.Shape
