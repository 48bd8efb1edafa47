import Shapewright.Proofs.Plan.FirstServed
import Shapewright.Proofs.Plan.Plain

/-!
# Names that no type has

A name is given only where the candidates before it are taken, so one name more that is taken
matters only to the wish that would get it. When no type has that name, all types keep theirs; and
since the names of properties and fields depend on no other name than that of their type, these are
kept as well.
-/
namespace Shapewright.Registry

/-- A wish that does not get a name does not miss it. -/
theorem firstFree_of_unused {taken others : List String} {unused wish : String}
    (more : ∀ n, n ∈ others ↔ n = unused ∨ n ∈ taken)
    (free : firstFree otherwise taken wish ≠ unused) :
    firstFree otherwise others wish = firstFree otherwise taken wish := by
  obtain ⟨k, result, notTaken, before⟩ := firstFree_served taken wish
  have served : FirstServed wish (· ∈ others) (firstFree otherwise taken wish) := by
    refine ⟨k, result, fun again => ?_, fun j hj => (more _).mpr (.inr (before j hj))⟩
    exact ((more _).mp again).elim free notTaken
  exact (firstFree_served others wish).unique served

/-- Wishes are served alike when a name is forbidden that none of them would get. -/
theorem serve_of_unused {taken others : List String} {unused : String}
    (more : ∀ n, n ∈ others ↔ n = unused ∨ n ∈ taken) {wishes : List String}
    (free : unused ∉ serve taken wishes) :
    serve others wishes = serve taken wishes := by
  induction wishes generalizing taken others with
  | nil => rfl
  | cons wish wishes ih =>
    rw [serve, List.mem_cons, not_or] at free
    obtain ⟨apart, free⟩ := free
    have first := firstFree_of_unused more (Ne.symm apart)
    have next : ∀ n, n ∈ firstFree otherwise taken wish :: others ↔
        n = unused ∨ n ∈ firstFree otherwise taken wish :: taken := by
      intro n
      rw [List.mem_cons, List.mem_cons, more, or_left_comm]
    rw [serve, serve, first, ih next free]

end Shapewright.Registry

namespace Shapewright.Plan
open Registry Result

variable {p q : Plan} {g : Graph} {forbidden others : List String}

/-- No class and no generated union has the name. -/
def Unused (p : Plan) (name : String) : Prop :=
  (∀ c ∈ p.graph.classes, p.className c.ref ≠ .ok name) ∧ ∀ u ∈ p.unions, p.unionName u ≠ .ok name

/-- Plans of one graph with the same names for its types, their properties and their fields. -/
structure SameNames (p q : Plan) : Prop where
  graph : q.graph = p.graph
  unions : q.unions = p.unions
  className : ∀ c ∈ p.graph.classes, q.className c.ref = p.className c.ref
  unionName : ∀ u ∈ p.unions, q.unionName u = p.unionName u
  propertyName : ∀ c ∈ p.graph.classes, ∀ key, q.propertyName c.ref key = p.propertyName c.ref key
  fieldName : ∀ u ∈ p.unions, ∀ m, q.fieldName u m = p.fieldName u m

/-- The names that no type has are those that were not served. -/
theorem Settled.unused_iff (settled : Settled p g forbidden) (wf : g.WellFormed) {name : String} :
    p.Unused name ↔ name ∉ serve forbidden ((typesOf g).map (wishOfType g)) := by
  have types : p.Unused name ↔ ∀ t ∈ typesOf g, p.nameOfType t ≠ .ok name := by
    rw [Unused, settled.graph, settled.unions, typesOf, List.forall_mem_append, List.forall_mem_map,
      List.forall_mem_map]
    rfl
  have given : .ok name ∈ (typesOf g).map p.nameOfType ↔
      name ∈ serve forbidden ((typesOf g).map (wishOfType g)) := by
    rw [settled.types_served wf, List.mem_map_of_injective fun _ _ => Except.ok.inj]
  rw [types, ← given, List.mem_map, not_exists]
  simp only [not_and, ne_eq]

/-- Types with the same names have the same names for what they hold. -/
theorem Settled.sameNames (settled : Settled p g forbidden) (settled' : Settled q g others)
    (types : ∀ t ∈ typesOf g, q.nameOfType t = p.nameOfType t) : SameNames p q := by
  have typeNames : ∀ t ∈ typesOf g,
      typeName g others (keyOfType t) = typeName g forbidden (keyOfType t) := by
    intro t ht
    have same := types t ht
    rw [settled.nameOfType_eq ht, settled'.nameOfType_eq ht] at same
    exact Except.ok.inj same
  have classes : ∀ c ∈ p.graph.classes, c ∈ g.classes ∧ .inl c ∈ typesOf g := by
    intro c hc
    have here := settled.graph ▸ hc
    exact ⟨here, List.mem_append_left _ (List.mem_map_of_mem here)⟩
  have unions : ∀ u ∈ p.unions, u ∈ g.unions ∧ .inr u ∈ typesOf g := by
    intro u hu
    have here := settled.unions ▸ hu
    exact ⟨here, List.mem_append_right _ (List.mem_map_of_mem here)⟩
  refine ⟨settled'.graph.trans settled.graph.symm, settled'.unions.trans settled.unions.symm,
    fun c hc => types _ (classes c hc).2, fun u hu => types _ (unions u hu).2, fun c hc key => ?_,
    fun u hu m => ?_⟩
  · obtain ⟨here, type⟩ := classes c hc
    have name : typeName g others (.record c.ref) = typeName g forbidden (.record c.ref) :=
      typeNames _ type
    rw [Plan.propertyName, Plan.propertyName, find_of_scope? (settled.properties c here),
      find_of_scope? (settled'.properties c here), name]
  · obtain ⟨here, type⟩ := unions u hu
    have name : typeName g others (.union u) = typeName g forbidden (.union u) := typeNames _ type
    rw [Plan.fieldName, Plan.fieldName, find_of_scope? (settled.fields u here),
      find_of_scope? (settled'.fields u here), name]

/-- Forbidding a name that no type has leaves all names alone. -/
theorem Settled.sameNames_of_unused (settled : Settled p g forbidden)
    (settled' : Settled q g others) (wf : g.WellFormed) {name : String}
    (more : ∀ n, n ∈ others ↔ n = name ∨ n ∈ forbidden) (unused : p.Unused name) :
    SameNames p q := by
  refine settled.sameNames settled' (List.map_inj_left.mp ?_)
  rw [settled.types_served wf, settled'.types_served wf,
    serve_of_unused more ((settled.unused_iff wf).mp unused)]

namespace SameNames
variable (same : SameNames p q)
include same

/-- The names are all that a type expression is made of. -/
theorem typeText (wf : p.graph.WellFormed) (settledUnions : p.unions = p.graph.unions) {s : Shape}
    (h : s ∈ p.graph.shapes) : q.typeText s = p.typeText s := by
  induction s with
  | array items ih => rw [Plan.typeText, Plan.typeText, ih (Graph.items_mem h)]
  | map values ih => rw [Plan.typeText, Plan.typeText, ih (Graph.values_mem h)]
  | record ref =>
    obtain ⟨c, found⟩ := wf.exists_class h
    obtain ⟨hc, rfl⟩ := Graph.mem_classes_of_class? found
    rw [Plan.typeText, Plan.typeText, same.className c hc]
  | union members ih =>
    rw [Plan.typeText, Plan.typeText]
    split
    · rw [firstTypeText_congr fun m hm => ih m hm (Graph.member_mem h hm)]
    · next several => exact same.unionName _ (settledUnions ▸ Graph.mem_unions_of_several h several)
  | _ => rw [Plan.typeText, Plan.typeText]

end SameNames
end Shapewright.Plan
