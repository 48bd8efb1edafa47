import Mathlib.Data.List.Nodup
import Shapewright.Proofs.Ordered
import Shapewright.Proofs.Shape.Walk
import Shapewright.Shape.Graph

/-!
# Well-formed graphs

Three facts carry everything that is said of a graph later: references are unique, all of them
resolve, and every shape is canonical. The shapes of a graph are closed under going inside.
-/
namespace Shapewright

/-- What every graph that comes from a document satisfies. -/
structure Graph.WellFormed (g : Graph) : Prop where
  refs_nodup : (g.classes.map (·.ref)).Nodup
  resolved : g.danglingRefs = []
  canonical : ∀ s ∈ g.shapes, s.Canonical

namespace RecordClass

theorem key_le_total (a b : Text × Shape) : a.1.le b.1 ∨ b.1.le a.1 := Text.le_total a.1 b.1

theorem key_le_trans {a b c : Text × Shape} (h : a.1.le b.1) (k : b.1.le c.1) : a.1.le c.1 :=
  Text.le_trans h k

theorem new_sorted (ref : Text) (names : List Text) (properties : Entries Text Shape) :
    (new ref names properties).properties.Pairwise fun a b => a.1.le b.1 :=
  Ordered.sort_pairwise key_le_total key_le_trans properties

/-- The order in which properties under distinct keys came is lost. -/
theorem new_properties_eq {properties others : Entries Text Shape} (perm : properties.Perm others)
    (once : properties.keys.Nodup) (ref : Text) (names otherNames : List Text) :
    (new ref names properties).properties = (new ref otherNames others).properties := by
  refine Ordered.sort_eq_of_perm key_le_total key_le_trans perm fun a ha b hb before after => ?_
  have key : a.1 = b.1 := Text.eq_of_not_lt (Text.le_iff.mp after) (Text.le_iff.mp before)
  exact List.inj_on_of_nodup_map once ha hb key

end RecordClass

namespace Graph

theorem mem_new_classes {classes : List RecordClass} {root : Shape} {c : RecordClass}
    (h : c ∈ (new classes root).classes) : c ∈ classes := by
  obtain ⟨e, he, rfl⟩ := List.mem_map.mp h
  obtain ⟨d, hd, rfl⟩ := List.mem_map.mp (Entries.mem_ofList he)
  exact hd

theorem new_refs_nodup (classes : List RecordClass) (root : Shape) :
    ((new classes root).classes.map (·.ref)).Nodup := by
  have keys : (new classes root).classes.map (·.ref) =
      (Entries.ofList (classes.map fun c => (c.ref, c))).keys := by
    rw [new, List.map_map, Entries.keys]
    refine List.map_congr_left fun e he => ?_
    obtain ⟨c, -, rfl⟩ := List.mem_map.mp (Entries.mem_ofList he)
    rfl
  rw [keys]
  exact Entries.keys_ofList_nodup _

/-- Classes under references of their own are kept as they are. -/
theorem new_eq {classes : List RecordClass} (once : (classes.map (·.ref)).Nodup) (root : Shape) :
    new classes root = ⟨classes, root⟩ := by
  have keys : (Entries.keys (classes.map fun c => (c.ref, c))).Nodup := by
    simpa [Entries.keys, Function.comp_def] using once
  simp [new, Entries.ofList_of_nodup keys, Function.comp_def]

theorem class?_isSome {g : Graph} {ref : Text} :
    (g.class? ref).isSome ↔ ref ∈ g.classes.map (·.ref) := by
  simp [class?, List.find?_isSome]

theorem danglingRefs_eq_nil {g : Graph} :
    g.danglingRefs = [] ↔ ∀ ref, .record ref ∈ g.shapes → ref ∈ g.classes.map (·.ref) := by
  rw [danglingRefs, List.filterMap_eq_nil_iff]
  constructor
  · intro resolved ref inside
    have answered := resolved _ inside
    rw [← class?_isSome]
    cases found : g.class? ref with
    | none => simp [found] at answered
    | some c => rfl
  · intro resolved s inside
    cases s with
    | record ref => simp [class?_isSome.mpr (resolved ref inside)]
    | _ => rfl

theorem mem_shapes {g : Graph} {s : Shape} :
    s ∈ g.shapes ↔ s ∈ g.topLevel.walk ∨ ∃ c ∈ g.classes, ∃ p ∈ c.properties, s ∈ p.2.walk := by
  simp only [shapes, List.mem_append, List.mem_flatMap]

theorem mem_shapes_of_walk {g : Graph} {s x : Shape} (h : s ∈ g.shapes) (hx : x ∈ s.walk) :
    x ∈ g.shapes := by
  rcases mem_shapes.mp h with h | ⟨c, hc, p, hp, h⟩
  · exact mem_shapes.mpr (.inl (Shape.mem_walk_trans h hx))
  · exact mem_shapes.mpr (.inr ⟨c, hc, p, hp, Shape.mem_walk_trans h hx⟩)

theorem topLevel_mem (g : Graph) : g.topLevel ∈ g.shapes :=
  mem_shapes.mpr (.inl (Shape.mem_walk_self _))

theorem property_mem {g : Graph} {c : RecordClass} {p : Text × Shape} (hc : c ∈ g.classes)
    (hp : p ∈ c.properties) : p.2 ∈ g.shapes :=
  mem_shapes.mpr (.inr ⟨c, hc, p, hp, Shape.mem_walk_self _⟩)

theorem items_mem {g : Graph} {items : Shape} (h : .array items ∈ g.shapes) : items ∈ g.shapes :=
  mem_shapes_of_walk h (Shape.mem_walk_array.mpr (.inr (Shape.mem_walk_self _)))

theorem values_mem {g : Graph} {values : Shape} (h : .map values ∈ g.shapes) : values ∈ g.shapes :=
  mem_shapes_of_walk h (Shape.mem_walk_map.mpr (.inr (Shape.mem_walk_self _)))

theorem member_mem {g : Graph} {members : List Shape} {m : Shape} (h : .union members ∈ g.shapes)
    (hm : m ∈ members) : m ∈ g.shapes :=
  mem_shapes_of_walk h (Shape.mem_walk_union.mpr (.inr ⟨m, hm, Shape.mem_walk_self _⟩))

theorem mem_unions {g : Graph} {u : Shape} : u ∈ g.unions ↔ u ∈ g.shapes ∧ u.isGenerated := by
  simp [unions]

/-- A union that is not only nullable is generated. -/
theorem mem_unions_of_several {g : Graph} {members : List Shape} (h : .union members ∈ g.shapes)
    (several : ¬ (Shape.nullableOf? members).isSome) : .union members ∈ g.unions :=
  mem_unions.mpr ⟨h, by simpa [Shape.isGenerated] using several⟩

theorem unions_nodup (g : Graph) : g.unions.Nodup := Ordered.firstSeen_nodup _

/-- The shape stands somewhere in the graph, at whatever depth. -/
inductive Occurs (g : Graph) : Shape → Prop
  | topLevel : Occurs g g.topLevel
  | property {c : RecordClass} {e : Text × Shape} : c ∈ g.classes → e ∈ c.properties → Occurs g e.2
  | items {items : Shape} : Occurs g (.array items) → Occurs g items
  | values {values : Shape} : Occurs g (.map values) → Occurs g values
  | member {members : List Shape} {m : Shape} : Occurs g (.union members) → m ∈ members → Occurs g m

theorem occurs_of_walk {g : Graph} {s x : Shape} (h : g.Occurs s) (hx : x ∈ s.walk) :
    g.Occurs x := by
  induction s with
  | array items ih =>
    rcases Shape.mem_walk_array.mp hx with rfl | hx
    · exact h
    · exact ih h.items hx
  | map values ih =>
    rcases Shape.mem_walk_map.mp hx with rfl | hx
    · exact h
    · exact ih h.values hx
  | union members ih =>
    rcases Shape.mem_walk_union.mp hx with rfl | ⟨m, hm, hx⟩
    · exact h
    · exact ih m hm (h.member hm) hx
  | _ =>
    obtain rfl := List.mem_singleton.mp hx
    exact h

theorem mem_shapes_iff_occurs {g : Graph} {s : Shape} : s ∈ g.shapes ↔ g.Occurs s := by
  constructor
  · intro h
    rcases mem_shapes.mp h with h | ⟨c, hc, e, he, h⟩
    · exact occurs_of_walk .topLevel h
    · exact occurs_of_walk (.property hc he) h
  · intro h
    induction h with
    | topLevel => exact topLevel_mem g
    | property hc he => exact property_mem hc he
    | items _ ih => exact items_mem ih
    | values _ ih => exact values_mem ih
    | member _ hm ih => exact member_mem ih hm

/-- The unions of the graph that get a type, each once and in the order of their first
occurrences. -/
structure UnionsInOrder (g : Graph) (us : List Shape) : Prop where
  mem : ∀ u, u ∈ us ↔ g.Occurs u ∧ u.isGenerated
  nodup : us.Nodup
  order : us.Pairwise fun u v => g.shapes.idxOf u < g.shapes.idxOf v

theorem unions_inOrder (g : Graph) : g.UnionsInOrder g.unions where
  mem u := by rw [mem_unions, mem_shapes_iff_occurs]
  nodup := g.unions_nodup
  order := Ordered.firstSeen_filter_pairwise Shape.isGenerated g.shapes

/-- A generated union is given by its members. -/
theorem exists_members {g : Graph} {u : Shape} (h : u ∈ g.unions) :
    ∃ members, u = .union members := by
  have generated := (mem_unions.mp h).2
  cases u with
  | union members => exact ⟨members, rfl⟩
  | _ => simp [Shape.isGenerated] at generated

theorem mem_classes_of_class? {g : Graph} {ref : Text} {c : RecordClass}
    (h : g.class? ref = some c) :
    c ∈ g.classes ∧ c.ref = ref :=
  ⟨List.mem_of_find?_eq_some h, by simpa using List.find?_some h⟩

theorem WellFormed.class?_ref {g : Graph} (wf : g.WellFormed) {c : RecordClass}
    (hc : c ∈ g.classes) :
    g.class? c.ref = some c := by
  obtain ⟨d, found⟩ := Option.isSome_iff_exists.mp (class?_isSome.mpr (List.mem_map_of_mem hc))
  obtain ⟨hd, same⟩ := mem_classes_of_class? found
  rw [found, List.inj_on_of_nodup_map wf.refs_nodup hd hc same]

/-- Every reference leads to a class. -/
theorem WellFormed.exists_class {g : Graph} (wf : g.WellFormed) {ref : Text}
    (h : .record ref ∈ g.shapes) : ∃ c, g.class? ref = some c := by
  have resolved := List.filterMap_eq_nil_iff.mp wf.resolved _ h
  cases found : g.class? ref with
  | none => simp [found] at resolved
  | some c => exact ⟨c, rfl⟩

end Graph
end Shapewright
