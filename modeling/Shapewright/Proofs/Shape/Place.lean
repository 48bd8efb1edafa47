import Shapewright.Proofs.Shape.Graph

/-!
# Places in a graph

A place says where a shape stands: at the top level or under a key of some class, and then the way
inside. Places come in the order of the walk, a shape before what is inside it, classes as they are
declared, properties by their keys and members as `precedes` says. The generated unions of a graph
are listed by their first places.
-/
namespace Shapewright

namespace Shape

/-- One step into a shape. A member of a union is told by itself. -/
inductive Step where
  | items
  | values
  | member (m : Shape)

/-- A way into a shape, from the outside in. -/
abbrev Path := List Step

/-- The path ends at that shape. -/
inductive Reaches : Shape → Path → Shape → Prop
  | here (s : Shape) : Reaches s [] s
  | items {items x : Shape} {path : Path} :
      Reaches items path x → Reaches (array items) (.items :: path) x
  | values {values x : Shape} {path : Path} :
      Reaches values path x → Reaches (map values) (.values :: path) x
  | member {members : List Shape} {m x : Shape} {path : Path} : m ∈ members → Reaches m path x →
      Reaches (union members) (.member m :: path) x

/-- The order of the walk: a shape comes before what is inside it, and a member with all
its inside before the next. -/
inductive Path.Before : Path → Path → Prop
  | inside {step : Step} {path : Path} : Before [] (step :: path)
  | apart {a b : Shape} {p q : Path} : a.precedes b → Before (.member a :: p) (.member b :: q)
  | deeper {step : Step} {p q : Path} : Before p q → Before (step :: p) (step :: q)

theorem Path.Before.asymm {p q : Path} (h : Before p q) : ¬ Before q p := by
  induction h with
  | inside => exact nofun
  | apart before =>
    intro back
    cases back with
    | apart after => exact precedes_irrefl _ (precedes_trans before after)
    | deeper _ => exact precedes_irrefl _ before
  | deeper _ ih =>
    intro back
    cases back with
    | apart itself => exact precedes_irrefl _ itself
    | deeper back => exact ih back

/-- The same shapes one step further in. -/
def under (step : Step) (places : List (Path × Shape)) : List (Path × Shape) :=
  places.map fun e => (step :: e.1, e.2)

mutual
/-- The walk, with the path to each shape. -/
def places : Shape → List (Path × Shape)
  | .array items => ([], .array items) :: under .items items.places
  | .map values => ([], .map values) :: under .values values.places
  | .union members => ([], .union members) :: placesAll members
  | s => [([], s)]

def placesAll : List Shape → List (Path × Shape)
  | [] => []
  | m :: ms => under (.member m) m.places ++ placesAll ms
end

section
variable {s x m : Shape} {members : List Shape} {step : Step} {path : Path}
  {es : List (Path × Shape)}

theorem placesAll_eq (members : List Shape) :
    placesAll members = members.flatMap fun m => under (.member m) m.places := by
  induction members with
  | nil => rfl
  | cons m ms ih => rw [placesAll, ih, List.flatMap_cons]

theorem walkAll_eq (members : List Shape) : walkAll members = members.flatMap walk := by
  induction members with
  | nil => rfl
  | cons m ms ih => rw [walkAll, ih, List.flatMap_cons]

@[simp] theorem map_snd_under (step : Step) (es : List (Path × Shape)) :
    (under step es).map (·.2) = es.map (·.2) := by
  simp [under]

theorem mem_under : (path, x) ∈ under step es ↔ ∃ rest, path = step :: rest ∧ (rest, x) ∈ es := by
  simp only [under, List.mem_map, Prod.mk.injEq, Prod.exists]
  constructor
  · rintro ⟨rest, y, inside, rfl, rfl⟩
    exact ⟨rest, rfl, inside⟩
  · rintro ⟨rest, rfl, inside⟩
    exact ⟨rest, x, inside, rfl, rfl⟩

theorem map_snd_places (s : Shape) : s.places.map (·.2) = s.walk := by
  induction s with
  | array items ih => simp [places, walk, ih]
  | map values ih => simp [places, walk, ih]
  | union members ih =>
    simp only [places, walk, placesAll_eq, walkAll_eq, List.map_cons, List.map_flatMap,
      map_snd_under]
    exact congrArg _ (List.flatMap_congr ih)
  | _ => rfl

/-- Either the shape itself is meant or something inside it. -/
theorem reaches_of_mem (h : (path, x) ∈ ([], s) :: es)
    (inside : (path, x) ∈ es → s.Reaches path x) :
    s.Reaches path x := by
  rcases List.mem_cons.mp h with same | h
  · obtain ⟨rfl, rfl⟩ := Prod.mk.inj same
    exact .here x
  · exact inside h

theorem mem_places : (path, x) ∈ s.places ↔ s.Reaches path x := by
  constructor
  · intro h
    induction s generalizing path with
    | array items ih =>
      refine reaches_of_mem h fun inside => ?_
      obtain ⟨rest, rfl, deeper⟩ := mem_under.mp inside
      exact .items (ih deeper)
    | map values ih =>
      refine reaches_of_mem h fun inside => ?_
      obtain ⟨rest, rfl, deeper⟩ := mem_under.mp inside
      exact .values (ih deeper)
    | union members ih =>
      refine reaches_of_mem h fun inside => ?_
      rw [placesAll_eq] at inside
      obtain ⟨m, hm, inside⟩ := List.mem_flatMap.mp inside
      obtain ⟨rest, rfl, deeper⟩ := mem_under.mp inside
      exact .member hm (ih m hm deeper)
    | _ => exact reaches_of_mem h nofun
  · intro h
    induction h with
    | here s => cases s <;> exact List.mem_cons_self
    | items _ ih => exact List.mem_cons_of_mem _ (mem_under.mpr ⟨_, rfl, ih⟩)
    | values _ ih => exact List.mem_cons_of_mem _ (mem_under.mpr ⟨_, rfl, ih⟩)
    | member hm _ ih =>
      rw [places, placesAll_eq]
      exact List.mem_cons_of_mem _ (List.mem_flatMap.mpr ⟨_, hm, mem_under.mpr ⟨_, rfl, ih⟩⟩)

theorem under_pairwise (step : Step) (h : es.Pairwise fun e f => Path.Before e.1 f.1) :
    (under step es).Pairwise fun e f => Path.Before e.1 f.1 :=
  List.pairwise_map.mpr (h.imp fun before => .deeper before)

theorem outermost_pairwise (h : (under step es).Pairwise fun e f => Path.Before e.1 f.1) :
    (([], s) :: under step es).Pairwise fun e f => Path.Before e.1 f.1 := by
  refine List.pairwise_cons.mpr ⟨fun e inside => ?_, h⟩
  obtain ⟨rest, front, -⟩ := mem_under.mp inside
  rw [front]
  exact .inside

/-- The walk of a canonical shape goes through its places in order. -/
theorem places_pairwise (h : s.Canonical) : s.places.Pairwise fun e f => Path.Before e.1 f.1 := by
  induction s with
  | array items ih => exact outermost_pairwise (under_pairwise .items (ih h))
  | map values ih => exact outermost_pairwise (under_pairwise .values (ih h))
  | union members ih =>
    obtain ⟨-, ordered, -, all⟩ := h
    rw [places, placesAll_eq]
    refine List.pairwise_cons.mpr ⟨fun e inside => ?_,
      List.pairwise_flatMap.mpr ⟨fun m hm => ?_, ?_⟩⟩
    · obtain ⟨m, -, inside⟩ := List.mem_flatMap.mp inside
      obtain ⟨rest, front, -⟩ := mem_under.mp inside
      rw [front]
      exact .inside
    · exact under_pairwise _ (ih m hm (allCanonical_iff.mp all m hm))
    · refine ordered.imp fun before e he f hf => ?_
      obtain ⟨p, first, -⟩ := mem_under.mp he
      obtain ⟨q, second, -⟩ := mem_under.mp hf
      rw [first, second]
      exact .apart before
  | _ => exact List.pairwise_singleton _ _

end
end Shape

namespace Graph

/-- Where a walk into a shape begins: at the top level, or at the key of a class in
the order of declaration. -/
inductive Root where
  | topLevel
  | property (position : Nat) (key : Text)

structure Place where
  root : Root
  path : Shape.Path

/-- The top level comes first, then the classes as they are declared, each with its
keys in the order of text. -/
inductive Root.Before : Root → Root → Prop
  | topLevel {i : Nat} {key : Text} : Before .topLevel (.property i key)
  | earlier {i j : Nat} {key other : Text} : i < j → Before (.property i key) (.property j other)
  | key {i : Nat} {key other : Text} : key < other → Before (.property i key) (.property i other)

inductive Place.Before : Place → Place → Prop
  | roots {r s : Root} {p q : Shape.Path} : r.Before s → Before ⟨r, p⟩ ⟨s, q⟩
  | paths {r : Root} {p q : Shape.Path} : p.Before q → Before ⟨r, p⟩ ⟨r, q⟩

/-- The shape stands at that place of the graph. -/
inductive Holds (g : Graph) : Place → Shape → Prop
  | topLevel {path : Shape.Path} {x : Shape} :
      g.topLevel.Reaches path x → Holds g ⟨.topLevel, path⟩ x
  | property {i : Nat} {c : RecordClass} {e : Text × Shape} {path : Shape.Path} {x : Shape} :
      g.classes[i]? = some c → e ∈ c.properties → e.2.Reaches path x →
        Holds g ⟨.property i e.1, path⟩ x

/-- What holds of every graph however it is built: unions are sets of several flat members, and a
class has each key once and in order. -/
structure Orderly (g : Graph) : Prop where
  topLevel : g.topLevel.Canonical
  properties : ∀ c ∈ g.classes, ∀ e ∈ c.properties, e.2.Canonical
  keys : ∀ c ∈ g.classes, c.properties.keys.Pairwise (· < ·)

/-- A shape stands there, and nowhere before. -/
def IsFirst (g : Graph) (x : Shape) (place : Place) : Prop :=
  g.Holds place x ∧ ∀ other, g.Holds other x → other = place ∨ place.Before other

theorem Root.Before.asymm {r s : Root} (h : r.Before s) : ¬ s.Before r := by
  intro back
  cases h with
  | topLevel => cases back
  | earlier less =>
    cases back with
    | earlier more => exact Nat.lt_asymm less more
    | key _ => exact Nat.lt_irrefl _ less
  | key less =>
    cases back with
    | earlier more => exact Nat.lt_irrefl _ more
    | key more => exact Text.lt_asymm less more

theorem Place.Before.asymm {p q : Place} (h : p.Before q) : ¬ q.Before p := by
  intro back
  cases h with
  | roots before =>
    cases back with
    | roots after => exact before.asymm after
    | paths _ => exact before.asymm before
  | paths before =>
    cases back with
    | roots after => exact after.asymm after
    | paths after => exact before.asymm after

/-- Places inside one shape, seen from the whole graph. -/
def rooted (root : Root) (es : List (Shape.Path × Shape)) : List (Place × Shape) :=
  es.map fun e => (⟨root, e.1⟩, e.2)

/-- The walk through the graph, with the place of each shape. -/
def places (g : Graph) : List (Place × Shape) :=
  rooted .topLevel g.topLevel.places ++ g.classes.zipIdx.flatMap fun c =>
    c.1.properties.flatMap fun e => rooted (.property c.2 e.1) e.2.places

section
variable {g : Graph} {place : Place} {x : Shape} {root : Root} {es : List (Shape.Path × Shape)}

theorem map_snd_rooted (root : Root) (es : List (Shape.Path × Shape)) :
    (rooted root es).map (·.2) = es.map (·.2) := by
  simp [rooted]

theorem mem_rooted : (place, x) ∈ rooted root es ↔ place.root = root ∧ (place.path, x) ∈ es := by
  simp only [rooted, List.mem_map, Prod.mk.injEq, Prod.exists]
  constructor
  · rintro ⟨path, y, inside, rfl, rfl⟩
    exact ⟨rfl, inside⟩
  · rintro ⟨rfl, inside⟩
    exact ⟨place.path, x, inside, rfl, rfl⟩

theorem map_snd_places (g : Graph) : g.places.map (·.2) = g.shapes := by
  have classes : (g.classes.zipIdx.flatMap fun c => c.1.properties.flatMap fun e => e.2.walk) =
      g.classes.flatMap fun c => c.properties.flatMap fun e => e.2.walk := by
    rw [← List.flatMap_map (f := Prod.fst)
      (g := fun c : RecordClass => c.properties.flatMap fun e => e.2.walk),
      List.zipIdx_map_fst]
  simp only [places, shapes, List.map_append, List.map_flatMap, map_snd_rooted,
    Shape.map_snd_places, classes]

theorem mem_places : (place, x) ∈ g.places ↔ g.Holds place x := by
  simp only [places, List.mem_append, List.mem_flatMap, mem_rooted, Shape.mem_places,
    List.mem_zipIdx_iff_getElem?]
  constructor
  · rintro (⟨root, reaches⟩ | ⟨⟨c, i⟩, declared, e, inside, root, reaches⟩)
    · obtain ⟨_, path⟩ := place
      cases root
      exact .topLevel reaches
    · obtain ⟨_, path⟩ := place
      cases root
      exact .property declared inside reaches
  · intro h
    cases h with
    | topLevel reaches => exact .inl ⟨rfl, reaches⟩
    | property declared inside reaches => exact .inr ⟨(_, _), declared, _, inside, rfl, reaches⟩

theorem rooted_pairwise (root : Root) (h : es.Pairwise fun e f => e.1.Before f.1) :
    (rooted root es).Pairwise fun e f => e.1.Before f.1 :=
  List.pairwise_map.mpr (h.imp fun before => .paths before)

theorem rooted_apart {r s : Root} {fs : List (Shape.Path × Shape)} (before : r.Before s) :
    ∀ e ∈ rooted r es, ∀ f ∈ rooted s fs, e.1.Before f.1 := by
  rintro ⟨⟨_, p⟩, x⟩ he ⟨⟨_, q⟩, y⟩ hf
  obtain ⟨rfl, -⟩ := mem_rooted.mp he
  obtain ⟨rfl, -⟩ := mem_rooted.mp hf
  exact .roots before

theorem places_pairwise (orderly : g.Orderly) : g.places.Pairwise fun e f => e.1.Before f.1 := by
  have classes : g.classes.zipIdx.Pairwise fun c d => c.2 < d.2 := by
    rw [← List.pairwise_map, List.zipIdx_map_snd]
    exact List.pairwise_lt_range'
  have declared {c : RecordClass × Nat} (inside : c ∈ g.classes.zipIdx) : c.1 ∈ g.classes :=
    List.mem_of_getElem? (List.mem_zipIdx_iff_getElem?.mp inside)
  refine List.pairwise_append.mpr ⟨rooted_pairwise _ (Shape.places_pairwise orderly.topLevel), ?_,
    ?_⟩
  · refine List.pairwise_flatMap.mpr ⟨fun c hc => List.pairwise_flatMap.mpr ⟨fun e he => ?_, ?_⟩,
      ?_⟩
    · exact rooted_pairwise _ (Shape.places_pairwise (orderly.properties c.1 (declared hc) e he))
    · have keys := List.pairwise_map.mp (orderly.keys c.1 (declared hc))
      exact keys.imp fun less => rooted_apart (.key less)
    · refine classes.imp fun less e he f hf => ?_
      obtain ⟨d, -, he⟩ := List.mem_flatMap.mp he
      obtain ⟨b, -, hf⟩ := List.mem_flatMap.mp hf
      exact rooted_apart (.earlier less) e he f hf
  · intro e he f hf
    obtain ⟨c, -, hf⟩ := List.mem_flatMap.mp hf
    obtain ⟨b, -, hf⟩ := List.mem_flatMap.mp hf
    exact rooted_apart .topLevel e he f hf

end
end Graph
end Shapewright
