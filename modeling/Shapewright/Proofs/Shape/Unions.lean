import Shapewright.Proofs.Shape.Place

/-!
# The list of generated unions

Exactly the unions that stand somewhere in a graph and do more than add null to one shape are
listed, each once and in the order of their first places.
-/
namespace Shapewright

theorem RecordClass.new_increasing (ref : Text) (names : List Text)
    {properties : Entries Text Shape} (once : properties.keys.Nodup) :
    (new ref names properties).properties.keys.Pairwise (· < ·) := by
  have sorted : (new ref names properties).properties.keys.Pairwise fun a b => a.le b :=
    List.pairwise_map.mpr (new_sorted ref names properties)
  have distinct : (new ref names properties).properties.keys.Nodup :=
    ((Ordered.sort_perm _ properties).map _).nodup_iff.mpr once
  exact sorted.imp₂ (fun _ _ => Text.lt_of_le_of_ne) distinct

namespace Shape

variable {members : List Shape}

/-- A union that is more than one shape and null. -/
def NeedsType (u : Shape) : Prop :=
  ∃ members, u = union members ∧ ¬ ∃ t, ∀ m, m ∈ members ↔ m = t ∨ m = null

theorem isSome_nullableOf? (h : (union members).Canonical) :
    (nullableOf? members).isSome ↔ ∃ t, ∀ m, m ∈ members ↔ m = t ∨ m = null := by
  obtain ⟨two, ordered, -⟩ := h
  constructor
  · intro some
    match members, two, ordered with
    | [a, b], _, ordered =>
      have apart : a ≠ b := by simpa using Ordered.nodup ordered
      by_cases first : a = null
      · exact ⟨b, by simp [first, or_comm]⟩
      · by_cases second : b = null
        · exact ⟨a, by simp [second]⟩
        · simp [nullableOf?, first, second] at some
    | a :: b :: c :: rest, _, _ => simp [nullableOf?] at some
  · rintro ⟨t, same⟩
    have once : members.Nodup := Ordered.nodup ordered
    have other : t ≠ null := by
      rintro rfl
      have alone : members.Perm [null] :=
        (List.perm_ext_iff_of_nodup once (List.nodup_singleton _)).mpr (by simpa using same)
      rw [alone.length_eq] at two
      simp at two
    have both : members.Perm [t, null] :=
      (List.perm_ext_iff_of_nodup once (by simpa using other)).mpr (by simpa using same)
    have kept : members.filter (· ≠ null) = [t] := by
      rw [← List.perm_singleton]
      simpa [other] using both.filter (· ≠ null)
    rw [nullableOf?, both.length_eq, kept]
    rfl

theorem isGenerated_iff {u : Shape} (h : u.Canonical) : u.isGenerated ↔ u.NeedsType := by
  cases u with
  | union members =>
    have nullable := isSome_nullableOf? h
    simp only [isGenerated, NeedsType, union.injEq, exists_eq_left', ← nullable,
      Option.isNone_iff_eq_none, Option.not_isSome_iff_eq_none]
  | _ => simp [isGenerated, NeedsType]

end Shape

namespace Graph

variable {g : Graph} {place : Place} {x : Shape}

theorem Orderly.canonical (orderly : g.Orderly) : ∀ s ∈ g.shapes, s.Canonical := by
  intro s inside
  rcases mem_shapes.mp inside with inside | ⟨c, hc, e, he, inside⟩
  · exact Shape.canonical_of_mem_walk orderly.topLevel inside
  · exact Shape.canonical_of_mem_walk (orderly.properties c hc e he) inside

theorem mem_shapes_iff_holds : x ∈ g.shapes ↔ ∃ place, g.Holds place x := by
  rw [← map_snd_places, List.mem_map]
  constructor
  · rintro ⟨⟨place, y⟩, inside, rfl⟩
    exact ⟨place, mem_places.mp inside⟩
  · rintro ⟨place, holds⟩
    exact ⟨(place, x), mem_places.mpr holds, rfl⟩

theorem isFirst_iff : g.IsFirst x place ↔ Ordered.IsFirstKey Place.Before g.places x place := by
  simp only [IsFirst, Ordered.IsFirstKey, mem_places]

/-- The unions that stand in the graph and need a type, each once, in the order of their first
places. -/
structure ListsUnions (g : Graph) (us : List Shape) : Prop where
  mem : ∀ u, u ∈ us ↔ (∃ place, g.Holds place u) ∧ u.NeedsType
  nodup : us.Nodup
  order : ∀ u ∈ us, ∀ v ∈ us,
    us.idxOf u < us.idxOf v ↔ ∃ p q, g.IsFirst u p ∧ g.IsFirst v q ∧ p.Before q

theorem unions_listed (orderly : g.Orderly) : g.ListsUnions g.unions where
  mem u := by
    rw [mem_unions, mem_shapes_iff_holds]
    refine and_congr_right fun holds => Shape.isGenerated_iff ?_
    exact orderly.canonical u (mem_shapes_iff_holds.mpr holds)
  nodup := g.unions_nodup
  order u hu v hv := by
    have inShapes {w : Shape} (hw : w ∈ g.unions) : w ∈ g.places.map (·.2) := by
      rw [map_snd_places]
      exact (mem_unions.mp hw).1
    have byShapes := Ordered.idxOf_lt_iff_of_pairwise (fun less => Nat.lt_asymm less)
      (Ordered.firstSeen_filter_pairwise Shape.isGenerated g.shapes) hu hv
    have byPlaces :=
      Ordered.idxOf_lt_iff_firstKey (R := Place.Before) Place.Before.asymm (places_pairwise orderly)
      (inShapes hu) (inShapes hv)
    rw [map_snd_places] at byPlaces
    simp only [isFirst_iff]
    exact byShapes.trans byPlaces

/-- Classes and graphs that are put together from canonical shapes and distinct keys are orderly. -/
theorem new_orderly {classes : List RecordClass} {root : Shape} (top : root.Canonical)
    (built : ∀ c ∈ classes, ∃ ref names properties,
      c = .new ref names properties ∧ properties.keys.Nodup ∧
      ∀ e ∈ properties, e.2.Canonical) : (new classes root).Orderly where
  topLevel := top
  properties c hc e he := by
    obtain ⟨ref, names, properties, rfl, -, all⟩ := built c (mem_new_classes hc)
    exact all e (Ordered.mem_sort.mp he)
  keys c hc := by
    obtain ⟨ref, names, properties, rfl, once, -⟩ := built c (mem_new_classes hc)
    exact RecordClass.new_increasing ref names once

/-- A union inside a nullable one, one that stands twice, and keys that are given out of order. -/
def sampleUnions : Graph :=
  .new [.new "B" [] [("z", .array (.union [.boolean, .double])),
    ("a", .union [.null, .map (.union [.integer, .string])])],
    .new "A" [] [("p", .union [.boolean, .array (.union [.boolean, .double])])]]
      (.array (.union [.null, .record "B"]))

theorem sample_unions_listed : sampleUnions.Orderly ∧ sampleUnions.ListsUnions
    [.union [.integer, .string], .union [.boolean, .double],
      .union [.boolean, .array (.union [.boolean, .double])]] := by
  have orderly : sampleUnions.Orderly := by
    refine new_orderly ?_ ?_
    · simp [Shape.Canonical, Shape.AllCanonical, Shape.isUnion]
      decide
    · simp only [List.mem_cons, List.not_mem_nil, or_false, forall_eq_or_imp, forall_eq]
      refine ⟨⟨_, _, _, rfl, by decide, ?_⟩, _, _, _, rfl, by decide, ?_⟩ <;>
        simp [Shape.Canonical, Shape.AllCanonical, Shape.isUnion] <;> decide
  have found : sampleUnions.unions =
      [.union [.integer, .string], .union [.boolean, .double],
        .union [.boolean, .array (.union [.boolean, .double])]] := by
    decide
  exact ⟨orderly, found ▸ unions_listed orderly⟩

end Graph
end Shapewright
