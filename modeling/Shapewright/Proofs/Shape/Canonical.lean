import Shapewright.Proofs.Text.Order
import Shapewright.Shape.Union

/-!
# Canonical shapes

`precedes` is a strict order in which any two different shapes are comparable, so a set of members
has one list. Joining canonical shapes gives a canonical shape, and everything inside a canonical
shape is canonical.
-/
namespace Shapewright.Shape

theorem precedes_iff {a b : Shape} :
    a.precedes b ↔ a.key < b.key ∨ a.key = b.key ∧ a.code < b.code := by
  simp [precedes]

theorem precedes_irrefl (a : Shape) : ¬ a.precedes a := by
  intro h
  rcases precedes_iff.mp h with h | ⟨-, h⟩
  · exact Text.lt_irrefl _ h
  · exact List.lt_irrefl _ h

theorem precedes_trans {a b c : Shape} (h : a.precedes b) (k : b.precedes c) : a.precedes c := by
  rw [precedes_iff] at h k ⊢
  rcases h with h | ⟨he, h⟩
  · rcases k with k | ⟨ke, k⟩
    · exact .inl (Text.lt_trans h k)
    · exact .inl (ke ▸ h)
  · rcases k with k | ⟨ke, k⟩
    · exact .inl (he ▸ k)
    · exact .inr ⟨he.trans ke, List.lt_trans h k⟩

theorem precedes_of_not {a b : Shape} (different : a ≠ b) (h : ¬ a.precedes b) : b.precedes a := by
  rw [precedes_iff] at h ⊢
  obtain ⟨keyNot, codeNot⟩ := not_or.mp h
  by_cases lt : b.key < a.key
  · exact .inl lt
  · have keys : a.key = b.key := Text.eq_of_not_lt keyNot lt
    refine .inr ⟨keys.symm, Decidable.byContradiction fun code => different ?_⟩
    exact code_inj (List.le_antisymm code fun lt => codeNot ⟨keys, lt⟩)

/-- Members in strict order. -/
abbrev Ordered (ms : List Shape) : Prop := ms.Pairwise (·.precedes ·)

theorem Ordered.nodup {ms : List Shape} (h : Ordered ms) : ms.Nodup := by
  refine List.Pairwise.imp ?_ h
  rintro a _ before rfl
  exact precedes_irrefl a before

/-- A set has one list in strict order. -/
theorem Ordered.ext {as bs : List Shape} (ha : Ordered as) (hb : Ordered bs)
    (same : ∀ m, m ∈ as ↔ m ∈ bs) : as = bs := by
  have perm : as.Perm bs := (List.perm_ext_iff_of_nodup ha.nodup hb.nodup).mpr same
  refine List.Perm.eq_of_pairwise (fun a b _ _ before after => ?_) ha hb perm
  exact absurd (precedes_trans before after) (precedes_irrefl a)

@[simp] theorem mem_insertMember {s m : Shape} {ms : List Shape} :
    m ∈ insertMember s ms ↔ m = s ∨ m ∈ ms := by
  induction ms with
  | nil => simp [insertMember]
  | cons n ms ih =>
    simp only [insertMember]
    split
    · next same => simp [same]
    · split
      · simp
      · simp only [List.mem_cons, ih]
        exact or_left_comm

theorem insertMember_ordered {s : Shape} {ms : List Shape} (h : Ordered ms) :
    Ordered (insertMember s ms) := by
  induction ms with
  | nil => simp [insertMember]
  | cons n ms ih =>
    obtain ⟨first, rest⟩ := List.pairwise_cons.mp h
    simp only [insertMember]
    split
    · exact h
    · next different =>
      split
      · next before =>
        refine List.pairwise_cons.mpr ⟨fun m hm => ?_, h⟩
        rcases List.mem_cons.mp hm with rfl | hm
        · exact before
        · exact precedes_trans before (first m hm)
      · next after =>
        refine List.pairwise_cons.mpr ⟨fun m hm => ?_, ih rest⟩
        rcases mem_insertMember.mp hm with rfl | hm
        · exact precedes_of_not different after
        · exact first m hm

@[simp] theorem mem_collect {s : Shape} {shapes : List Shape} :
    s ∈ collect shapes ↔ s ∈ shapes := by
  induction shapes with
  | nil => simp [collect]
  | cons m shapes ih =>
    rw [show collect (m :: shapes) = insertMember m (collect shapes) from rfl, mem_insertMember, ih,
      List.mem_cons]

theorem collect_ordered (shapes : List Shape) : Ordered (collect shapes) := by
  induction shapes with
  | nil => exact .nil
  | cons m shapes ih => exact insertMember_ordered ih

theorem allCanonical_iff {ms : List Shape} : AllCanonical ms ↔ ∀ m ∈ ms, m.Canonical := by
  induction ms with
  | nil => simp [AllCanonical]
  | cons m ms ih => simp [AllCanonical, ih]

/-- What a canonical shape offers to a union is canonical and no union. -/
theorem alternatives_canonical {s m : Shape} (h : s.Canonical) (hm : m ∈ alternatives s) :
    m.Canonical ∧ !m.isUnion := by
  cases s with
  | union members =>
    obtain ⟨-, -, flat, all⟩ := h
    exact ⟨allCanonical_iff.mp all m hm, List.all_eq_true.mp flat m hm⟩
  | _ =>
    obtain rfl := List.mem_singleton.mp hm
    exact ⟨h, rfl⟩

theorem join?_canonical {shapes : List Shape} {s : Shape} (h : ∀ m ∈ shapes, m.Canonical)
    (hs : join? shapes = some s) : s.Canonical := by
  have inner : ∀ m ∈ collect (shapes.flatMap alternatives), m.Canonical ∧ !m.isUnion := by
    intro m hm
    obtain ⟨t, ht, hm⟩ := List.mem_flatMap.mp (mem_collect.mp hm)
    exact alternatives_canonical (h t ht) hm
  have ordered := collect_ordered (shapes.flatMap alternatives)
  unfold join? at hs
  split at hs
  · cases hs
  · next single =>
    cases hs
    exact (inner s (single ▸ List.mem_singleton_self s)).1
  · next several notOne =>
    cases hs
    refine ⟨?_, ordered, List.all_eq_true.mpr fun m hm => (inner m hm).2,
      allCanonical_iff.mpr fun m hm => (inner m hm).1⟩
    rcases hc : collect (shapes.flatMap alternatives) with _ | ⟨a, _ | ⟨b, rest⟩⟩
    · exact absurd hc several
    · exact absurd hc (notOne a)
    · simp

/-- Canonical shapes join to a union exactly when they offer several alternatives. -/
theorem join?_eq_union {shapes members : List Shape} (h : ∀ m ∈ shapes, m.Canonical) :
    join? shapes = some (.union members) ↔
      collect (shapes.flatMap alternatives) = members ∧ 2 ≤ members.length := by
  have flat : ∀ m ∈ collect (shapes.flatMap alternatives), !m.isUnion := by
    intro m hm
    obtain ⟨t, ht, hm⟩ := List.mem_flatMap.mp (mem_collect.mp hm)
    exact (alternatives_canonical (h t ht) hm).2
  unfold join?
  generalize collect (shapes.flatMap alternatives) = found at flat
  rcases found with _ | ⟨a, _ | ⟨b, rest⟩⟩
  · constructor
    · intro none
      cases none
    · rintro ⟨rfl, several⟩
      simp at several
  · constructor
    · intro single
      cases single
      have notUnion := flat _ List.mem_cons_self
      simp [isUnion] at notUnion
    · rintro ⟨rfl, several⟩
      simp at several
  · constructor
    · intro joint
      cases joint
      exact ⟨rfl, by simp⟩
    · rintro ⟨rfl, -⟩
      rfl

/-- Canonical members are at least two, so one of them is not null. -/
theorem exists_nonNull {members : List Shape} (h : (union members).Canonical) :
    nonNull members ≠ [] := by
  obtain ⟨two, ordered, -⟩ := h
  match members, two, ordered with
  | a :: b :: rest, _, ordered =>
    have apart : a ≠ b := fun same =>
      precedes_irrefl a (same ▸ (List.pairwise_cons.mp ordered).1 b List.mem_cons_self)
    intro none
    have all : ∀ m ∈ a :: b :: rest, m = null := by
      simpa [nonNull, List.filter_eq_nil_iff] using none
    exact apart ((all a (by simp)).trans (all b (by simp)).symm)

end Shapewright.Shape
