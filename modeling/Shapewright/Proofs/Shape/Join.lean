import Shapewright.Proofs.Shape.Canonical

/-!
# Joining shapes

Joining is the union of sets of alternatives. It never fails where something is given, forgets the
order and the repetition of what is given, and can be done in parts.
-/
namespace Shapewright.Shape

/-- An alternative that shapes offer: one of them that is no union, or a member of one that is. -/
inductive Offered (shapes : List Shape) : Shape → Prop
  | itself {s : Shape} : s ∈ shapes → s.isUnion = false → Offered shapes s
  | member {members : List Shape} {m : Shape} :
      union members ∈ shapes → m ∈ members → Offered shapes m

/-- The union that holds exactly what is offered, or the one alternative where nothing else is
offered. -/
structure IsJoin (shapes : List Shape) (s : Shape) : Prop where
  canonical : s.Canonical
  holds : (∃ members, s = union members ∧ ∀ m, m ∈ members ↔ Offered shapes m) ∨
    s.isUnion = false ∧ ∀ m, Offered shapes m ↔ m = s

section
variable {shapes others : List Shape} {operands : List Operand} {s t m : Shape}

theorem mem_alternatives_iff : m ∈ shapes.flatMap alternatives ↔ Offered shapes m := by
  rw [List.mem_flatMap]
  constructor
  · rintro ⟨t, given, inside⟩
    cases t with
    | union members => exact .member given inside
    | _ =>
      obtain rfl := List.mem_singleton.mp inside
      exact .itself given rfl
  · intro offered
    cases offered with
    | itself given flat =>
      refine ⟨m, given, ?_⟩
      cases m with
      | union members => cases flat
      | _ => exact List.mem_singleton_self _
    | member given inside => exact ⟨_, given, inside⟩

theorem Offered.canonical (canonical : ∀ s ∈ shapes, s.Canonical) (h : Offered shapes m) :
    m.Canonical ∧ m.isUnion = false := by
  obtain ⟨t, given, inside⟩ := List.mem_flatMap.mp (mem_alternatives_iff.mpr h)
  simpa using alternatives_canonical (canonical t given) inside

theorem exists_offered (filled : shapes ≠ []) (canonical : ∀ s ∈ shapes, s.Canonical) :
    ∃ m, Offered shapes m := by
  obtain ⟨first, rest, rfl⟩ := List.exists_cons_of_ne_nil filled
  cases first with
  | union members =>
    obtain ⟨several, -⟩ := canonical _ List.mem_cons_self
    obtain ⟨m, inside⟩ := List.exists_mem_of_length_pos (Nat.lt_of_lt_of_le Nat.zero_lt_two several)
    exact ⟨m, .member List.mem_cons_self inside⟩
  | _ => exact ⟨_, .itself List.mem_cons_self rfl⟩

theorem unionOf_canonical {members : List Shape} (h : (union members).Canonical) :
    unionOf members = .ok (union members) := by
  obtain ⟨several, ordered, flat, -⟩ := h
  have same : collect members = members :=
    Ordered.ext (collect_ordered members) ordered fun m => mem_collect
  have notFew : ¬ members.length < 2 := Nat.not_lt.mpr several
  have notNested : members.any isUnion = false := by simpa using flat
  simp [unionOf, same, notFew, notNested]

theorem exists_join (filled : shapes ≠ []) (canonical : ∀ s ∈ shapes, s.Canonical) :
    ∃ s, join? shapes = some s ∧ IsJoin shapes s := by
  have held (m : Shape) : m ∈ collect (shapes.flatMap alternatives) ↔ Offered shapes m :=
    mem_collect.trans mem_alternatives_iff
  obtain ⟨m, offered⟩ := exists_offered filled canonical
  rcases found : collect (shapes.flatMap alternatives) with _ | ⟨a, _ | ⟨b, rest⟩⟩
  · have inside := (held m).mpr offered
    rw [found] at inside
    cases inside
  · have joint : join? shapes = some a := by rw [join?, found]
    have alone (m : Shape) : Offered shapes m ↔ m = a := by rw [← held, found, List.mem_singleton]
    have flat := (Offered.canonical canonical ((alone a).mpr rfl)).2
    exact ⟨a, joint, join?_canonical canonical joint, .inr ⟨flat, alone⟩⟩
  · have joint : join? shapes = some (union (a :: b :: rest)) := by rw [join?, found]
    exact ⟨_, joint, join?_canonical canonical joint, .inl ⟨_, rfl, found ▸ held⟩⟩

end

end Shapewright.Shape
