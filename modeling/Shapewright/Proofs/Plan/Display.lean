import Shapewright.Plan.Basic
import Shapewright.Proofs.Identifier.Capital
import Shapewright.Proofs.Result
import Shapewright.Proofs.Shape.Graph

/-!
# Preferred names

In a well-formed graph every shape can be displayed, so every union and every field has a preferred
name, and it is a capital one.
-/
namespace Shapewright.Plan
open Identifier Result

variable {g : Graph}

theorem displayName_ok (wf : g.WellFormed) {s : Shape} (h : s ∈ g.shapes) :
    ∃ name, displayName g s = .ok name := by
  induction s with
  | array items ih =>
    obtain ⟨name, named⟩ := ih (Graph.items_mem h)
    exact ⟨name ++ " Array", by rw [displayName, named, ok_bind, pure_eq]⟩
  | map values ih =>
    obtain ⟨name, named⟩ := ih (Graph.values_mem h)
    exact ⟨name ++ " Map", by rw [displayName, named, ok_bind, pure_eq]⟩
  | record ref =>
    obtain ⟨c, found⟩ := wf.exists_class h
    exact ⟨c.baseName, by simp only [displayName, baseName, found]⟩
  | _ => exact ⟨_, rfl⟩

theorem displayNames_ok (wf : g.WellFormed) {ss : List Shape} (h : ∀ s ∈ ss, s ∈ g.shapes) :
    ∃ names, displayNames g ss = .ok names ∧ names.length = ss.length := by
  have gathers : Gathers (displayName g) (displayNames g) := ⟨rfl, fun _ _ => rfl⟩
  have displayed : ∀ s ∈ ss, displayName g s = .ok (valueOr ("" : Text) (displayName g s)) :=
    fun s hs =>
    eq_ok_valueOr _ (displayName_ok wf (h s hs))
  exact ⟨_, gathers.eq_ok displayed, List.length_map _⟩

/-- The name that a union would like. -/
def unionText (g : Graph) (u : Shape) : String := valueOr "" (unionBaseName g (membersOf u))

/-- The name that the field of a member would like. -/
def fieldText (g : Graph) (m : Shape) : String := valueOr "" (fieldBaseName g m)

theorem fieldBaseName_eq (wf : g.WellFormed) {m : Shape} (h : m ∈ g.shapes) :
    fieldBaseName g m = .ok (fieldText g m) := by
  obtain ⟨name, named⟩ := displayName_ok wf h
  exact eq_ok_valueOr "" ⟨styledText name, by rw [fieldBaseName, named, ok_bind, pure_eq]⟩

theorem fieldText_of_displayName {m : Shape} {name : Text} (h : displayName g m = .ok name) :
    fieldText g m = styledText name := by
  rw [fieldText, fieldBaseName, h, ok_bind, pure_eq, valueOr_ok]

theorem fieldText_capital (wf : g.WellFormed) {m : Shape} (h : m ∈ g.shapes) :
    IsCapital (fieldText g m) := by
  obtain ⟨name, named⟩ := displayName_ok wf h
  rw [fieldText_of_displayName named]
  exact styled_capital _

/-- The members of a generated union are shapes of the graph, and not all of them are null. -/
theorem nonNull_members (wf : g.WellFormed) {u : Shape} (hu : u ∈ g.unions) :
    Shape.nonNull (membersOf u) ≠ [] ∧ ∀ m ∈ Shape.nonNull (membersOf u), m ∈ g.shapes := by
  obtain ⟨members, rfl⟩ := Graph.exists_members hu
  have here := (Graph.mem_unions.mp hu).1
  refine ⟨Shape.exists_nonNull (wf.canonical _ here), fun m hm => ?_⟩
  exact Graph.member_mem here (List.mem_filter.mp hm).1

theorem members_ordered (wf : g.WellFormed) {u : Shape} (hu : u ∈ g.unions) :
    Shape.Ordered (membersOf u) := by
  obtain ⟨members, rfl⟩ := Graph.exists_members hu
  exact (wf.canonical _ (Graph.mem_unions.mp hu).1).2.1

theorem unionBaseName_ok (wf : g.WellFormed) {u : Shape} (hu : u ∈ g.unions) :
    ∃ name, unionBaseName g (membersOf u) = .ok name ∧ IsCapital name := by
  obtain ⟨filled, inside⟩ := nonNull_members wf hu
  obtain ⟨names, displayed, length⟩ := displayNames_ok wf inside
  refine ⟨_, by rw [unionBaseName, displayed, ok_bind, pure_eq], ?_⟩
  refine intercalate_capital (by decide) (fun empty => filled ?_) fun name hn => ?_
  · have none : (Ordered.sort Text.le names).length = 0 := by
      rw [List.map_eq_nil_iff.mp empty, List.length_nil]
    rw [(Ordered.sort_perm _ _).length_eq, length] at none
    exact List.eq_nil_of_length_eq_zero none
  · obtain ⟨t, -, rfl⟩ := List.mem_map.mp hn
    exact styled_capital _

theorem unionBaseName_eq (wf : g.WellFormed) {u : Shape} (hu : u ∈ g.unions) :
    unionBaseName g (membersOf u) = .ok (unionText g u) := by
  obtain ⟨name, named, -⟩ := unionBaseName_ok wf hu
  exact eq_ok_valueOr "" ⟨name, named⟩

theorem unionText_capital (wf : g.WellFormed) {u : Shape} (hu : u ∈ g.unions) :
    IsCapital (unionText g u) := by
  obtain ⟨name, named, capital⟩ := unionBaseName_ok wf hu
  rwa [unionText, named, valueOr_ok]

end Shapewright.Plan
