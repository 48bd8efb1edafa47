import Shapewright.Proofs.Shape.Graph
import Shapewright.Proofs.Text.Order

/-!
# Plain graphs

Of the names of a class only the best one counts, and it depends on the set of the names alone. A
graph is plain when each class has no other name.
-/
namespace Shapewright

/-- A better name is shorter, or as long and smaller. -/
def Text.Better (a b : Text) : Prop := a.length < b.length ∨ a.length = b.length ∧ a < b

namespace Text.Better

theorem irrefl (a : Text) : ¬ Better a a := by
  rintro (less | ⟨-, less⟩)
  · exact Nat.lt_irrefl _ less
  · exact lt_irrefl a less

theorem trans {a b c : Text} (h : Better a b) (k : Better b c) : Better a c := by
  rcases h with h | ⟨same, h⟩
  · rcases k with k | ⟨same, -⟩
    · exact .inl (Nat.lt_trans h k)
    · exact .inl (same ▸ h)
  · rcases k with k | ⟨also, k⟩
    · exact .inl (same ▸ k)
    · exact .inr ⟨same.trans also, lt_trans h k⟩

theorem eq_of_neither {a b : Text} (h : ¬ Better a b) (k : ¬ Better b a) : a = b := by
  obtain ⟨notShorter, notBefore⟩ := not_or.mp h
  obtain ⟨notLonger, notAfter⟩ := not_or.mp k
  have lengths : a.length = b.length :=
    Nat.le_antisymm (Nat.not_lt.mp notLonger) (Nat.not_lt.mp notShorter)
  exact eq_of_not_lt (fun less => notBefore ⟨lengths, less⟩) fun less =>
    notAfter ⟨lengths.symm, less⟩

/-- What is no better than a second text is no better than a third one that the
second one does not beat. -/
theorem not_trans {a b c : Text} (h : ¬ Better a b) (k : ¬ Better b c) : ¬ Better a c := by
  intro better
  by_cases back : Better b a
  · exact k (back.trans better)
  · exact k (eq_of_neither h back ▸ better)

end Text.Better

/-- No other name is better. -/
structure IsBest (names : List Text) (best : Text) : Prop where
  mem : best ∈ names
  least : ∀ name ∈ names, ¬ Text.Better name best

theorem IsBest.unique {names others : List Text} (same : ∀ name, name ∈ names ↔ name ∈ others)
    {a b : Text} (ha : IsBest names a) (hb : IsBest others b) : a = b :=
  Text.Better.eq_of_neither (hb.least a ((same a).mp ha.mem)) (ha.least b ((same b).mpr hb.mem))

theorem IsBest.perm {names others : List Text} {best : Text} (h : IsBest names best)
    (perm : names.Perm others) :
    IsBest others best :=
  ⟨perm.mem_iff.mp h.mem, fun name inside => h.least name (perm.mem_iff.mpr inside)⟩

/-- A name that does not beat another one need not be looked at. -/
theorem IsBest.add {name kept best : Text} {names : List Text} (h : IsBest (kept :: names) best)
    (beaten : ¬ Text.Better name kept) : IsBest (name :: kept :: names) best where
  mem := List.mem_cons_of_mem _ h.mem
  least :=
    List.forall_mem_cons.mpr ⟨Text.Better.not_trans beaten (h.least kept List.mem_cons_self),
      h.least⟩

/-- The name that is carried on is always the best one of those passed. -/
theorem combinedName_isBest (name : Text) (names : List Text) (fallback : Text) :
    IsBest (name :: names) (combinedName (name :: names) fallback) := by
  have better_iff (a b : Text) :
      (decide (a.length < b.length) || a.length == b.length && decide (a < b)) = true ↔
      Text.Better a b := by simp [Text.Better]
  induction names generalizing name with
  | nil =>
    refine ⟨List.mem_singleton_self _, fun other alone => ?_⟩
    rw [List.mem_singleton.mp alone]
    exact Text.Better.irrefl name
  | cons next names ih =>
    simp only [combinedName, List.foldl_cons] at ih ⊢
    split
    · next replaced =>
      exact (ih next).add fun back =>
        Text.Better.irrefl name (back.trans ((better_iff next name).mp replaced))
    · next stays =>
      exact ((ih name).add (mt (better_iff next name).mpr stays)).perm (.swap name next names)

/-- Neither the order of the names nor their repetition counts. -/
theorem combinedName_congr {names others : List Text} (same : ∀ name, name ∈ names ↔ name ∈ others)
    (fallback : Text) : combinedName names fallback = combinedName others fallback := by
  cases names with
  | nil =>
    cases others with
    | nil => rfl
    | cons other others => cases (same other).mpr List.mem_cons_self
  | cons name names =>
    cases others with
    | nil => cases (same name).mp List.mem_cons_self
    | cons other others =>
      exact (combinedName_isBest name names fallback).unique same
        (combinedName_isBest other others fallback)

namespace RecordClass

/-- The class under its best name alone. -/
def plain (c : RecordClass) : RecordClass := { c with names := [c.baseName] }

@[simp] theorem plain_ref (c : RecordClass) : c.plain.ref = c.ref := rfl

@[simp] theorem plain_properties (c : RecordClass) : c.plain.properties = c.properties := rfl

@[simp] theorem plain_baseName (c : RecordClass) : c.plain.baseName = c.baseName := rfl

end RecordClass

namespace Graph

def plain (g : Graph) : Graph := { g with classes := g.classes.map (·.plain) }

@[simp] theorem plain_topLevel (g : Graph) : g.plain.topLevel = g.topLevel := rfl

@[simp] theorem plain_classes (g : Graph) : g.plain.classes = g.classes.map (·.plain) := rfl

@[simp] theorem plain_class? (g : Graph) (ref : Text) :
    g.plain.class? ref = (g.class? ref).map (·.plain) := by
  simp [class?, List.find?_map, Function.comp_def]

@[simp] theorem plain_shapes (g : Graph) : g.plain.shapes = g.shapes := by
  simp [shapes, List.flatMap_map]

@[simp] theorem plain_unions (g : Graph) : g.plain.unions = g.unions := by
  simp [unions]

end Graph
end Shapewright
