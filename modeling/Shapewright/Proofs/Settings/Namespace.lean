import Shapewright.Proofs.Identifier.Capital
import Shapewright.Proofs.Result
import Shapewright.Settings.Basic

/-!
# Namespaces

The namespace of frozen settings is made of usable identifiers between its dots.
-/
namespace Shapewright.Settings
open Identifier Result

/-- Repairing changes exactly the texts that are no identifiers. -/
theorem legalize_eq_self {name : String} : legalize name = name ↔ IsValid name := by
  have chars : legalize name = name ↔ legalizeChars name.toList = name.toList := by
    rw [legalize, ← String.toList_inj, String.toList_ofList]
  constructor
  · intro same
    rw [← same]
    exact legalize_valid name
  · intro valid
    rw [chars]
    rw [IsValid] at valid
    cases hc : name.toList with
    | nil => simp [hc, validChars] at valid
    | cons c cs =>
      rw [hc] at valid
      have each := List.all_eq_true.mp (all_isContinue valid)
      have kept : (c :: cs).map repair = c :: cs := by
        have same : ∀ d ∈ c :: cs, repair d = id d := fun d hd => repair_of_isContinue (each d hd)
        rw [List.map_congr_left same, List.map_id]
      have start : isStart c := by
        simp only [validChars, Bool.and_eq_true] at valid
        exact valid.1
      rw [legalizeChars, if_pos start, kept]

theorem isNone_find?_iff {names : List String} :
    (names.find? fun name => legalize name != name) = none ↔ ∀ name ∈ names, IsValid name := by
  simp only [List.find?_eq_none, bne_iff_ne, ne_eq, Decidable.not_not, legalize_eq_self]

theorem isNamespaceSegment_iff {segment : String} :
    isNamespaceSegment segment ↔ IsUsable segment := by
  simp only [isNamespaceSegment, Bool.and_eq_true, Bool.not_eq_true', beq_iff_eq, legalize_eq_self,
    IsUsable]
  constructor
  · rintro ⟨⟨-, notKeyword⟩, valid⟩
    exact ⟨valid, notKeyword⟩
  · rintro ⟨valid, notKeyword⟩
    refine ⟨⟨?_, notKeyword⟩, valid⟩
    rw [← Bool.not_eq_true, String.isEmpty_iff]
    rintro rfl
    cases valid

/-- The identifiers of a dotted name are all usable. -/
def IsDotted (name : String) : Prop :=
  ∀ segment ∈ segments name.toList, IsUsable (String.ofList segment)

theorem checkNamespace_eq_ok {name n : String} :
    checkNamespace name = .ok n ↔ IsDotted name ∧ name = n := by
  rw [checkNamespace, IsDotted]
  split
  · next all =>
    rw [List.all_eq_true] at all
    simp only [Except.ok.injEq, iff_and_self]
    exact fun _ segment inside => isNamespaceSegment_iff.mp (all segment inside)
  · next notAll =>
    refine iff_of_false (fun h => by cases h) ?_
    rintro ⟨dotted, -⟩
    refine notAll (List.all_eq_true.mpr fun segment inside => ?_)
    exact isNamespaceSegment_iff.mpr (dotted segment inside)

/-- Freezing checks the namespace. -/
theorem freeze_isDotted {draft : Draft} {s : Settings} (frozen : draft.freeze = .ok s) :
    IsDotted s.namespaceName := by
  obtain ⟨name, checked, h⟩ := bind_eq_ok.mp frozen
  obtain ⟨width, -, h⟩ := bind_eq_ok.mp h
  obtain ⟨names, -, h⟩ := bind_eq_ok.mp h
  cases h
  obtain ⟨dotted, rfl⟩ := checkNamespace_eq_ok.mp checked
  exact dotted

end Shapewright.Settings
