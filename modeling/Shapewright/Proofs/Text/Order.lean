import Shapewright.Text.Basic

/-!
# The order of text

Text is strictly ordered by the numbers of its code points: two texts that neither precede each
other are the same text.
-/
namespace Shapewright

/-- The numbers of halves are exactly those that no character has. -/
theorem CodePoint.number_inj {a b : CodePoint} (h : a.number = b.number) : a = b := by
  have apart : ∀ (c : Char) (n : Fin 0x800), c.toNat ≠ 0xD800 + n.val := by
    intro c n e
    have valid : c.toNat < 0xD800 ∨ 0xDFFF < c.toNat ∧ c.toNat < 0x110000 := c.valid
    omega
  cases a with
  | char c =>
    cases b with
    | char d => exact congrArg char (Char.toNat_inj.mp h)
    | half n => exact absurd h (apart c n)
  | half n =>
    cases b with
    | char d => exact absurd h.symm (apart d n)
    | half m =>
      have e : 0xD800 + n.val = 0xD800 + m.val := h
      exact congrArg half (Fin.ext (Nat.add_left_cancel e))

namespace Text

theorem eq_of_numbers {a b : Text}
    (h : a.points.map CodePoint.number = b.points.map CodePoint.number) :
    a = b := by
  have points : a.points = b.points := (List.map_inj_right fun _ _ => CodePoint.number_inj).mp h
  cases a
  cases b
  exact congrArg Text.mk points

theorem lt_irrefl (a : Text) : ¬ a < a := List.lt_irrefl (a.points.map CodePoint.number)

theorem lt_trans {a b c : Text} (h : a < b) (k : b < c) : a < c := by
  have first : a.points.map CodePoint.number < b.points.map CodePoint.number := h
  have second : b.points.map CodePoint.number < c.points.map CodePoint.number := k
  exact List.lt_trans first second

theorem lt_asymm {a b : Text} (h : a < b) : ¬ b < a := fun k => lt_irrefl a (lt_trans h k)

theorem eq_of_not_lt {a b : Text} (h : ¬ a < b) (k : ¬ b < a) : a = b :=
  eq_of_numbers (List.le_antisymm k h)

theorem le_iff {a b : Text} : a.le b ↔ ¬ b < a := by
  simp [le]

theorem le_total (a b : Text) : a.le b ∨ b.le a := by
  rw [le_iff, le_iff]
  by_cases h : b < a
  · exact .inr (lt_asymm h)
  · exact .inl h

theorem le_trans {a b c : Text} (h : a.le b) (k : b.le c) : a.le c := by
  rw [le_iff] at h k ⊢
  intro lt
  by_cases first : a < b
  · exact k (lt_trans lt first)
  · have same : a = b := eq_of_not_lt first h
    exact k (same ▸ lt)

theorem lt_of_le_of_ne {a b : Text} (h : a.le b) (other : a ≠ b) : a < b :=
  Decidable.byContradiction fun notBefore => other (eq_of_not_lt notBefore (le_iff.mp h))

instance : Std.Irrefl (· < · : Text → Text → Prop) := ⟨lt_irrefl⟩

instance : Std.Asymm (· < · : Text → Text → Prop) := ⟨fun _ _ => lt_asymm⟩

instance : Trans (· < · : Text → Text → Prop) (· < ·) (· < ·) := ⟨lt_trans⟩

instance : Std.Trichotomous (· < · : Text → Text → Prop) := ⟨fun _ _ => eq_of_not_lt⟩

end Text
end Shapewright
