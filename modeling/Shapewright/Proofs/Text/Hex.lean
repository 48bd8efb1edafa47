import Mathlib.Algebra.Group.Nat.Defs
import Shapewright.Text.Hex

/-!
# Reading hexadecimal digits

As many digits as a number needs give the number back.
-/
namespace Shapewright.Hex

theorem value?_digit {d : Nat} (h : d < 16) : value? (digit d) = some d := by
  have all : ∀ d < 16, value? (digit d) = some d := by decide
  exact all d h

theorem valueOf?_concat (cs : List Char) (c : Char) :
    valueOf? (cs ++ [c]) = (valueOf? cs).bind fun n => (value? c).map (16 * n + ·) := by
  rw [valueOf?, List.foldlM_append]
  cases h : List.foldlM (fun acc c => (value? c).map (16 * acc + ·)) 0 cs <;> simp [valueOf?, h]

theorem length_padded (width n : Nat) : (padded width n).length = width := by
  induction width generalizing n with
  | zero => rfl
  | succ width ih => rw [padded, List.length_append, ih, List.length_singleton]

/-- As many digits as the number needs give the number back. -/
theorem valueOf?_padded {width n : Nat} (h : n < 16 ^ width) :
    valueOf? (padded width n) = some n := by
  induction width generalizing n with
  | zero =>
    obtain rfl : n = 0 := by simpa using h
    rfl
  | succ width ih =>
    have front : n / 16 < 16 ^ width := by
      rw [Nat.pow_succ] at h
      exact Nat.div_lt_of_lt_mul (Nat.mul_comm _ 16 ▸ h)
    have last : n % 16 < 16 := Nat.mod_lt n (by decide)
    rw [padded, valueOf?_concat, ih front, Option.bind_some, value?_digit last, Option.map_some,
      Nat.div_add_mod]

/-- What holds of every digit holds of all that is written. -/
theorem forall_mem_padded {P : Char → Prop} (digits : ∀ d < 16, P (digit d)) (width n : Nat) :
    ∀ c ∈ padded width n, P c := by
  induction width generalizing n with
  | zero => exact fun c inside => absurd inside List.not_mem_nil
  | succ width ih =>
    refine List.forall_mem_append.mpr ⟨ih _, ?_⟩
    simpa using digits (n % 16) (Nat.mod_lt n (by decide))

end Shapewright.Hex
