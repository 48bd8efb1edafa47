import Mathlib.Data.Nat.Digits.Defs
import Shapewright.Number.Decimal

/-!
# Decimal digits

The digits that a number is written in stand for it.
-/
namespace Shapewright.Decimal
open Unicode

theorem isDigit_of_mem_toDigits {n : Nat} {c : Char} (h : c ∈ Nat.toDigits 10 n) : isDigit c := by
  have digit := Nat.isDigit_of_mem_toDigits (by decide) (by decide) h
  simpa [isDigit, Char.isDigit, Char.le_def] using digit

theorem ofDigits_toDigits (n : Nat) : ofDigits (Nat.toDigits 10 n) = n := by
  have read := Nat.ofDigitChars_ten_toDigits (n := n)
  rwa [Nat.ofDigitChars_eq_foldl] at read

section Scripts
variable {c : Char} {word : List Char} {values : List Nat} {n : Nat}

theorem isDecimal_iff : isDecimal c ↔ ∃ n, decimalValue? c = some n := by
  rw [← Option.isSome_iff_exists, decimalValue?, Option.isSome_map, List.find?_isSome, isDecimal,
    covered, List.any_eq_true]

theorem decimalValue?_lt (h : decimalValue? c = some n) : n < 10 := by
  obtain ⟨r, -, rfl⟩ := Option.map_eq_some_iff.mp h
  exact Nat.mod_lt _ (by decide)

theorem plain_value (h : decimalValue? c = some n) : (plain c).toNat - 48 = n := by
  have all : ∀ n < 10, (Char.ofNat (48 + n)).toNat - 48 = n := by decide
  rw [plain, h]
  exact all n (decimalValue?_lt h)

theorem exists_values (all : ∀ c ∈ word, isDecimal c) :
    ∃ values : List Nat, word.map decimalValue? = values.map some := by
  induction word with
  | nil => exact ⟨[], rfl⟩
  | cons c word ih =>
    obtain ⟨n, here⟩ := isDecimal_iff.mp (all c List.mem_cons_self)
    obtain ⟨values, rest⟩ := ih fun d inside => all d (List.mem_cons_of_mem c inside)
    exact ⟨n :: values, by rw [List.map_cons, here, rest, List.map_cons]⟩

theorem isDecimal_of_values (h : word.map decimalValue? = values.map some) :
    ∀ c ∈ word, isDecimal c := by
  intro c inside
  have there : decimalValue? c ∈ values.map some := h ▸ List.mem_map_of_mem inside
  obtain ⟨n, -, same⟩ := List.mem_map.mp there
  exact isDecimal_iff.mpr ⟨n, same.symm⟩

theorem map_plain (h : word.map decimalValue? = values.map some) :
    word.map (fun c => (plain c).toNat - 48) = values := by
  induction word generalizing values with
  | nil => simpa using h.symm
  | cons c word ih =>
    cases values with
    | nil => simp at h
    | cons n values =>
      simp only [List.map_cons, List.cons.injEq] at h ⊢
      exact ⟨plain_value h.1, ih h.2⟩

/-- Digits of any script stand for the number with their values as its digits. -/
theorem ofDigits_plain (h : word.map decimalValue? = values.map some) :
    ofDigits (word.map plain) = Nat.ofDigits 10 values.reverse := by
  rw [← map_plain h, Nat.ofDigits_eq_foldr, List.foldr_reverse, List.foldl_map, ofDigits,
    List.foldl_map]
  simp only [Nat.cast_id, Nat.add_comm]

end Scripts
end Shapewright.Decimal
