import Mathlib.Data.List.TakeWhile
import Mathlib.Data.Nat.Digits.Defs
import Shapewright.Diagnostics.Level
import Shapewright.Proofs.Number.Decimal

/-!
# Levels by number and by name

A text means a level by its number or by its name, or it means none. Digits alone need not be a
number: some have no place value, and there can be too many of them. A text of such digits is
refused, and no other is.
-/
namespace Shapewright.Diagnostics
open Unicode
open Decimal (maxDigits plain isDecimal_of_values exists_values ofDigits_plain)

/-- Digits that are no number: one of them has no place value, or there are too many. -/
structure IsMisleading (word : List Char) : Prop where
  ne_nil : word ≠ []
  digits : ∀ c ∈ word, isDigit c
  refused : (∃ c ∈ word, covered otherDigitRuns c) ∨ maxDigits < word.length

/-- The level that a word means. Decimal digits may be those of any script. -/
inductive Means (word : List Char) : Int → Prop
  | number {values : List Nat} :
      word ≠ [] → word.length ≤ maxDigits → word.map decimalValue? = values.map some →
      Means word (Nat.ofDigits 10 values.reverse : Nat)
  | name {level : Int} : levelNames.lookup (String.ofList word) = some level → Means word level

theorem digitRuns_apart :
    ∀ r ∈ decimalRuns, ∀ t ∈ otherDigitRuns, r.last < t.first ∨ t.last < r.first := by
  decide +kernel

/-- No digit is of both kinds. -/
theorem not_isDecimal {c : Char} (other : covered otherDigitRuns c) : ¬ isDecimal c := by
  intro decimal
  obtain ⟨r, decimals, here⟩ := List.any_eq_true.mp decimal
  obtain ⟨t, others, there⟩ := List.any_eq_true.mp other
  simp only [Run.covers, Bool.and_eq_true, decide_eq_true_eq] at here there
  have apart := digitRuns_apart r decimals t others
  omega

theorem isDigit_iff {c : Char} : isDigit c ↔ isDecimal c ∨ covered otherDigitRuns c := by
  rw [isDigit, Bool.or_eq_true]

section Words
variable {word : List Char} {values : List Nat} {level : Int}

theorem number_of_values (few : word.length ≤ maxDigits)
    (read : word.map decimalValue? = values.map some) :
    number word = .ok (Nat.ofDigits 10 values.reverse : Nat) := by
  have all : word.takeWhile isDecimal = word :=
    List.takeWhile_eq_self_iff.mpr (isDecimal_of_values read)
  simp only [number, all, Decimal.read, List.length_map, Nat.not_lt.mpr few, if_false, if_true,
    ofDigits_plain read]

/-- A digit without a place value is noticed, unless so many others come before
it that these are refused. -/
theorem number_refused
    (refused : (∃ c ∈ word, covered otherDigitRuns c) ∨ maxDigits < word.length) :
    ∃ e, number word = .error e := by
  unfold number
  by_cases many : maxDigits < (word.takeWhile isDecimal).length
  · simp [Decimal.read, many]
  · have short : (word.takeWhile isDecimal).length ≠ word.length := by
      intro same
      have all :=
        List.takeWhile_eq_self_iff.mp ((List.takeWhile_prefix isDecimal).eq_of_length same)
      rcases refused with ⟨c, inside, other⟩ | tooLong
      · exact not_isDecimal other (all c inside)
      · omega
    simp [Decimal.read, many, short]

theorem looksNumeric_iff :
    (!word.isEmpty && word.all isDigit) = true ↔ word ≠ [] ∧ ∀ c ∈ word, isDigit c := by
  simp [List.all_eq_true]

/-- No name of a level looks like a number. -/
theorem not_looksNumeric_of_name (named : levelNames.lookup (String.ofList word) = some level) :
    (!word.isEmpty && word.all isDigit) = false := by
  have names : ∀ e ∈ levelNames, e.1.toList.all isDigit = false := by decide +kernel
  obtain ⟨before, after, split, -⟩ := List.lookup_eq_some_iff.mp named
  have none :=
    names (String.ofList word, level) (split ▸ List.mem_append_right _ List.mem_cons_self)
  rw [String.toList_ofList] at none
  rw [none, Bool.and_false]

end Words

section Texts
variable {text : String} {level : Int}

theorem ofText_of_misleading (h : IsMisleading (Folded.fold text)) :
    ∃ e, ofText text = .error e := by
  obtain ⟨e, refused⟩ := number_refused h.refused
  refine ⟨e, ?_⟩
  simp only [ofText, looksNumeric_iff.mpr ⟨h.ne_nil, h.digits⟩, if_true, refused, Except.map]

theorem ofText_of_means (h : Means (Folded.fold text) level) : ofText text = .ok (some level) := by
  cases h with
  | number nonempty few read =>
    have digits : ∀ c ∈ Folded.fold text, isDigit c := fun c inside =>
      isDigit_iff.mpr (.inl (isDecimal_of_values read c inside))
    simp only [ofText, looksNumeric_iff.mpr ⟨nonempty, digits⟩, if_true, number_of_values few read,
      Except.map]
  | name named =>
    simp only [ofText, not_looksNumeric_of_name named, Bool.false_eq_true, if_false, named]

/-- A text is misleading, or it means a level, or it says nothing. -/
theorem ofText_cases (text : String) :
    IsMisleading (Folded.fold text) ∨ (∃ level, Means (Folded.fold text) level) ∨
      ofText text = .ok none := by
  by_cases numeric : Folded.fold text ≠ [] ∧ ∀ c ∈ Folded.fold text, isDigit c
  · obtain ⟨nonempty, digits⟩ := numeric
    by_cases refused : (∃ c ∈ Folded.fold text, covered otherDigitRuns c) ∨
        maxDigits < (Folded.fold text).length
    · exact .inl ⟨nonempty, digits, refused⟩
    · obtain ⟨placed, few⟩ := not_or.mp refused
      have decimal : ∀ c ∈ Folded.fold text, isDecimal c := fun c inside =>
        (isDigit_iff.mp (digits c inside)).resolve_right fun other => placed ⟨c, inside, other⟩
      obtain ⟨values, read⟩ := exists_values decimal
      exact .inr (.inl ⟨_, .number nonempty (Nat.not_lt.mp few) read⟩)
  · cases named : levelNames.lookup (String.ofList (Folded.fold text)) with
    | some level => exact .inr (.inl ⟨level, .name named⟩)
    | none =>
      refine .inr (.inr ?_)
      simp only [ofText, mt looksNumeric_iff.mp numeric, if_false, named, Bool.false_eq_true]

theorem ofEnvironment_some (text : String) : ofEnvironment (some text) = ofText text := by
  by_cases empty : text.isEmpty
  · obtain rfl : text = "" := by simpa using empty
    rfl
  · simp only [ofEnvironment, empty, if_false, Bool.false_eq_true]

theorem ofEnvironment_error_iff :
    (∃ e, ofEnvironment (some text) = .error e) ↔ IsMisleading (Folded.fold text) := by
  rw [ofEnvironment_some]
  constructor
  · rintro ⟨e, refused⟩
    rcases ofText_cases text with misleading | ⟨level, means⟩ | nothing
    · exact misleading
    · rw [ofText_of_means means] at refused
      cases refused
    · rw [nothing] at refused
      cases refused
  · exact ofText_of_misleading

theorem ofEnvironment_level_iff :
    ofEnvironment (some text) = .ok (some level) ↔ Means (Folded.fold text) level := by
  rw [ofEnvironment_some]
  constructor
  · intro found
    rcases ofText_cases text with misleading | ⟨other, means⟩ | nothing
    · obtain ⟨e, refused⟩ := ofText_of_misleading misleading
      rw [refused] at found
      cases found
    · rw [ofText_of_means means] at found
      cases found
      exact means
    · rw [nothing] at found
      cases found
  · exact ofText_of_means

end Texts
end Shapewright.Diagnostics
