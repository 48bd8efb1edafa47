import Mathlib.Data.List.TakeWhile
import Shapewright.Proofs.Number.Decimal
import Shapewright.Proofs.Result
import Shapewright.Toml.Reader

/-!
# Reading digits

Digits as a natural number is written in them are no date and no time, and they are read as the
number.
-/
namespace Shapewright.Toml
open Decimal

/-- What may follow a value: the end of a line, or what separates or closes items. -/
def Follows (rest : List Char) : Prop := ∃ c cs, rest = c :: cs ∧ c ∈ ['\n', ',', ']']

/-- The digits of a number as it is written: no other sign, and no zero at the start. -/
structure AreDigits (ds : List Char) : Prop where
  filled : ds ≠ []
  all : ∀ c ∈ ds, isDigit c
  led : ∀ c rest, ds ≠ '0' :: c :: rest

theorem ne_of_isDigit {c d : Char} (h : isDigit c) (other : isDigit d = false) : c ≠ d := by
  rintro rfl
  rw [other] at h
  cases h

/-- A plain digit is kept by everything that a number passes through. -/
theorem isDigit_kept {c : Char} (h : isDigit c) :
    plain c = c ∧ c.toLower = c ∧ isPadding c = false ∧ endsWord c = false ∧
      isControl c = false := by
  have all : ∀ n < 58, 48 ≤ n →
      plain (Char.ofNat n) = Char.ofNat n ∧ (Char.ofNat n).toLower = Char.ofNat n ∧
      isPadding (Char.ofNat n) = false ∧ endsWord (Char.ofNat n) = false ∧
      isControl (Char.ofNat n) = false := by decide +kernel
  simp only [isDigit, Bool.and_eq_true, decide_eq_true_eq] at h
  have low : 48 ≤ c.toNat := h.1
  have high : c.toNat ≤ 57 := h.2
  have same := all c.toNat (by omega) low
  rwa [Char.ofNat_toNat] at same

section Digits
variable {ds : List Char} (h : AreDigits ds)
include h

theorem AreDigits.ne {c : Char} (hc : c ∈ ds) {d : Char} (other : isDigit d = false) : c ≠ d :=
  ne_of_isDigit (h.all c hc) other

theorem AreDigits.not_mem {c : Char} (other : isDigit c = false) : c ∉ ds :=
  fun hc => h.ne hc other rfl

/-- No other character comes first. -/
theorem AreDigits.not_led {c : Char} (other : isDigit c = false) {rest more : List Char} :
    ds ++ rest ≠ c :: more := by
  obtain ⟨d, tail, rfl⟩ := List.exists_cons_of_ne_nil h.filled
  intro led
  exact h.ne List.mem_cons_self other (List.cons.inj led).1

theorem AreDigits.not_date : isDate ds = false := by
  unfold isDate
  split
  · exact absurd (by simp) (h.not_mem (c := '-') rfl)
  · rfl

theorem AreDigits.not_time : isTime ds = false := by
  unfold isTime
  split
  · exact absurd (by simp) (h.not_mem (c := ':') rfl)
  · rfl

theorem AreDigits.not_dateTime : isDateTime ds = false := by
  unfold isDateTime
  split
  · next separator time behind =>
    have inside : separator ∈ ds := List.mem_of_mem_drop (behind ▸ List.mem_cons_self)
    have plain : separator ≠ 'T' ∧ separator ≠ 't' ∧ separator ≠ ' ' :=
      ⟨h.ne inside rfl, h.ne inside rfl, h.ne inside rfl⟩
    simp [plain]
  · rfl

theorem AreDigits.takeWhile {rest : List Char} (follows : Follows rest) :
    (ds ++ rest).takeWhile (!endsWord ·) = ds := by
  obtain ⟨c, cs, rfl, ends⟩ := follows
  have stop : endsWord c := by
    simp only [List.mem_cons, List.not_mem_nil, or_false] at ends
    rcases ends with rfl | rfl | rfl <;> rfl
  rw [List.takeWhile_append_of_pos fun d hd => by simp [(isDigit_kept (h.all d hd)).2.2.2.1],
    List.takeWhile_cons_of_neg (by simp [stop]), List.append_nil]

theorem AreDigits.base : base ds = 10 := by
  unfold Toml.base
  split
  · exact absurd (by simp) (h.not_mem (c := 'x') rfl)
  · exact absurd (by simp) (h.not_mem (c := 'o') rfl)
  · exact absurd (by simp) (h.not_mem (c := 'b') rfl)
  · rfl

theorem AreDigits.not_named (negative : Bool) : namedNumber? negative ds = none := by
  have notInf : ds ≠ "inf".toList := by
    rintro rfl
    exact h.not_mem (c := 'i') rfl (by decide)
  have notNan : ds ≠ "nan".toList := by
    rintro rfl
    exact h.not_mem (c := 'n') rfl (by decide)
  rw [namedNumber?, if_neg notInf, if_neg notNan]

theorem AreDigits.not_zeroLed : isZeroLed ds = false := by
  unfold isZeroLed
  split
  · next c rest => exact absurd rfl (h.led c rest)
  · rfl

end Digits
theorem joinDigits_of_not_mem (test : Char → Bool) {cs : List Char} (h : '_' ∉ cs) :
    joinDigits test cs = cs := by
  fun_induction joinDigits test cs with
  | case1 a b rest _ ih => simp at h
  | case2 a b rest _ ih => simp at h
  | case3 c rest _ ih => rw [ih fun inside => h (List.mem_cons_of_mem c inside)]
  | case4 => rfl

theorem plainNumber?_digits {ds : List Char} (h : AreDigits ds) (few : ds.length ≤ maxDigits) :
    plainNumber? false ds = some (.integer (ofDigits ds)) := by
  have all : ds.all isDigit := List.all_eq_true.mpr h.all
  have filled : ds.isEmpty = false := List.isEmpty_eq_false_iff.mpr h.filled
  unfold plainNumber?
  split
  · exact absurd (by simp) (h.not_mem (c := 'x') rfl)
  · exact absurd (by simp) (h.not_mem (c := 'o') rfl)
  · exact absurd (by simp) (h.not_mem (c := 'b') rfl)
  · simp [filled, all, Decimal.read, Nat.not_lt.mpr few, signed]

theorem AreDigits.trimmed {ds : List Char} (h : AreDigits ds) :
    (ds.reverse.dropWhile isPadding).reverse = ds := by
  have kept : ds.reverse.dropWhile isPadding = ds.reverse := by
    refine List.dropWhile_eq_self_iff.mpr fun filled => ?_
    have inside : ds.reverse[0] ∈ ds := List.mem_reverse.mp (List.getElem_mem filled)
    rw [(isDigit_kept (h.all _ inside)).2.2.1]
    exact Bool.false_ne_true
  rw [kept, List.reverse_reverse]

theorem readNumber?_digits {ds : List Char} (h : AreDigits ds) (few : ds.length ≤ maxDigits) :
    readNumber? ds = some (.integer (ofDigits ds)) := by
  have lower : ds.map Char.toLower = ds :=
    (List.map_congr_left fun c hc => (isDigit_kept (h.all c hc)).2.1).trans (List.map_id ds)
  have plain : ds.map plain = ds :=
    (List.map_congr_left fun c hc => (isDigit_kept (h.all c hc)).1).trans (List.map_id ds)
  have noMark : '_' ∉ ds := h.not_mem rfl
  have mantissa : ds.takeWhile (fun c => !decide (c = 'e')) = ds :=
    List.takeWhile_eq_self_iff.mpr fun c hc => by simpa using h.ne hc rfl
  have noPoint : ds.getLast? ≠ some '.' := fun last => h.not_mem rfl (List.mem_of_getLast? last)
  have noHead : ds.head? ≠ some '.' := fun first => h.not_mem rfl (List.mem_of_head? first)
  unfold readNumber?
  split
  next sign body split =>
  obtain ⟨rfl, rfl⟩ : sign = none ∧ body = ds := by
    revert split
    split
    · exact absurd (by simp) (h.not_mem (c := '+') rfl)
    · exact absurd (by simp) (h.not_mem (c := '-') rfl)
    · rintro ⟨⟩
      exact ⟨rfl, rfl⟩
  simp [h.base, h.not_named, h.not_zeroLed, noHead, joinDigits_of_not_mem _ noMark, lower, noMark,
    mantissa, noPoint, h.trimmed, plain, plainNumber?_digits h few]

/-- Nothing but zero itself starts with a zero. -/
theorem toDigits_led (n : Nat) (c : Char) (rest : List Char) :
    Nat.toDigits 10 n ≠ '0' :: c :: rest := by
  induction n using Nat.strongRecOn generalizing c rest with
  | _ n ih =>
    intro led
    rcases Nat.lt_or_ge n 10 with small | large
    · rw [Nat.toDigits_of_lt_base small] at led
      simp at led
    · rw [Nat.toDigits_of_base_le (by decide) large] at led
      have smaller : n / 10 < n := by omega
      cases front : Nat.toDigits 10 (n / 10) with
      | nil => exact Nat.toDigits_ne_nil front
      | cons d ds =>
        rw [front] at led
        obtain rfl : d = '0' := (List.cons.inj led).1
        cases ds with
        | nil =>
          have zero : n / 10 = 0 := by
            rw [← Nat.ofDigitChars_ten_toDigits (n := n / 10), front]
            rfl
          omega
        | cons e es => exact ih _ smaller _ _ front

theorem areDigits_toDigits (n : Nat) : AreDigits (Nat.toDigits 10 n) where
  filled := Nat.toDigits_ne_nil
  all _ := isDigit_of_mem_toDigits
  led := toDigits_led n

theorem toList_integer (n : Nat) : (toString (n : Int)).toList = Nat.toDigits 10 n := by
  change n.repr.toList = _
  exact Nat.toList_repr

/-- Reading takes a number for a date or a time where it is one. -/
theorem readWord_digits {ds : List Char} (h : AreDigits ds) (few : ds.length ≤ maxDigits)
    {rest : List Char} (follows : Follows rest) :
    readWord (ds ++ rest) = .ok (.integer (ofDigits ds), rest) := by
  have raw := h.takeWhile follows
  have first : (ds ++ rest).head?.any fun c => c = '+' || c = '-' || isDigit c := by
    obtain ⟨d, more, rfl⟩ := List.exists_cons_of_ne_nil h.filled
    simp [h.all d List.mem_cons_self]
  have noMoment : readMoment? (ds ++ rest) = none := by
    simp only [readMoment?, raw, h.not_date, h.not_dateTime, h.not_time, Bool.false_eq_true,
      if_false]
  rw [readWord, if_pos first, noMoment]
  simp only [readNumber, raw, readNumber?_digits h few, List.drop_left]

end Shapewright.Toml
