import Shapewright.Proofs.Result
import Shapewright.Text.Utf8

/-!
# Reading back UTF-8

The octets of a text are read back as the text.
-/
namespace Shapewright.Utf8
open Result

/-- The octets of a text. -/
def encode (text : String) : List UInt8 := text.toList.flatMap String.utf8EncodeChar

/-- An octet within a sequence, after the first one. -/
def IsTail (n : Nat) : Prop := 0x80 ≤ n ∧ n ≤ 0xBF

theorem start?_two {n next : Nat} (h : 0xC2 ≤ n ∧ n ≤ 0xDF) (tail : IsTail next) :
    ∃ s, start? n = some s ∧ s.accepts next ∧ s.value = n - 0xC0 ∧ s.missing = 1 :=
  ⟨_, if_pos h, by simp [Sequence.accepts, tail.1, tail.2], rfl, rfl⟩

/-- The second octet may not make a sequence longer than needed or half of a surrogate pair. -/
theorem start?_three {n next : Nat} (h : 0xE0 ≤ n ∧ n ≤ 0xEF) (tail : IsTail next)
    (least : n = 0xE0 → 0xA0 ≤ next) (whole : n = 0xED → next ≤ 0x9F) :
    ∃ s, start? n = some s ∧ s.accepts next ∧ s.value = n - 0xE0 ∧ s.missing = 2 := by
  obtain ⟨low, high⟩ := tail
  unfold start?
  split
  · omega
  split
  · next e0 => exact ⟨_, rfl, by simp [Sequence.accepts, least e0, high], by simp [e0], rfl⟩
  split
  · next ed => exact ⟨_, rfl, by simp [Sequence.accepts, low, whole ed], by simp [ed], rfl⟩
  · exact ⟨_, if_pos ⟨by omega, h.2⟩, by simp [Sequence.accepts, low, high], rfl, rfl⟩

/-- The second octet may not make a sequence longer than needed or its value too large. -/
theorem start?_four {n next : Nat} (h : 0xF0 ≤ n ∧ n ≤ 0xF4) (tail : IsTail next)
    (least : n = 0xF0 → 0x90 ≤ next) (most : n = 0xF4 → next ≤ 0x8F) :
    ∃ s, start? n = some s ∧ s.accepts next ∧ s.value = n - 0xF0 ∧ s.missing = 3 := by
  obtain ⟨low, high⟩ := tail
  have long : ¬ (0xC2 ≤ n ∧ n ≤ 0xDF) ∧ n ≠ 0xE0 ∧ n ≠ 0xED ∧ ¬ (0xE1 ≤ n ∧ n ≤ 0xEF) := by omega
  simp only [start?, long, if_false]
  split
  · next f0 => exact ⟨_, rfl, by simp [Sequence.accepts, least f0, high], by simp [f0], rfl⟩
  split
  · next f4 => exact ⟨_, rfl, by simp [Sequence.accepts, low, most f4], by simp [f4], rfl⟩
  · exact ⟨_, if_pos (by omega), by simp [Sequence.accepts, low, high], rfl, rfl⟩

theorem Sequence.accepts_add (s : Sequence) (b : Nat) {next : Nat} (tail : IsTail next) :
    (s.add b).accepts next := by
  simp [Sequence.accepts, Sequence.add, tail.1, tail.2]

section Steps
variable {s : Sequence} {b : UInt8} (accepted : s.accepts b.toNat) (position : Nat)
  (bs : List UInt8)
include accepted

theorem decodeFrom_more (more : 1 < s.missing) :
    decodeFrom position (some s) (b :: bs) =
      decodeFrom (position + 1) (some (s.add b.toNat)) bs := by
  have notDone : (s.add b.toNat).missing ≠ 0 := by
    simp only [Sequence.add]
    omega
  simp only [decodeFrom, accepted, if_true, notDone, if_false]

theorem decodeFrom_last (last : s.missing = 1) :
    decodeFrom position (some s) (b :: bs) =
      (decodeFrom (position + 1) none bs).map
        (Char.ofNat (64 * s.value + (b.toNat - 0x80)) :: ·) := by
  have done : (s.add b.toNat).missing = 0 := by simp [Sequence.add, last]
  simp only [decodeFrom, accepted, if_true, done]
  rfl

end Steps

theorem toNat_ofNat {n : Nat} (h : n < 256) : (UInt8.ofNat n).toNat = n := by
  rw [UInt8.toNat_ofNat', Nat.mod_eq_of_lt h]

theorem decodeFrom_start {b : UInt8} {s : Sequence} (started : start? b.toNat = some s)
    (large : 0x80 ≤ b.toNat) (position : Nat) (bs : List UInt8) :
    decodeFrom position none (b :: bs) = decodeFrom (position + 1) (some s) bs := by
  have notSmall : ¬ b < 0x80 := by
    rw [UInt8.lt_iff_toNat_lt]
    exact Nat.not_lt.mpr large
  simp only [decodeFrom, notSmall, if_false, started]

theorem toNat_tail (n : Nat) : (UInt8.ofNat (n % 64 + 0x80)).toNat = n % 64 + 0x80 :=
  toNat_ofNat (by omega)

theorem isTail_tail (n : Nat) : IsTail (UInt8.ofNat (n % 64 + 0x80)).toNat := by
  rw [IsTail, toNat_tail]
  omega

section Chars
variable {n : Nat} (position : Nat) (bs : List UInt8)

theorem decodeFrom_one (h : n ≤ 0x7F) :
    decodeFrom position none (UInt8.ofNat n :: bs) =
      (decodeFrom (position + 1) none bs).map (Char.ofNat n :: ·) := by
  have first : (UInt8.ofNat n).toNat = n := toNat_ofNat (by omega)
  have small : UInt8.ofNat n < 0x80 := by
    rw [UInt8.lt_iff_toNat_lt, first]
    exact Nat.lt_succ_of_le h
  rw [decodeFrom, if_pos small, first]

theorem decodeFrom_two (h : 0x7F < n ∧ n ≤ 0x7FF) :
    decodeFrom position none (UInt8.ofNat (n / 64 % 32 + 0xC0) ::
        UInt8.ofNat (n % 64 + 0x80) :: bs) =
      (decodeFrom (position + 1 + 1) none bs).map (Char.ofNat n :: ·) := by
  have first : (UInt8.ofNat (n / 64 % 32 + 0xC0)).toNat = n / 64 + 0xC0 := by
    rw [toNat_ofNat (by omega)]
    omega
  obtain ⟨s, started, accepted, lead, missing⟩ :=
    start?_two (n := n / 64 + 0xC0) (by omega) (isTail_tail n)
  have whole : 64 * s.value + (n % 64 + 0x80 - 0x80) = n := by omega
  rw [← first] at started
  rw [decodeFrom_start started (by omega), decodeFrom_last accepted _ _ missing, toNat_tail, whole]

theorem decodeFrom_three (h : 0x7FF < n ∧ n ≤ 0xFFFF) (noSurrogate : n < 0xD800 ∨ 0xDFFF < n) :
    decodeFrom position none (UInt8.ofNat (n / 4096 % 16 + 0xE0) ::
        UInt8.ofNat (n / 64 % 64 + 0x80) :: UInt8.ofNat (n % 64 + 0x80) :: bs) =
      (decodeFrom (position + 1 + 1 + 1) none bs).map (Char.ofNat n :: ·) := by
  have first : (UInt8.ofNat (n / 4096 % 16 + 0xE0)).toNat = n / 4096 + 0xE0 := by
    rw [toNat_ofNat (by omega)]
    omega
  have second := toNat_tail (n / 64)
  obtain ⟨s, started, accepted, lead, missing⟩ :=
    start?_three (n := n / 4096 + 0xE0) (by omega) (isTail_tail (n / 64)) (by omega) (by omega)
  have last := s.accepts_add (UInt8.ofNat (n / 64 % 64 + 0x80)).toNat (isTail_tail n)
  have whole : 64 * (s.add (n / 64 % 64 + 0x80)).value + (n % 64 + 0x80 - 0x80) = n := by
    simp only [Sequence.add]
    omega
  rw [← first] at started
  rw [decodeFrom_start started (by omega), decodeFrom_more accepted _ _ (by omega),
    decodeFrom_last last _ _ (by simp [Sequence.add, missing])]
  simp only [toNat_tail, whole]

theorem decodeFrom_four (h : 0xFFFF < n ∧ n < 0x110000) :
    decodeFrom position none (UInt8.ofNat (n / 262144 % 8 + 0xF0) ::
        UInt8.ofNat (n / 4096 % 64 + 0x80) :: UInt8.ofNat (n / 64 % 64 + 0x80) ::
        UInt8.ofNat (n % 64 + 0x80) :: bs) =
      (decodeFrom (position + 1 + 1 + 1 + 1) none bs).map (Char.ofNat n :: ·) := by
  have first : (UInt8.ofNat (n / 262144 % 8 + 0xF0)).toNat = n / 262144 + 0xF0 := by
    rw [toNat_ofNat (by omega)]
    omega
  have second := toNat_tail (n / 4096)
  obtain ⟨s, started, accepted, lead, missing⟩ :=
    start?_four (n := n / 262144 + 0xF0) (by omega) (isTail_tail (n / 4096)) (by omega) (by omega)
  have inner := s.accepts_add (UInt8.ofNat (n / 4096 % 64 + 0x80)).toNat (isTail_tail (n / 64))
  have last := (s.add (UInt8.ofNat (n / 4096 % 64 + 0x80)).toNat).accepts_add
    (UInt8.ofNat (n / 64 % 64 + 0x80)).toNat (isTail_tail n)
  have whole : 64 * ((s.add (n / 4096 % 64 + 0x80)).add (n / 64 % 64 + 0x80)).value +
      (n % 64 + 0x80 - 0x80) = n := by
    simp only [Sequence.add]
    omega
  rw [← first] at started
  rw [decodeFrom_start started (by omega), decodeFrom_more accepted _ _ (by omega),
    decodeFrom_more inner _ _ (by simp [Sequence.add, missing]),
    decodeFrom_last last _ _ (by simp [Sequence.add, missing])]
  simp only [toNat_tail, whole]

/-- The octets of one character are read back as that character. -/
theorem decodeFrom_char (c : Char) :
    ∃ behind, decodeFrom position none (String.utf8EncodeChar c ++ bs) =
      (decodeFrom behind none bs).map (c :: ·) := by
  obtain ⟨n, value⟩ : ∃ n, c.val.toNat = n := ⟨_, rfl⟩
  have char : Char.ofNat n = c := value ▸ Char.ofNat_toNat c
  have valid : n < 0xD800 ∨ 0xDFFF < n ∧ n < 0x110000 := value ▸ c.valid
  simp only [String.utf8EncodeChar, value]
  rw [← char]
  split
  · next one => exact ⟨_, decodeFrom_one position bs one⟩
  split
  · next two => exact ⟨_, decodeFrom_two position bs ⟨by omega, two⟩⟩
  split
  · next three => exact ⟨_, decodeFrom_three position bs ⟨by omega, three⟩ (by omega)⟩
  · next four => exact ⟨_, decodeFrom_four position bs ⟨by omega, by omega⟩⟩

end Chars

theorem decode_encode (text : String) : decode (encode text) = .ok text := by
  have chars : ∀ (cs : List Char) (position : Nat),
      decodeFrom position none (cs.flatMap String.utf8EncodeChar) = .ok cs := by
    intro cs
    induction cs with
    | nil => exact fun _ => rfl
    | cons c cs ih =>
      intro position
      obtain ⟨behind, read⟩ := decodeFrom_char position (cs.flatMap String.utf8EncodeChar) c
      rw [List.flatMap_cons, read, ih]
      rfl
  rw [decode, encode, chars]
  exact congrArg Except.ok String.ofList_toList

end Shapewright.Utf8
