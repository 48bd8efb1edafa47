import Shapewright.Json.Reader
import Shapewright.Proofs.Result

/-!
# What is read

A property of values that holds of everything a text can directly give, and that arrays and objects
pass on, holds of every value that is read.
-/
namespace Shapewright.Json
open Result

/-- The property `P` of values holds as far as they are read, if the texts in
them have the property `T`. -/
structure Kept (T : Text → Prop) (P : Json → Prop) : Prop where
  text : ∀ {cs rest t}, readString cs = .ok (t, rest) → T t
  literal : ∀ l ∈ literals, P l.2
  integer : ∀ n, P (.integer n)
  double : ∀ x, P (.double x)
  string : ∀ {t}, T t → P (.string t)
  array : ∀ {items : List Json}, (∀ item ∈ items, P item) → P (.array items)
  object : ∀ {fields : List (Text × Json)}, (∀ field ∈ fields, T field.1 ∧ P field.2) →
    P (.object (Entries.ofList fields))

section Kept
variable {T : Text → Prop} {P : Json → Prop} (kept : Kept T P)
include kept

theorem Kept.readLiteral? {cs rest : List Char} {value : Json}
    (h : readLiteral? cs = some (value, rest)) :
    P value := by
  obtain ⟨⟨word, literal⟩, inside, found⟩ := List.exists_of_findSome?_eq_some h
  obtain ⟨after, -, same⟩ := Option.map_eq_some_iff.mp found
  cases same
  exact kept.literal _ inside

theorem Kept.readNumber? {cs rest : List Char} {value : Json}
    (h : readNumber? cs = some (.ok value, rest)) :
    P value := by
  unfold Json.readNumber? at h
  split at h
  next negative body _ =>
    extract_lets whole at h
    split at h
    · cases h
    · split at h
      next fraction afterFraction _ =>
        split at h
        next exponent afterExponent _ =>
          split at h
          · split at h <;> cases h
            exact kept.integer _
          · cases h
            exact kept.double _

end Kept

/-- What values, items and fields read with some fuel are made of. -/
structure Reads (T : Text → Prop) (P : Json → Prop) (fuel : Nat) : Prop where
  value : ∀ {cs rest value}, readValue fuel cs = .ok (value, rest) → P value
  items : ∀ {cs rest items}, readItems fuel cs = .ok (items, rest) → ∀ item ∈ items, P item
  fields : ∀ {cs rest fields}, readFields fuel cs = .ok (fields, rest) →
    ∀ field ∈ fields, T field.1 ∧ P field.2

section Reads
variable {T : Text → Prop} {P : Json → Prop}

theorem Reads.zero : Reads T P 0 where
  value h := by simp [readValue, failAt] at h
  items h := by simp [readItems, failAt] at h
  fields h := by simp [readFields, failAt] at h

section Succ
variable {fuel : Nat} (ih : Reads T P fuel) {cs rest : List Char}
include ih

theorem Reads.items_succ {items : List Json} (h : readItems (fuel + 1) cs = .ok (items, rest)) :
    ∀ item ∈ items, P item := by
  rw [readItems] at h
  obtain ⟨⟨item, after⟩, read, h⟩ := bind_eq_ok.mp h
  dsimp only at h
  split at h
  · cases h
    simpa using ih.value read
  · obtain ⟨⟨others, afterOthers⟩, readOthers, same⟩ := bind_eq_ok.mp h
    cases same
    exact List.forall_mem_cons.mpr ⟨ih.value read, ih.items readOthers⟩
  · simp [failAt] at h

variable (kept : Kept T P)
include kept

theorem Reads.value_succ {value : Json} (h : readValue (fuel + 1) cs = .ok (value, rest)) :
    P value := by
  rw [readValue.eq_def] at h
  dsimp only at h
  split at h
  · obtain ⟨⟨text, after⟩, read, same⟩ := bind_eq_ok.mp h
    cases same
    exact kept.string (kept.text read)
  · split at h
    · cases h
      exact kept.object fun _ inside => absurd inside List.not_mem_nil
    · obtain ⟨⟨fields, after⟩, read, same⟩ := bind_eq_ok.mp h
      cases same
      exact kept.object (ih.fields read)
  · split at h
    · cases h
      exact kept.array fun _ inside => absurd inside List.not_mem_nil
    · obtain ⟨⟨items, after⟩, read, same⟩ := bind_eq_ok.mp h
      cases same
      exact kept.array (ih.items read)
  · split at h
    · next found =>
      cases h
      exact kept.readLiteral? found
    · split at h
      · next found =>
        obtain ⟨number, read, same⟩ := bind_eq_ok.mp h
        cases same
        cases read
        exact kept.readNumber? found
      · simp [failAt] at h

theorem Reads.fields_succ {fields : List (Text × Json)}
    (h : readFields (fuel + 1) cs = .ok (fields, rest)) :
    ∀ field ∈ fields, T field.1 ∧ P field.2 := by
  rw [readFields.eq_def] at h
  dsimp only at h
  split at h
  · obtain ⟨⟨key, afterKey⟩, readKey, h⟩ := bind_eq_ok.mp h
    have keyed := kept.text readKey
    dsimp only at h
    split at h
    · obtain ⟨⟨value, after⟩, read, h⟩ := bind_eq_ok.mp h
      dsimp only at h
      split at h
      · cases h
        simpa using ⟨keyed, ih.value read⟩
      · obtain ⟨⟨others, afterOthers⟩, readOthers, same⟩ := bind_eq_ok.mp h
        cases same
        exact List.forall_mem_cons.mpr ⟨⟨keyed, ih.value read⟩, ih.fields readOthers⟩
      · simp [failAt] at h
    · simp [failAt] at h
  · simp [failAt] at h

theorem Reads.succ : Reads T P (fuel + 1) :=
  ⟨value_succ ih kept, items_succ ih, fields_succ ih kept⟩

end Succ

theorem Kept.reads (kept : Kept T P) (fuel : Nat) : Reads T P fuel := by
  induction fuel with
  | zero => exact .zero
  | succ fuel ih => exact ih.succ kept

/-- Every value that a text holds has the property. -/
theorem Kept.read (kept : Kept T P) {text : String} {value : Json}
    (h : Json.read text = .ok value) : P value := by
  simp only [Json.read] at h
  split at h
  · next checked =>
    cases h
    simp only [readChecked] at checked
    split at checked
    · cases checked
    · obtain ⟨-, -, checked⟩ := bind_eq_ok.mp checked
      obtain ⟨⟨value, rest⟩, readIt, checked⟩ := bind_eq_ok.mp checked
      dsimp only at checked
      split at checked <;> cases checked
      exact (kept.reads _).value readIt
  · cases h
  · cases h

end Reads
end Shapewright.Json
