import Mathlib.Tactic.Tauto
import Shapewright.Proofs.Text.Hex
import Shapewright.Proofs.Toml.Numbers
import Shapewright.Toml.Printer

/-!
# Reading back values

Strings, flags, natural numbers and lists as the printer writes them are read back as themselves,
with whatever follows them left over. What is written of them holds no control character.
-/
namespace Shapewright.Toml
open Decimal Result

/-- The text is read as the value, whatever follows it. Values are nested in it at
most as deep as `nesting`. -/
def ReadsAs (nesting : Nat) (text : List Char) (v : Value) : Prop :=
  ∀ rest, Follows rest → ∀ fuel depth, text.length ≤ fuel → nesting ≤ depth →
    readValue (fuel + 1) depth (text ++ rest) = .ok (v, rest)

/-- How a value is written: in a text that is read back and begins with nothing that would be
skipped. -/
structure Written (nesting : Nat) (text : List Char) (v : Value) : Prop where
  read : ReadsAs nesting text v
  led : ∃ c cs, text = c :: cs ∧ c ∉ [' ', '\t', '\n', '#', ']']

/-- The text stays on its line. -/
def IsCalm (text : List Char) : Prop := ∀ c ∈ text, isControl c = false

section Strings

theorem basicEscape_cases (c : Char) :
    (∃ e, simpleEscape? e = some c ∧ basicEscape c = ['\\', e]) ∨
      (c.toNat < 0x80 ∧ basicEscape c = '\\' :: 'u' :: Hex.padded 4 c.toNat) ∨
      (c ≠ '"' ∧ c ≠ '\\' ∧ isControl c = false ∧ basicEscape c = [c]) := by
  unfold basicEscape
  split
  · exact .inl ⟨'"', rfl, rfl⟩
  · exact .inl ⟨'\\', rfl, rfl⟩
  · exact .inl ⟨'b', rfl, rfl⟩
  · exact .inl ⟨'t', rfl, rfl⟩
  · exact .inl ⟨'n', rfl, rfl⟩
  · exact .inl ⟨'f', rfl, rfl⟩
  · exact .inl ⟨'r', rfl, rfl⟩
  · next notQuote notSlash _ _ _ _ _ =>
    split
    · next control =>
      simp only [Bool.or_eq_true, decide_eq_true_eq] at control
      exact .inr (.inl ⟨by omega, rfl⟩)
    · next plain =>
      simp only [Bool.or_eq_true, decide_eq_true_eq, not_or] at plain
      exact .inr (.inr ⟨notQuote, notSlash, by simp [isControl, plain], rfl⟩)

/-- One character of a string is read back, and the rest of the string after it. -/
theorem readText_basicEscape (fuel : Nat) (c : Char) (cs : List Char) :
    readText false true '"' (fuel + 1) (basicEscape c ++ cs) =
      readText false true '"' fuel cs >>= fun (text, after) => .ok (c :: text, after) := by
  rcases basicEscape_cases c
    with ⟨e, simple, written⟩ | ⟨small, written⟩ | ⟨notQuote, notSlash, plain, written⟩
  · rw [written]
    simp [readText, readEscape, simple]
  · have four := Hex.length_padded 4 c.toNat
    have enough : ¬ 4 + cs.length < 4 := by omega
    have value : codePoint? (Hex.padded 4 c.toNat) = some c := by
      rw [codePoint?, Hex.valueOf?_padded (by omega)]
      simp
      omega
    rw [written]
    simp [readText, readEscape, simpleEscape?, four, enough, value]
  · rw [written]
    simp [readText, notQuote, notSlash, plain]

theorem readText_escaped (cs rest : List Char) {fuel : Nat} (enough : cs.length < fuel) :
    readText false true '"' fuel (cs.flatMap basicEscape ++ '"' :: rest) = .ok (cs, rest) := by
  induction cs generalizing fuel with
  | nil =>
    cases fuel with
    | zero => cases enough
    | succ fuel => simp [readText]
  | cons c cs ih =>
    cases fuel with
    | zero => cases enough
    | succ fuel =>
      rw [List.flatMap_cons, List.append_assoc, readText_basicEscape,
        ih (Nat.lt_of_succ_lt_succ enough), ok_bind]

theorem basicEscape_head (c : Char) : ∃ d ds, basicEscape c = d :: ds ∧ d ≠ '"' := by
  rcases basicEscape_cases c with ⟨e, -, written⟩ | ⟨-, written⟩ | ⟨notQuote, -, -, written⟩
  · exact ⟨'\\', _, written, by decide⟩
  · exact ⟨'\\', _, written, by decide⟩
  · exact ⟨c, _, written, notQuote⟩

theorem length_le_escaped (cs : List Char) : cs.length ≤ (cs.flatMap basicEscape).length := by
  induction cs with
  | nil => exact Nat.zero_le _
  | cons c cs ih =>
    obtain ⟨d, ds, written, -⟩ := basicEscape_head c
    simp only [List.flatMap_cons, written, List.length_append, List.length_cons]
    omega

theorem toList_quoted (s : String) :
    (quoted s).toList = '"' :: (s.toList.flatMap basicEscape ++ ['"']) := by
  simp [quoted]

theorem readString_quoted (s : String) {rest : List Char} (follows : Follows rest) :
    readString '"' ((quoted s).toList ++ rest) = .ok ((s, false), rest) := by
  rw [toList_quoted]
  cases hs : s.toList with
  | nil =>
    obtain rfl : s = "" := String.toList_inj.mp hs
    obtain ⟨c, cs, rfl, ends⟩ := follows
    have notQuote : c ≠ '"' := by
      rintro rfl
      simp at ends
    simp [readString, notQuote]
  | cons c cs =>
    obtain ⟨d, ds, written, notQuote⟩ := basicEscape_head c
    obtain ⟨e, more, body⟩ :
        ∃ e more, (c :: cs).flatMap basicEscape ++ '"' :: rest = d :: e :: more := by
      rw [List.flatMap_cons, written, List.cons_append, List.cons_append]
      obtain ⟨e, more, tail⟩ := List.exists_cons_of_ne_nil
        (List.append_ne_nil_of_right_ne_nil (ds ++ cs.flatMap basicEscape)
          (List.cons_ne_nil '"' rest))
      exact ⟨e, more, by rw [tail]⟩
    have enough : (c :: cs).length < ('"' :: d :: e :: more).length + 1 := by
      have longer := length_le_escaped (c :: cs)
      rw [← body]
      simp only [List.length_cons, List.length_append] at longer ⊢
      omega
    have read := readText_escaped (c :: cs) rest enough
    simp only [body, List.length_cons] at read
    rw [List.cons_append, List.append_assoc, List.singleton_append, body]
    simp [readString, notQuote, read, ← hs]

theorem calm_simpleEscape {e c : Char} (h : simpleEscape? e = some c) : isControl e = false := by
  unfold simpleEscape? at h
  split at h
  all_goals first | rfl | cases h

theorem calm_basicEscape (c : Char) : IsCalm (basicEscape c) := by
  rcases basicEscape_cases c with ⟨e, escape, written⟩ | ⟨small, written⟩ | ⟨-, -, plain, written⟩
  · simp only [IsCalm, written, List.mem_cons, List.not_mem_nil, or_false, forall_eq_or_imp,
      forall_eq]
    exact ⟨rfl, calm_simpleEscape escape⟩
  · have digits := Hex.forall_mem_padded (P := fun d => isControl d = false) (by decide) 4 c.toNat
    simp only [IsCalm, written, List.mem_cons, forall_eq_or_imp]
    exact ⟨rfl, rfl, digits⟩
  · simpa [IsCalm, written] using plain

theorem written_string (nesting : Nat) (s : String) :
    Written nesting (quoted s).toList (.string s) where
  read rest follows fuel depth _ _ := by
    have read := readString_quoted s follows
    rw [toList_quoted, List.cons_append] at read ⊢
    rw [readValue, read]
    rfl
  led := ⟨'"', _, toList_quoted s, by decide⟩

theorem calm_string (s : String) : IsCalm (quoted s).toList := by
  intro c hc
  rw [toList_quoted] at hc
  simp only [List.mem_cons, List.mem_append, List.mem_flatMap, List.not_mem_nil, or_false] at hc
  rcases hc with rfl | ⟨d, -, inside⟩ | rfl
  · rfl
  · exact calm_basicEscape d c inside
  · rfl

end Strings

theorem written_integer {n : Nat} (few : (Nat.toDigits 10 n).length ≤ maxDigits) (nesting : Nat) :
    Written nesting (toString (n : Int)).toList (.integer n) where
  read rest follows fuel depth _ _ := by
    have digits := areDigits_toDigits n
    have read := readWord_digits digits few follows
    rw [ofDigits_toDigits] at read
    rw [toList_integer, readValue, read]
    all_goals
      intros
      exact digits.not_led rfl ‹_›
  led := by
    have digits := areDigits_toDigits n
    obtain ⟨d, ds, front⟩ := List.exists_cons_of_ne_nil digits.filled
    have digit : isDigit d := digits.all d (front ▸ List.mem_cons_self)
    refine ⟨d, ds, by rw [toList_integer, front], ?_⟩
    simp [ne_of_isDigit digit (d := ' ') rfl, ne_of_isDigit digit (d := '\t') rfl,
      ne_of_isDigit digit (d := '\n') rfl, ne_of_isDigit digit (d := '#') rfl,
      ne_of_isDigit digit (d := ']') rfl]

theorem calm_integer (n : Nat) : IsCalm (toString (n : Int)).toList := by
  intro c hc
  rw [toList_integer] at hc
  exact (isDigit_kept ((areDigits_toDigits n).all c hc)).2.2.2.2

theorem written_boolean (nesting : Nat) (b : Bool) :
    Written nesting (if b then "true" else "false").toList (.boolean b) where
  read rest _ fuel depth _ _ := by
    cases b with
    | true =>
      change readValue (fuel + 1) depth ('t' :: 'r' :: 'u' :: 'e' :: rest) = _
      rw [readValue]
    | false =>
      change readValue (fuel + 1) depth ('f' :: 'a' :: 'l' :: 's' :: 'e' :: rest) = _
      rw [readValue]
  led := by cases b <;> exact ⟨_, _, rfl, by decide⟩

theorem calm_boolean (b : Bool) : IsCalm (if b then "true" else "false").toList := by
  cases b <;> simp [IsCalm, isControl]

section Lists

theorem skipFiller_led {c : Char} (h : c ∉ [' ', '\t', '\n', '#']) (cs : List Char) :
    skipFiller false (c :: cs) = .ok (c :: cs) := by
  simp only [List.mem_cons, List.not_mem_nil, or_false, not_or] at h
  simp [skipFiller, isBlank, h]

/-- An item is read, and then what closes the list or the items behind a comma. -/
theorem readItems_item {nesting : Nat} {text : List Char} {v : Value}
    (written : Written nesting text v) {rest : List Char} (follows : Follows rest)
    {fuel depth : Nat} (enough : text.length < fuel) (deep : nesting ≤ depth) :
    readItems (fuel + 1) depth (text ++ rest) = skipFiller false rest >>= fun
      | ']' :: rest => .ok ([v], rest)
      | ',' :: rest => readItems fuel depth rest >>= fun (items, rest) => .ok (v :: items, rest)
      | _ => malformed := by
  obtain ⟨c, cs, rfl, plain⟩ := written.led
  obtain ⟨fuel, rfl⟩ := Nat.exists_eq_succ_of_ne_zero (Nat.ne_zero_of_lt enough)
  have read := written.read rest follows fuel depth (Nat.le_of_lt_succ enough) deep
  have filler : skipFiller false (c :: cs ++ rest) = .ok (c :: cs ++ rest) := by
    refine skipFiller_led (fun inside => plain ?_) _
    simp only [List.mem_cons, List.not_mem_nil, or_false] at inside ⊢
    tauto
  have apart : c ≠ ']' := fun closed => plain (by simp [closed])
  rw [readItems, filler, ok_bind]
  split
  · next closed => exact absurd (List.cons.inj closed).1 apart
  · rw [read, ok_bind]
    rfl

/-- The text between the brackets of a list. -/
def itemsText (vs : List Value) : String := ", ".intercalate (itemTexts vs)

theorem toList_itemsText_cons_cons (v w : Value) (vs : List Value) :
    (itemsText (v :: w :: vs)).toList =
      (inlineText true v).toList ++ ',' :: ' ' :: (itemsText (w :: vs)).toList := by
  simp [itemsText, itemTexts, String.intercalate_cons_cons]

theorem readItems_blank (fuel depth : Nat) (cs : List Char) :
    readItems (fuel + 1) depth (' ' :: cs) = readItems (fuel + 1) depth cs := by
  have skipped : skipFiller false (' ' :: cs) = skipFiller false cs := by simp [skipFiller, isBlank]
  rw [readItems, skipped, readItems]

theorem readItems_written {nesting : Nat} {vs : List Value}
    (each : ∀ v ∈ vs, Written nesting (inlineText true v).toList v) (rest : List Char) (fuel : Nat)
    {depth : Nat} (enough : (itemsText vs).toList.length < fuel) (deep : nesting ≤ depth) :
    readItems (fuel + 1) depth ((itemsText vs).toList ++ ']' :: rest) = .ok (vs, rest) := by
  induction vs generalizing fuel with
  | nil => simp [itemsText, itemTexts, readItems, skipFiller, isBlank]
  | cons v vs ih =>
    have first := each v List.mem_cons_self
    cases vs with
    | nil =>
      have closing : skipFiller false (']' :: rest) = .ok (']' :: rest) :=
        skipFiller_led (by decide) rest
      simp only [itemsText, itemTexts, String.intercalate_singleton] at enough ⊢
      rw [readItems_item first ⟨']', rest, rfl, by decide⟩ enough deep, closing]
      rfl
    | cons w vs =>
      obtain ⟨fuel, rfl⟩ := Nat.exists_eq_succ_of_ne_zero (Nat.ne_zero_of_lt enough)
      rw [toList_itemsText_cons_cons] at enough ⊢
      simp only [List.length_append, List.length_cons] at enough
      have comma : skipFiller false (',' :: ' ' :: ((itemsText (w :: vs)).toList ++ ']' :: rest)) =
          .ok _ :=
        skipFiller_led (by decide) _
      have others := ih (fun v inside => each v (List.mem_cons_of_mem _ inside)) fuel (by omega)
      rw [List.append_assoc, List.cons_append, List.cons_append,
        readItems_item first ⟨',', _, rfl, by decide⟩ (by omega) deep, comma, ok_bind]
      simp only [readItems_blank, others, ok_bind]

theorem calm_itemsText {vs : List Value} (each : ∀ v ∈ vs, IsCalm (inlineText true v).toList) :
    IsCalm (itemsText vs).toList := by
  induction vs with
  | nil => exact fun c inside => absurd inside (by simp [itemsText, itemTexts])
  | cons v vs ih =>
    have first := each v List.mem_cons_self
    cases vs with
    | nil => simpa [itemsText, itemTexts] using first
    | cons w vs =>
      rw [toList_itemsText_cons_cons]
      refine List.forall_mem_append.mpr ⟨first,
        List.forall_mem_cons.mpr ⟨rfl, List.forall_mem_cons.mpr ⟨rfl, ?_⟩⟩⟩
      exact ih fun v inside => each v (List.mem_cons_of_mem _ inside)

theorem toList_array (top : Bool) (vs : List Value) :
    (inlineText top (.array vs)).toList = '[' :: ((itemsText vs).toList ++ [']']) := by
  simp [inlineText, itemsText]

theorem written_array (nesting : Nat) {vs : List Value}
    (each : ∀ v ∈ vs, Written nesting (inlineText true v).toList v) (top : Bool) :
    Written (nesting + 1) (inlineText top (.array vs)).toList (.array vs) where
  read rest follows fuel depth enough deep := by
    obtain ⟨depth, rfl⟩ :=
      Nat.exists_eq_add_one.mpr (Nat.lt_of_lt_of_le (Nat.succ_pos nesting) deep)
    rw [toList_array] at enough ⊢
    simp only [List.length_append, List.length_cons, List.length_nil] at enough
    obtain ⟨fuel, rfl⟩ := Nat.exists_eq_succ_of_ne_zero (n := fuel) (by omega)
    have read := readItems_written each rest fuel (by omega) (Nat.le_of_succ_le_succ deep)
    rw [List.cons_append, List.append_assoc, List.singleton_append, readValue, read]
    rfl
  led := ⟨'[', _, toList_array top vs, by decide⟩

theorem calm_array {vs : List Value} (each : ∀ v ∈ vs, IsCalm (inlineText true v).toList)
    (top : Bool) :
    IsCalm (inlineText top (.array vs)).toList := by
  rw [toList_array]
  exact List.forall_mem_cons.mpr ⟨rfl,
    List.forall_mem_append.mpr ⟨calm_itemsText each, by simp [isControl]⟩⟩

end Lists
end Shapewright.Toml
