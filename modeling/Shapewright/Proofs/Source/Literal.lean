import Shapewright.Proofs.Result
import Shapewright.Proofs.Text.Hex
import Shapewright.Source.Literal

/-!
# Reading literals

How the body of a regular string literal is read: as units, one element after another, up to the
closing quote. Escaped text is printable ASCII and is read back as the units of the text.
-/
namespace Shapewright

/-- The characters that end a line of the source. -/
def lineEnds : List Char := ['\n', '\r', '\u0085', '\u2028', '\u2029']

def isLineEnd (c : Char) : Bool := lineEnds.contains c

/-- What no line end satisfies tells a character from one. -/
theorem isLineEnd_eq_false {p : Char → Bool} (none : lineEnds.all fun d => !p d) {c : Char}
    (h : p c) :
    isLineEnd c = false := by
  refine Bool.eq_false_iff.mpr fun ends => ?_
  have outside := List.all_eq_true.mp none c (List.contains_iff_mem.mp ends)
  rw [h] at outside
  cases outside

namespace Literal

/-- The unit that a character stands for behind a backslash. -/
def simpleUnit? (c : Char) : Option Nat :=
  match c with
  | '\'' => some 0x27
  | '"' => some 0x22
  | '\\' => some 0x5C
  | '0' => some 0
  | 'a' => some 7
  | 'b' => some 8
  | 'f' => some 12
  | 'n' => some 10
  | 'r' => some 13
  | 't' => some 9
  | 'v' => some 11
  | _ => none

/-- Exactly so many hexadecimal digits. -/
def readDigits (width : Nat) (cs : List Char) : Option (Nat × List Char) :=
  if (cs.take width).length = width then (Hex.valueOf? (cs.take width)).map fun n =>
    (n, cs.drop width)
  else none

/-- One to four hexadecimal digits, as many as there are. -/
def readRun (cs : List Char) : Option (Nat × List Char) :=
  let digits := (cs.take 4).takeWhile fun c => (Hex.value? c).isSome
  if digits.isEmpty then none else (Hex.valueOf? digits).map fun n => (n, cs.drop digits.length)

/-- One element of a literal: a character that stands for itself or an escape. -/
def readElement : List Char → Option (List Nat × List Char)
  | '\\' :: 'u' :: rest => (readDigits 4 rest).map fun (n, rest) => ([n], rest)
  | '\\' :: 'U' :: rest =>
    (readDigits 8 rest).bind fun (n, rest) =>
      if n < 0x110000 then some (Units.ofPoint (.ofNumber n), rest) else none
  | '\\' :: 'x' :: rest => (readRun rest).map fun (n, rest) => ([n], rest)
  | '\\' :: c :: rest => (simpleUnit? c).map fun u => ([u], rest)
  | c :: rest => if c = '\\' || c = '"' || isLineEnd c then none else some (Units.ofChar c, rest)
  | [] => none

/-- The units of a literal up to its closing quote, and what follows the quote. -/
def readBody : Nat → List Char → Option (List Nat × List Char)
  | 0, _ => none
  | _ + 1, '"' :: rest => some ([], rest)
  | fuel + 1, cs => do
    let (units, rest) ← readElement cs
    let (more, rest) ← readBody fuel rest
    return (units ++ more, rest)

/-- A text that is a literal as a whole. -/
def read (text : String) : Option (List Nat) :=
  match text.toList with
  | '"' :: rest =>
    match readBody text.length rest with
    | some (units, []) => some units
    | _ => none
  | _ => none

/-- Printable ASCII. -/
def IsPrintable (cs : List Char) : Prop := ∀ c ∈ cs, 0x20 ≤ c.toNat ∧ c.toNat < 0x7F

theorem printable_padded (width n : Nat) : IsPrintable (Hex.padded width n) :=
  Hex.forall_mem_padded (by decide) width n

theorem printable_escapeUnit (n : Nat) : IsPrintable (escapeUnit n) :=
  List.forall_mem_cons.mpr ⟨by decide, List.forall_mem_cons.mpr ⟨by decide, printable_padded 4 n⟩⟩

theorem printable_units (us : List Nat) : IsPrintable (us.flatMap escapeUnit) := by
  intro c inside
  obtain ⟨u, -, inside⟩ := List.mem_flatMap.mp inside
  exact printable_escapeUnit u c inside

/-- The escapes of one character each. -/
def simpleEscapes : List (Char × Char) := [
  ('\\', '\\'), ('"', '"'), ('\x00', '0'), ('\x07', 'a'), ('\x08', 'b'), ('\x0c', 'f'),
  ('\n', 'n'), ('\r', 'r'), ('\t', 't'), ('\x0b', 'v')]

theorem mem_simpleEscapes {c e : Char} (h : simpleEscape? c = some e) : (c, e) ∈ simpleEscapes := by
  unfold simpleEscape? at h
  split at h <;> cases h <;> simp [simpleEscapes]

theorem printable_escapePoint (p : CodePoint) : IsPrintable (escapePoint p) := by
  cases p with
  | half n => exact printable_units _
  | char c =>
    simp only [escapePoint, escapeChar]
    split
    · next e simple =>
      have all : ∀ s ∈ simpleEscapes, 0x20 ≤ s.2.toNat ∧ s.2.toNat < 0x7F := by decide
      exact List.forall_mem_cons.mpr ⟨by decide, by simpa using all _ (mem_simpleEscapes simple)⟩
    · split
      · next printable =>
        have low : 0x20 ≤ c.toNat := printable.1
        have high : c.toNat ≤ 0x7E := printable.2
        intro d inside
        rw [List.mem_singleton.mp inside]
        omega
      · exact printable_units _

/-- Whatever the text is, it is escaped as printable ASCII. -/
theorem printable_escapePoints (raw : Text) : IsPrintable (escapePoints raw) := by
  intro c inside
  obtain ⟨p, -, inside⟩ := List.mem_flatMap.mp inside
  exact printable_escapePoint p c inside

theorem units_lt (p : CodePoint) : ∀ u ∈ Units.ofPoint p, u < 0x10000 := by
  intro u inside
  cases p with
  | char c =>
    have valid : c.toNat < 0xD800 ∨ 0xDFFF < c.toNat ∧ c.toNat < 0x110000 := c.valid
    simp only [Units.ofPoint, Units.ofChar] at inside
    split at inside <;> simp only [List.mem_cons, List.not_mem_nil, or_false] at inside <;> omega
  | half n =>
    rw [List.mem_singleton.mp inside]
    omega

/-- A way of reading characters as units that reads piece by piece, and reads every
piece that escaping writes. -/
structure ReadsPieces (reads : List Char → List Nat → Prop) : Prop where
  nil : reads [] []
  append : ∀ {cs ds us vs}, reads cs us → reads ds vs → reads (cs ++ ds) (us ++ vs)
  unit : ∀ {n}, n < 0x10000 → reads (escapeUnit n) [n]
  simple : ∀ {c e}, (c, e) ∈ simpleEscapes → reads ['\\', e] (Units.ofChar c)
  plain : ∀ {c : Char}, ' ' ≤ c ∧ c ≤ '~' → c ≠ '"' → c ≠ '\\' → reads [c] (Units.ofChar c)

namespace ReadsPieces
variable {reads : List Char → List Nat → Prop} (h : ReadsPieces reads)
include h

theorem flatMap {α : Type} {chars : α → List Char} {units : α → List Nat} {as : List α}
    (each : ∀ a ∈ as, reads (chars a) (units a)) : reads (as.flatMap chars) (as.flatMap units) := by
  induction as with
  | nil => exact h.nil
  | cons a as ih =>
    obtain ⟨first, others⟩ := List.forall_mem_cons.mp each
    exact h.append first (ih others)

theorem units {us : List Nat} (small : ∀ u ∈ us, u < 0x10000) :
    reads (us.flatMap escapeUnit) us := by
  have all : reads (us.flatMap escapeUnit) (us.flatMap fun u => [u]) :=
    h.flatMap fun u hu => h.unit (small u hu)
  rwa [List.flatMap_singleton'] at all

theorem escapePoint (p : CodePoint) : reads (escapePoint p) (Units.ofPoint p) := by
  cases p with
  | half n => exact h.units (units_lt _)
  | char c =>
    simp only [Literal.escapePoint, escapeChar]
    split
    · next e simple => exact h.simple (mem_simpleEscapes simple)
    · next noEscape =>
      split
      · next printable =>
        have notQuote : c ≠ '"' := by
          rintro rfl
          cases noEscape
        have notEscape : c ≠ '\\' := by
          rintro rfl
          cases noEscape
        exact h.plain printable notQuote notEscape
      · exact h.units (units_lt (.char c))

/-- Escaped text is read as the units of the text. -/
theorem escapePoints (raw : Text) : reads (escapePoints raw) (Units.ofText raw) :=
  h.flatMap fun p _ => h.escapePoint p

end ReadsPieces

/-- The characters are read as these units, whatever follows them. -/
def ReadAs (cs : List Char) (us : List Nat) : Prop :=
  ∀ fuel rest more after, readBody fuel rest = some (more, after) →
    readBody (fuel + cs.length) (cs ++ rest) = some (us ++ more, after)

theorem readBody_succ {fuel : Nat} {cs : List Char} (notQuote : cs.head? ≠ some '"') :
    readBody (fuel + 1) cs = (readElement cs).bind fun (units, rest) =>
      (readBody fuel rest).map fun (more, after) => (units ++ more, after) := by
  rw [readBody]
  · cases readElement cs with
    | none => rfl
    | some step => cases h : readBody fuel step.2 <;> simp [h]
  · rintro rest rfl
    exact notQuote rfl

theorem readBody_mono {fuel : Nat} {cs : List Char} {result : List Nat × List Char}
    (h : readBody fuel cs = some result) (more : Nat) :
    readBody (fuel + more) cs = some result := by
  induction fuel generalizing cs result with
  | zero => cases h
  | succ fuel ih =>
    rw [Nat.add_right_comm]
    by_cases quote : cs.head? = some '"'
    · obtain ⟨rest, rfl⟩ := List.head?_eq_some_iff.mp quote
      exact h
    · rw [readBody_succ quote] at h ⊢
      obtain ⟨⟨units, rest⟩, element, h⟩ := Option.bind_eq_some_iff.mp h
      obtain ⟨⟨others, after⟩, read, rfl⟩ := Option.map_eq_some_iff.mp h
      exact Option.bind_eq_some_iff.mpr ⟨_, element, Option.map_eq_some_iff.mpr ⟨_, ih read, rfl⟩⟩

theorem ReadAs.nil : ReadAs [] [] := fun _ _ _ _ h => h

theorem ReadAs.append {cs ds : List Char} {us vs : List Nat} (hc : ReadAs cs us)
    (hd : ReadAs ds vs) :
    ReadAs (cs ++ ds) (us ++ vs) := by
  intro fuel rest more after h
  rw [List.append_assoc, List.append_assoc, List.length_append, Nat.add_comm cs.length,
    ← Nat.add_assoc]
  exact hc _ _ _ _ (hd _ _ _ _ h)

theorem ReadAs.element {c : Char} {cs : List Char} {us : List Nat} (notQuote : c ≠ '"')
    (h : ∀ rest, readElement (c :: cs ++ rest) = some (us, rest)) : ReadAs (c :: cs) us := by
  intro fuel rest more after read
  have other : (c :: cs ++ rest).head? ≠ some '"' := by simpa using notQuote
  have later := readBody_mono read cs.length
  rw [List.length_cons, ← Nat.add_assoc, readBody_succ other, h rest]
  simp [later]

end Literal
end Shapewright
