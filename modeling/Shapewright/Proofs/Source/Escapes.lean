import Shapewright.Proofs.Source.Literal
import Shapewright.Proofs.Text.Units

/-!
# Scanning literals

The body of a literal scanned from left to right with the escapes that are written, ten simple ones
and `\u` with four digits. In escaped text the scan meets neither an open quote nor a broken escape,
whatever characters stand side by side, so different texts are never escaped alike.
-/
namespace Shapewright.Literal

/-- A scan ends with its text, at a quote that is not escaped, or at an escape that
is incomplete or unknown. -/
inductive Scan where
  | ended (units : List Nat)
  | closed (units : List Nat) (rest : List Char)
  | broken
  deriving DecidableEq, Repr

/-- The same end with more units before it. -/
def Scan.after (us : List Nat) : Scan → Scan
  | ended more => ended (us ++ more)
  | closed more rest => closed (us ++ more) rest
  | broken => broken

/-- The unit of a simple escape. A single quote needs none, so it has none here. -/
def escapedUnit? (c : Char) : Option Nat := if c = '\'' then none else simpleUnit? c

def scan : List Char → Scan
  | [] => .ended []
  | '"' :: rest => .closed [] rest
  | '\\' :: 'u' :: a :: b :: c :: d :: rest =>
    match Hex.valueOf? [a, b, c, d] with
    | some u => (scan rest).after [u]
    | none => .broken
  | '\\' :: c :: rest =>
    match escapedUnit? c with
    | some u => (scan rest).after [u]
    | none => .broken
  | ['\\'] => .broken
  | c :: rest => (scan rest).after (Units.ofChar c)

/-- The characters are scanned as these units, whatever follows them. -/
def Scans (cs : List Char) (us : List Nat) : Prop :=
  ∀ rest, scan (cs ++ rest) = (scan rest).after us

theorem Scan.after_nil (s : Scan) : s.after [] = s := by
  cases s <;> rfl

theorem Scan.after_append (us vs : List Nat) (s : Scan) :
    s.after (us ++ vs) = (s.after vs).after us := by
  cases s <;> simp only [after, List.append_assoc]

theorem scans_nil : Scans [] [] := fun rest => (scan rest).after_nil.symm

theorem Scans.append {cs ds : List Char} {us vs : List Nat} (hc : Scans cs us) (hd : Scans ds vs) :
    Scans (cs ++ ds) (us ++ vs) := by
  intro rest
  rw [List.append_assoc, hc, hd, Scan.after_append]

theorem scans_escapeUnit {n : Nat} (small : n < 0x10000) : Scans (escapeUnit n) [n] := by
  intro rest
  obtain ⟨a, b, c, d, digits⟩ : ∃ a b c d, Hex.padded 4 n = [a, b, c, d] :=
    List.length_eq_four.mp (Hex.length_padded 4 n)
  have value : Hex.valueOf? [a, b, c, d] = some n := digits ▸ Hex.valueOf?_padded small
  simp only [escapeUnit, digits, List.cons_append, List.nil_append, scan, value]

theorem scans_simple {c e : Char} (h : (c, e) ∈ simpleEscapes) :
    Scans ['\\', e] (Units.ofChar c) := by
  have all : ∀ s ∈ simpleEscapes, escapedUnit? s.2 = some s.1.toNat ∧
      Units.ofChar s.1 = [s.1.toNat] ∧ s.2 ≠ 'u' := by
    decide
  obtain ⟨unit, alone, notUnit⟩ := all _ h
  intro rest
  rw [List.cons_append, List.singleton_append, scan, unit, alone]
  exact fun _ _ _ _ _ here => absurd here notUnit

theorem scans_plain {c : Char} (notQuote : c ≠ '"') (notEscape : c ≠ '\\') :
    Scans [c] (Units.ofChar c) := by
  intro rest
  rw [List.singleton_append, scan]
  · exact notQuote
  all_goals simp [notEscape]

theorem readsPieces_scans : ReadsPieces Scans where
  nil := scans_nil
  append := .append
  unit := scans_escapeUnit
  simple := scans_simple
  plain _ notQuote notEscape := scans_plain notQuote notEscape

/-- Escaped text is printable ASCII, and a scan of it yields the units of the text: alone it is
scanned to its end, in quotes up to the closing one. Different strings are escaped differently. -/
theorem escape_denotes :
    (∀ raw : Text, IsPrintable (escape raw).toList ∧
      scan (escape raw).toList = .ended (Units.ofText raw) ∧
      ∀ rest, scan ((escape raw).toList ++ '"' :: rest) = .closed (Units.ofText raw) rest) ∧
      ∀ a b : String, escape a = escape b ↔ a = b := by
  have scans (raw : Text) : Scans (escape raw).toList (Units.ofText raw) := by
    rw [escape, String.toList_ofList]
    exact readsPieces_scans.escapePoints raw
  have ended (raw : Text) : scan (escape raw).toList = .ended (Units.ofText raw) := by
    have alone := scans raw []
    rwa [List.append_nil, scan, Scan.after, List.append_nil] at alone
  refine ⟨fun raw => ⟨?_, ended raw, fun rest => ?_⟩,
    fun a b => ⟨fun same => ?_, fun same => same ▸ rfl⟩⟩
  · rw [escape, String.toList_ofList]
    exact printable_escapePoints raw
  · rw [scans raw, scan, Scan.after, List.append_nil]
  · have units : Units.ofText a = Units.ofText b :=
      Scan.ended.inj ((ended a).symm.trans (same ▸ ended b))
    have text := congrArg Units.toText units
    rw [Units.toText_ofText (Text.isPaired_ofString a),
      Units.toText_ofText (Text.isPaired_ofString b)] at text
    exact Text.ofString_inj.mp text

/-- No character is taken for a part of the escape before it. -/
example : escape "\x001\\u0041😀" = "\\01\\\\u0041\\ud83d\\ude00" := by decide

end Shapewright.Literal
