import Shapewright.Text.Hex

/-!
# Text

Text as documents write it: a sequence of code points in which half of a surrogate pair may stand
alone. A half is no character, yet two halves differ like any two characters, and every half has its
place in the order of code points. Text of characters alone is a `String`.
-/
namespace Shapewright

/-- A character, or the half of a surrogate pair that comes `n` places after the first one. -/
inductive CodePoint where
  | char (c : Char)
  | half (n : Fin 0x800)
  deriving DecidableEq, Repr

namespace CodePoint

def number : CodePoint → Nat
  | .char c => c.toNat
  | .half n => 0xD800 + n.val

/-- The code point of a number; one that is too large is none. -/
def ofNumber (n : Nat) : CodePoint :=
  if h : n - 0xD800 < 0x800 ∧ 0xD800 ≤ n then .half ⟨n - 0xD800, h.1⟩ else .char (Char.ofNat n)

/-- A half is shown by its code, as an escape. -/
def shown : CodePoint → List Char
  | .char c => [c]
  | .half n => '\\' :: 'u' :: Hex.padded 4 (0xD800 + n.val)

/-- The character that stands in for a half where only characters count. -/
def mended : CodePoint → Char
  | .char c => c
  | .half _ => '\uFFFD'

end CodePoint

structure Text where
  points : List CodePoint
  deriving DecidableEq, Repr, Inhabited

namespace Text

def ofChars (cs : List Char) : Text := ⟨cs.map .char⟩

def ofString (s : String) : Text := ofChars s.toList

instance : Coe String Text := ⟨ofString⟩

@[simp] theorem ofString_inj {a b : String} : ofString a = ofString b ↔ a = b := by
  refine ⟨fun h => ?_, fun h => h ▸ rfl⟩
  have h : a.toList.map CodePoint.char = b.toList.map CodePoint.char := congrArg points h
  exact String.toList_inj.1 ((List.map_inj_right fun _ _ e => CodePoint.char.inj e).1 h)

def isEmpty (t : Text) : Bool := t.points.isEmpty

def length (t : Text) : Nat := t.points.length

instance : Append Text := ⟨fun a b => ⟨a.points ++ b.points⟩⟩

def join (separator : Text) : List Text → Text
  | [] => ⟨[]⟩
  | [t] => t
  | t :: ts => t ++ separator ++ join separator ts

/-- Text is ordered by code points. -/
instance : LT Text := ⟨fun a b => a.points.map CodePoint.number < b.points.map CodePoint.number⟩

instance : DecidableLT Text := fun a b =>
  inferInstanceAs (Decidable (a.points.map CodePoint.number < b.points.map CodePoint.number))

def le (a b : Text) : Bool := !decide (b < a)

/-- The text as it is shown to people. -/
def shown (t : Text) : String := String.ofList (t.points.flatMap CodePoint.shown)

/-- The text with a stand-in character for each half. -/
def mended (t : Text) : String := String.ofList (t.points.map CodePoint.mended)

end Text
end Shapewright
