import Shapewright.Text.Basic

/-!
# Sixteen-bit units

Text as the units in which the generated source counts it: one unit for a character of the first
plane, a surrogate pair for any other, and its own unit for half of such a pair.
-/
namespace Shapewright.Units

def ofChar (c : Char) : List Nat :=
  let n := c.toNat
  if n < 0x10000 then [n]
  else [0xD800 + (n - 0x10000) / 0x400, 0xDC00 + (n - 0x10000) % 0x400]

def ofPoint : CodePoint → List Nat
  | .char c => ofChar c
  | .half n => [0xD800 + n.val]

def ofText (t : Text) : List Nat := t.points.flatMap ofPoint

end Shapewright.Units
