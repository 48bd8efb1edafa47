/-!
# Hexadecimal digits

Numbers written and read with lower case hexadecimal digits, as escapes use them.
-/
namespace Shapewright.Hex

def digit (n : Nat) : Char :=
  if n < 10 then Char.ofNat (48 + n) else Char.ofNat (87 + n)

/-- The last `width` digits of `n`, the highest first. -/
def padded : Nat → Nat → List Char
  | 0, _ => []
  | width + 1, n => padded width (n / 16) ++ [digit (n % 16)]

/-- Capital digits are read too. -/
def value? (c : Char) : Option Nat :=
  let n := c.toNat
  if 48 ≤ n ∧ n ≤ 57 then some (n - 48)
  else if 97 ≤ n ∧ n ≤ 102 then some (n - 87)
  else if 65 ≤ n ∧ n ≤ 70 then some (n - 55)
  else none

/-- The number that a run of digits stands for. -/
def valueOf? (cs : List Char) : Option Nat :=
  cs.foldlM (fun acc c => (value? c).map (16 * acc + ·)) 0

end Shapewright.Hex
