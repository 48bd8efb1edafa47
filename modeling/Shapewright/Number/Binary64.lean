/-!
# Binary numbers of 64 bits

Double precision numbers as sign and magnitude bits, with exact arithmetic for the way in: a ratio
of natural numbers is rounded once, to the nearest number, a tie to the even one.
-/
namespace Shapewright

/-- `magnitude` holds the eleven exponent bits above the fifty-two fraction bits. -/
structure Binary64 where
  negative : Bool
  magnitude : Nat
  deriving DecidableEq, Repr, Inhabited

namespace Binary64

/-- The magnitude of infinity; those above it are no numbers. -/
def unbounded : Nat := 0x7FF * Nat.pow 2 52

def infinity (negative : Bool) : Binary64 := ⟨negative, unbounded⟩

def nan : Binary64 := ⟨false, unbounded + Nat.pow 2 51⟩

def isNan (x : Binary64) : Bool := unbounded < x.magnitude

def isInfinite (x : Binary64) : Bool := x.magnitude == unbounded

/-- The quotient rounded to the nearest natural number, a tie to the even one. -/
def roundedQuotient (num den : Nat) : Nat :=
  let q := num / den
  let rest := 2 * (num % den)
  if den < rest || rest == den && q % 2 == 1 then q + 1 else q

/-- `num / den` over `2 ^ exponent`, as a ratio again. -/
def scaled (num den : Nat) (exponent : Int) : Nat × Nat :=
  if 0 ≤ exponent then (num, den * Nat.pow 2 exponent.toNat)
  else (num * Nat.pow 2 (-exponent).toNat, den)

/-- The exponent of the last place of `num / den`: fifty-three digits fit, or fewer near zero. -/
def lastPlace (num den : Nat) : Int :=
  let guess : Int := max ((num.log2 : Int) - den.log2 - 53) (-1074)
  let (n, d) := scaled num den guess
  if n / d < Nat.pow 2 53 then guess else guess + 1

/-- The nearest magnitude to `num / den`; a ratio out of range becomes infinite. -/
def nearestMagnitude (num den : Nat) : Nat :=
  if num = 0 then 0
  else
    let place := lastPlace num den
    let (n, d) := scaled num den place
    min ((place + 1074).toNat * Nat.pow 2 52 + roundedQuotient n d) unbounded

/-- The number nearest to `digits * 10 ^ exponent`. Exponents far out of range are not computed. -/
def ofDecimal (negative : Bool) (digits : Nat) (exponent : Int) : Binary64 :=
  if digits = 0 then ⟨negative, 0⟩
  else
    let size : Int := (digits.log2 : Int) / 3 + exponent
    if 400 + (digits.log2 : Int) < exponent then infinity negative
    else if size < -400 then ⟨negative, 0⟩
    else if 0 ≤ exponent then ⟨negative, nearestMagnitude (digits * Nat.pow 10 exponent.toNat) 1⟩
    else ⟨negative, nearestMagnitude digits (Nat.pow 10 (-exponent).toNat)⟩

/-- The nearest number to an integer, unless that number is infinite. -/
def ofInt? (n : Int) : Option Binary64 :=
  let magnitude := nearestMagnitude n.natAbs 1
  if magnitude < unbounded then some ⟨n < 0, magnitude⟩ else none

/-- The sixty-four bits as one number. -/
def bits (x : Binary64) : Nat := (if x.negative then Nat.pow 2 63 else 0) + x.magnitude

end Binary64
end Shapewright
