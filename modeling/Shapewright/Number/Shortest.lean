import Shapewright.Number.Binary64

/-!
# Shortest decimals

The fewest digits that read back as a given number, and among those the nearest. Every point of the
decimal grid is compared with the interval of reals that round to the number, in exact arithmetic.
-/
namespace Shapewright.Binary64

/-- A finite number is `significand * 2 ^ place`. -/
def significand (x : Binary64) : Nat :=
  let fraction := x.magnitude % Nat.pow 2 52
  if x.magnitude / Nat.pow 2 52 = 0 then fraction else Nat.pow 2 52 + fraction

def place (x : Binary64) : Int :=
  max ((x.magnitude / Nat.pow 2 52 : Nat) : Int) 1 - 1075

/-- Fourths of the last place that lie between the number and the lower end of its interval. The
interval is narrower below a power of two. -/
def lowerGap (x : Binary64) : Nat :=
  if x.magnitude % Nat.pow 2 52 = 0 && Nat.pow 2 52 < x.magnitude then 1 else 2

/-- Compares `digits * 10 ^ exponent` with `fourths * 2 ^ (place - 2)`, both
scaled to natural numbers. -/
def sides (digits : Nat) (exponent : Int) (fourths : Nat) (place : Int) : Nat × Nat :=
  let left := digits * Nat.pow 10 exponent.toNat * Nat.pow 2 (2 - place).toNat
  let right := fourths * Nat.pow 10 (-exponent).toNat * Nat.pow 2 (place - 2).toNat
  (left, right)

/-- The ends belong to the interval of a number with an even significand. -/
def readsBack (x : Binary64) (digits : Nat) (exponent : Int) : Bool :=
  let (l, low) := sides digits exponent (4 * x.significand - x.lowerGap) x.place
  let (h, high) := sides digits exponent (4 * x.significand + 2) x.place
  if x.significand % 2 = 0 then low ≤ l && h ≤ high else low < l && h < high

/-- The largest point of the grid `10 ^ exponent` that is not above the number. -/
def pointBelow (x : Binary64) (exponent : Int) : Nat :=
  (4 * x.significand * Nat.pow 10 (-exponent).toNat * Nat.pow 2 (x.place - 2).toNat) /
    (Nat.pow 10 exponent.toNat * Nat.pow 2 (2 - x.place).toNat)

/-- Of the two neighbours on a grid the nearer one that reads back, the even one in the middle. -/
def gridPoint? (x : Binary64) (exponent : Int) : Option Nat :=
  let below := x.pointBelow exponent
  match x.readsBack below exponent, x.readsBack (below + 1) exponent with
  | true, true =>
    let (twice, number) := sides (2 * below + 1) exponent (8 * x.significand) x.place
    if twice < number || twice == number && below % 2 == 1 then some (below + 1) else some below
  | true, false => some below
  | false, true => some (below + 1)
  | false, false => none

/-- Tries finer and finer grids. -/
def shortestFrom (x : Binary64) : Nat → Int → Nat × Int
  | 0, exponent => (x.pointBelow exponent, exponent)
  | steps + 1, exponent =>
    match x.gridPoint? exponent with
    | some digits => (digits, exponent)
    | none => shortestFrom x steps (exponent - 1)

/-- A power of ten above every number whose leading bit has this place. -/
def topExponent (x : Binary64) : Int := ((x.significand.log2 : Int) + x.place) * 1233 / 4096 + 2

/-- Digits and exponent of the shortest decimal of a finite positive number. -/
def shortest (x : Binary64) : Nat × Int := shortestFrom x 20 x.topExponent

/-- The text of a number: positional from `0.0001` up to sixteen places, with an exponent of at
least two digits otherwise. -/
def text (x : Binary64) : String :=
  if x.isNan then "nan"
  else
    let sign := if x.negative then "-" else ""
    if x.isInfinite then sign ++ "inf"
    else if x.magnitude = 0 then sign ++ "0.0"
    else
      let (digits, exponent) := x.shortest
      let ds := (toString digits).toList
      let kept := (ds.reverse.dropWhile (· == '0')).reverse
      let point : Int := ds.length + exponent
      let body : List Char :=
        if 16 < point || point < -3 then
          let power := point - 1
          let shown := toString power.natAbs
          let mantissa := kept.take 1 ++ (if 1 < kept.length then '.' :: kept.drop 1 else [])
          mantissa ++ ['e', if power < 0 then '-' else '+'] ++
            (if shown.length < 2 then ['0'] else []) ++ shown.toList
        else if point ≤ 0 then
          ['0', '.'] ++ List.replicate (-point).toNat '0' ++ kept
        else
          let places := point.toNat
          let whole := kept.take places ++ List.replicate (places - kept.length) '0'
          whole ++ ['.'] ++ (if places < kept.length then kept.drop places else ['0'])
      sign ++ String.ofList body

end Shapewright.Binary64
