/-!
# Runs of code points

Sets of characters and shifts between them, listed as runs. A run has a stride because the cases of
a letter often stand side by side.
-/
namespace Shapewright.Unicode

/-- The code points from `first` to `last` that differ from `first` by a multiple of `stride`. -/
structure Run where
  first : Nat
  last : Nat
  stride : Nat
  deriving DecidableEq, Repr

def Run.covers (r : Run) (n : Nat) : Bool :=
  r.first ≤ n && n ≤ r.last && (n - r.first) % r.stride == 0

def covered (runs : List Run) (c : Char) : Bool :=
  runs.any (·.covers c.toNat)

/-- Every code point of the run moves by the same distance. -/
structure Shift where
  run : Run
  distance : Int
  deriving DecidableEq, Repr

/-- A character outside all runs stays where it is. -/
def shifted (shifts : List Shift) (c : Char) : Char :=
  match shifts.find? (·.run.covers c.toNat) with
  | some s => Char.ofNat (c.toNat + s.distance).toNat
  | none => c

end Shapewright.Unicode
