import Shapewright.Unicode.Blank
import Shapewright.Unicode.Number

/-!
# Decimal digits

Natural numbers out of decimal digits. Reading takes time that grows with the square of the number
of digits, so a number with too many of them is refused.
-/
namespace Shapewright.Decimal

def isDigit (c : Char) : Bool := '0' ≤ c && c ≤ '9'

/-- The number that plain digits stand for. -/
def ofDigits (cs : List Char) : Nat := cs.foldl (fun n c => 10 * n + (c.toNat - 48)) 0

/-- A digit of any script as the plain one; anything else is left alone. -/
def plain (c : Char) : Char :=
  match Unicode.decimalValue? c with
  | some n => Char.ofNat (48 + n)
  | none => c

/-- Blanks around a number; the four separators among the control characters are not taken for
blanks. -/
def isPadding (c : Char) : Bool := Unicode.isBlank c && !(0x1C ≤ c.toNat && c.toNat ≤ 0x1F)

def maxDigits : Nat := 4300

/-- A number of `count` digits, which are too many. -/
structure TooLong where
  count : Nat
  deriving DecidableEq, Repr

def TooLong.message (e : TooLong) : String :=
  s!"Exceeds the limit ({maxDigits} digits) for integer string conversion: value has {e.count} digits; " ++
    "use sys.set_int_max_str_digits() to increase the limit"

/-- The number that plain digits stand for, if there are not too many. -/
def read (digits : List Char) : Except TooLong Nat :=
  if maxDigits < digits.length then .error ⟨digits.length⟩ else .ok (ofDigits digits)

end Shapewright.Decimal
