import Shapewright.Number.Decimal
import Shapewright.Text.Folded
import Shapewright.Text.Quoted

/-!
# Levels

How severe a diagnostic has to be to be shown. The level comes from the environment or from the
counts of two opposite options.
-/
namespace Shapewright.Diagnostics

/-- The first name of a level is the one it is shown by. -/
def levelNames : List (String × Int) := [
  ("TRACE", 5), ("DEBUG", 10), ("INFO", 20), ("WARNING", 30), ("WARN", 30), ("ERROR", 40),
  ("CRITICAL", 50), ("FATAL", 50), ("NOTSET", 0)]

inductive LevelError where
  | notDecimal (text : String)
  | tooLong (e : Decimal.TooLong)
  | contradiction
  deriving DecidableEq, Repr

/-- A long text is cut off where it is quoted. -/
def LevelError.message : LevelError → String
  | .notDecimal text =>
    "invalid literal for int() with base 10: " ++
      String.ofList ((Quoted.quote text).toList.take 200)
  | .tooLong e => e.message
  | .contradiction => "The '--verbose' and '--quiet' options are mutually exclusive."

/-- The number written by decimal digits of any script. Too many of them are refused before any
other digit is noticed. -/
def number (word : List Char) : Except LevelError Int :=
  let digits := word.takeWhile Unicode.isDecimal
  match Decimal.read (digits.map Decimal.plain) with
  | .error e => .error (.tooLong e)
  | .ok n =>
    if digits.length = word.length then .ok n else .error (.notDecimal (String.ofList word))

/-- A level by number or name; a text that is neither says nothing. A digit that is not decimal
makes a text look like a number without being one. -/
def ofText (text : String) : Except LevelError (Option Int) :=
  let word := Folded.fold text
  if !word.isEmpty && word.all Unicode.isDigit then (number word).map some
  else .ok (levelNames.lookup (String.ofList word))

/-- The level that the environment asks for, if it says anything. -/
def ofEnvironment : Option String → Except LevelError (Option Int)
  | none => .ok none
  | some text => if text.isEmpty then .ok none else ofText text

/-- The level for the numbers of times that more and that less was asked for. -/
def ofCounts (verbose quiet : Nat) : Except LevelError Int :=
  if 0 < verbose && 0 < quiet then .error .contradiction
  else if 3 ≤ verbose then .ok 5
  else if verbose = 2 then .ok 10
  else if verbose = 1 then .ok 20
  else if 0 < quiet then .ok 40
  else .ok 30

/-- Where nothing better is known only critical diagnostics are shown. -/
def resolve (given : Option Int) (environment : Option String) : Except LevelError Int :=
  match given with
  | some level => .ok level
  | none => do
    match ← ofEnvironment environment with
    | some level => return if level = 0 then 50 else level
    | none => return 50

end Shapewright.Diagnostics
