import Shapewright.Text.Basic
import Shapewright.Unicode.Blank

/-!
# Quoted text

How a piece of text is shown inside a message: between single quotes, or between double quotes where
that saves escapes, with everything that cannot be seen written as an escape.
-/
namespace Shapewright.Quoted

/-- Double quotes are chosen for a text with a single quote and no double quote. -/
def mark (t : Text) : Char :=
  if t.points.contains (.char '\'') && !t.points.contains (.char '"') then '"' else '\''

def escapeChar (quote c : Char) : List Char :=
  if c = quote || c = '\\' then ['\\', c]
  else if c = '\n' then ['\\', 'n']
  else if c = '\r' then ['\\', 'r']
  else if c = '\t' then ['\\', 't']
  else if Unicode.isVisible c then [c]
  else if c.toNat < 0x100 then '\\' :: 'x' :: Hex.padded 2 c.toNat
  else if c.toNat < 0x10000 then '\\' :: 'u' :: Hex.padded 4 c.toNat
  else '\\' :: 'U' :: Hex.padded 8 c.toNat

def escapePoint (quote : Char) : CodePoint → List Char
  | .char c => escapeChar quote c
  | .half n => (CodePoint.half n).shown

def quote (t : Text) : String :=
  String.ofList (mark t :: t.points.flatMap (escapePoint (mark t)) ++ [mark t])

/-- A group of things in parentheses; a group of one keeps a comma. -/
def group : List String → String
  | [s] => "(" ++ s ++ ",)"
  | parts => "(" ++ ", ".intercalate parts ++ ")"

end Shapewright.Quoted
