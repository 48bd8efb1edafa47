import Shapewright.Text.Units

/-!
# String literals

Raw text as the body of a regular string literal. The result is printable ASCII whatever the text
is.
-/
namespace Shapewright.Literal

def simpleEscape? (c : Char) : Option Char :=
  match c with
  | '\\' => some '\\'
  | '"' => some '"'
  | '\x00' => some '0'
  | '\x07' => some 'a'
  | '\x08' => some 'b'
  | '\x0c' => some 'f'
  | '\n' => some 'n'
  | '\r' => some 'r'
  | '\t' => some 't'
  | '\x0b' => some 'v'
  | _ => none

def escapeUnit (n : Nat) : List Char := '\\' :: 'u' :: Hex.padded 4 n

def escapeChar (c : Char) : List Char :=
  match simpleEscape? c with
  | some e => ['\\', e]
  | none => if ' ' ≤ c ∧ c ≤ '~' then [c] else (Units.ofChar c).flatMap escapeUnit

def escapePoint : CodePoint → List Char
  | .char c => escapeChar c
  | .half n => (Units.ofPoint (.half n)).flatMap escapeUnit

def escapePoints (raw : Text) : List Char := raw.points.flatMap escapePoint

def escape (raw : Text) : String := String.ofList (escapePoints raw)

def quote (raw : Text) : String := "\"" ++ escape raw ++ "\""

end Shapewright.Literal
