import Shapewright.Json.Value
import Shapewright.Number.Decimal

/-!
# Reading JSON

A reader for JSON texts that also takes `NaN` and the infinities. A fault is placed by the number of
characters from there to the end of the text, so that no position has to be carried along; offset,
line and column follow from it. An integer with too many digits is refused as such, wherever it
stands.
-/
namespace Shapewright.Json
open Decimal

inductive Problem where
  | value
  | propertyName
  | colon
  | comma
  | extraData
  | unterminated
  | controlCharacter
  | escape
  | unicodeEscape
  | byteOrderMark
  deriving DecidableEq, Repr

def Problem.message : Problem → String
  | .value => "Expecting value"
  | .propertyName => "Expecting property name enclosed in double quotes"
  | .colon => "Expecting ':' delimiter"
  | .comma => "Expecting ',' delimiter"
  | .extraData => "Extra data"
  | .unterminated => "Unterminated string starting at"
  | .controlCharacter => "Invalid control character at"
  | .escape => "Invalid \\escape"
  | .unicodeEscape => "Invalid \\uXXXX escape"
  | .byteOrderMark => "Unexpected UTF-8 BOM (decode using utf-8-sig)"

/-- `remaining` counts the characters from the fault to the end of the text. -/
inductive Failure where
  | fault (problem : Problem) (remaining : Nat)
  | tooLong (e : TooLong)
  deriving DecidableEq, Repr

def failAt {α : Type} (problem : Problem) (rest : List Char) : Except Failure α :=
  .error (.fault problem rest.length)

def isSpace (c : Char) : Bool := c = ' ' || c = '\t' || c = '\n' || c = '\r'

def skipSpace (cs : List Char) : List Char := cs.dropWhile isSpace

def isHighSurrogate (n : Nat) : Bool := 0xD800 ≤ n && n < 0xDC00

def isLowSurrogate (n : Nat) : Bool := 0xDC00 ≤ n && n < 0xE000

def simpleEscape? (c : Char) : Option Char :=
  match c with
  | '"' => some '"'
  | '\\' => some '\\'
  | '/' => some '/'
  | 'b' => some '\x08'
  | 'f' => some '\x0c'
  | 'n' => some '\n'
  | 'r' => some '\r'
  | 't' => some '\t'
  | _ => none

/-- Four hexadecimal digits that do not end the text; `escape` begins at the `u` before them. -/
def readHex (escape : List Char) : Except Failure (Nat × List Char) :=
  match escape with
  | _ :: a :: b :: c :: d :: e :: rest =>
    match Hex.valueOf? [a, b, c, d] with
    | some n => .ok (n, e :: rest)
    | none => failAt .unicodeEscape escape
  | _ => failAt .unicodeEscape escape

/-- One escaped code point; `escape` begins at the `u` of the first escape. A high surrogate takes
the low one that is written next to it, and is half a pair where there is none. -/
def readUnicode (escape : List Char) : Except Failure (CodePoint × List Char) := do
  let (high, rest) ← readHex escape
  if isHighSurrogate high then
    match rest with
    | '\\' :: 'u' :: a :: b :: c :: d :: e :: more =>
      let (low, after) ← readHex ('u' :: a :: b :: c :: d :: e :: more)
      if isLowSurrogate low then
        return (.ofNumber (0x10000 + (high - 0xD800) * 0x400 + (low - 0xDC00)), after)
      return (.ofNumber high, rest)
    | _ => return (.ofNumber high, rest)
  return (.ofNumber high, rest)

/-- The text up to the closing quote; `opening` counts the characters from the opening one on. -/
def readPoints (opening : Nat) : Nat → List Char → Except Failure (List CodePoint × List Char)
  | 0, _ => .error (.fault .unterminated opening)
  | fuel + 1, cs =>
    match cs with
    | [] => .error (.fault .unterminated opening)
    | '"' :: rest => .ok ([], rest)
    | ['\\'] => .error (.fault .unterminated opening)
    | '\\' :: 'u' :: rest => do
      let (p, after) ← readUnicode ('u' :: rest)
      let (points, after) ← readPoints opening fuel after
      return (p :: points, after)
    | '\\' :: e :: rest =>
      match simpleEscape? e with
      | none => failAt .escape cs
      | some c => do
        let (points, after) ← readPoints opening fuel rest
        return (.char c :: points, after)
    | c :: rest =>
      if c.toNat < 0x20 then failAt .controlCharacter cs
      else do
        let (points, after) ← readPoints opening fuel rest
        return (.char c :: points, after)

/-- The string after its opening quote. -/
def readString (rest : List Char) : Except Failure (Text × List Char) := do
  let (points, after) ← readPoints (rest.length + 1) (rest.length + 1) rest
  return (⟨points⟩, after)

/-- The digits after a point, where there are any. -/
def readFraction : List Char → List Char × List Char
  | '.' :: rest =>
    let digits := rest.takeWhile isDigit
    if digits.isEmpty then ([], '.' :: rest) else (digits, rest.dropWhile isDigit)
  | rest => ([], rest)

/-- The exponent, where one is complete. -/
def readExponent (cs : List Char) : Option Int × List Char :=
  match cs with
  | e :: rest =>
    if e = 'e' || e = 'E' then
      let (negative, body) := match rest with
        | '-' :: more => (true, more)
        | '+' :: more => (false, more)
        | more => (false, more)
      let digits := body.takeWhile isDigit
      if digits.isEmpty then (none, cs)
      else
        let n : Int := ofDigits digits
        (some (if negative then -n else n), body.dropWhile isDigit)
    else (none, cs)
  | [] => (none, [])

/-- A number without fraction and exponent is an integer. -/
def readNumber? (cs : List Char) : Option (Except Failure Json × List Char) :=
  let (negative, body) := match cs with
    | '-' :: rest => (true, rest)
    | rest => (false, rest)
  let whole := match body with
    | '0' :: _ => ['0']
    | _ => body.takeWhile isDigit
  if whole.isEmpty then none
  else
    let (fraction, rest) := readFraction (body.drop whole.length)
    let (exponent, rest) := readExponent rest
    if fraction.isEmpty && exponent.isNone then
      match Decimal.read whole with
      | .ok n => some (.ok (.integer (if negative then -(n : Int) else n)), rest)
      | .error e => some (.error (.tooLong e), rest)
    else
      let digits := ofDigits (whole ++ fraction)
      some (.ok (.double (.ofDecimal negative digits (exponent.getD 0 - fraction.length))), rest)

/-- The rest of the text after a word that it begins with. -/
def after? : List Char → List Char → Option (List Char)
  | [], cs => some cs
  | w :: ws, c :: cs => if w = c then after? ws cs else none
  | _ :: _, [] => none

def literals : List (List Char × Json) := [
  ("null".toList, .null), ("true".toList, .boolean true), ("false".toList, .boolean false),
  ("NaN".toList, .double .nan), ("Infinity".toList, .double (.infinity false)),
  ("-Infinity".toList, .double (.infinity true))]

def readLiteral? (cs : List Char) : Option (Json × List Char) :=
  literals.findSome? fun (word, value) => (after? word cs).map (value, ·)

mutual
/-- A value begins here, without space before it. -/
def readValue : Nat → List Char → Except Failure (Json × List Char)
  | 0, cs => failAt .value cs
  | fuel + 1, cs =>
    match cs with
    | '"' :: rest => do
      let (text, rest) ← readString rest
      return (.string text, rest)
    | '{' :: rest =>
      match skipSpace rest with
      | '}' :: rest => .ok (.object [], rest)
      | rest => do
        let (fields, rest) ← readFields fuel rest
        return (.object (Entries.ofList fields), rest)
    | '[' :: rest =>
      match skipSpace rest with
      | ']' :: rest => .ok (.array [], rest)
      | rest => do
        let (items, rest) ← readItems fuel rest
        return (.array items, rest)
    | _ =>
      match readLiteral? cs with
      | some step => .ok step
      | none =>
        match readNumber? cs with
        | some (value, rest) => do return (← value, rest)
        | none => failAt .value cs

/-- The items up to the closing bracket, at least one. -/
def readItems : Nat → List Char → Except Failure (List Json × List Char)
  | 0, cs => failAt .value cs
  | fuel + 1, cs => do
    let (item, rest) ← readValue fuel cs
    match skipSpace rest with
    | ']' :: rest => return ([item], rest)
    | ',' :: rest =>
      let (items, rest) ← readItems fuel (skipSpace rest)
      return (item :: items, rest)
    | rest => failAt .comma rest

/-- The fields up to the closing brace, at least one. -/
def readFields : Nat → List Char → Except Failure (List (Text × Json) × List Char)
  | 0, cs => failAt .propertyName cs
  | fuel + 1, cs =>
    match cs with
    | '"' :: rest => do
      let (key, rest) ← readString rest
      match skipSpace rest with
      | ':' :: rest =>
        let (value, rest) ← readValue fuel (skipSpace rest)
        match skipSpace rest with
        | '}' :: rest => return ([(key, value)], rest)
        | ',' :: rest =>
          let (fields, rest) ← readFields fuel (skipSpace rest)
          return ((key, value) :: fields, rest)
        | rest => failAt .comma rest
      | rest => failAt .colon rest
    | _ => failAt .propertyName cs
end

/-- Where a fault is, counted in characters: from zero for the offset, from one for line and
column. -/
structure Position where
  offset : Nat
  line : Nat
  column : Nat
  deriving DecidableEq, Repr

inductive ReadError where
  | fault (problem : Problem) (position : Position)
  | tooLong (e : TooLong)
  deriving DecidableEq, Repr

def Position.ofOffset (text : List Char) (offset : Nat) : Position :=
  let before := text.take offset
  ⟨offset, before.count '\n' + 1, (before.reverse.takeWhile (· ≠ '\n')).length + 1⟩

def ReadError.message : ReadError → String
  | .fault problem position =>
    problem.message ++ s!": line {position.line} column {position.column} (char {position.offset})"
  | .tooLong e => e.message

def readChecked (cs : List Char) : Except Failure Json := do
  if cs.head? = some '\uFEFF' then
    throw (.fault .byteOrderMark cs.length)
  let (value, rest) ← readValue (2 * cs.length + 2) (skipSpace cs)
  match skipSpace rest with
  | [] => return value
  | rest => throw (.fault .extraData rest.length)

/-- The value that a text holds, with nothing but space around it. -/
def read (text : String) : Except ReadError Json :=
  let cs := text.toList
  match readChecked cs with
  | .ok value => .ok value
  | .error (.fault problem remaining) =>
    .error (.fault problem (.ofOffset cs (cs.length - remaining)))
  | .error (.tooLong e) => .error (.tooLong e)

end Shapewright.Json
