import Shapewright.Text.Folded
import Shapewright.Text.Hex
import Shapewright.Toml.Moment
import Shapewright.Toml.Node

/-!
# Keys and values of TOML

Readers for keys and values. Values nest to a limited depth, and a key has a limited number of
parts. A clash of keys in an inline table is told from every other fault, because it is reported as
such wherever a table is being filled.
-/
namespace Shapewright.Toml
open Decimal

inductive ReadError where
  | malformed
  | clash (c : Clash)
  deriving DecidableEq, Repr

def isBlank (c : Char) : Bool := c = ' ' || c = '\t'

def skipBlanks (cs : List Char) : List Char := cs.dropWhile isBlank

/-- Characters that may not stand in a comment or in a string of one line. -/
def isControl (c : Char) : Bool := c.toNat = 0x7F || c.toNat < 0x20 && c ≠ '\t'

def malformed {α : Type} : Except ReadError α := .error .malformed

/-- A clash is reported as such. -/
def clashing {α : Type} : Except Clash α → Except ReadError α
  | .ok a => .ok a
  | .error c => .error (.clash c)

def simpleEscape? (c : Char) : Option Char :=
  match c with
  | 'b' => some '\x08'
  | 't' => some '\t'
  | 'e' => some '\x1b'
  | 'n' => some '\n'
  | 'f' => some '\x0c'
  | 'r' => some '\r'
  | '"' => some '"'
  | '\\' => some '\\'
  | _ => none

/-- The character of a code that hexadecimal digits give; half of a surrogate pair is none. -/
def codePoint? (digits : List Char) : Option Char :=
  match Hex.valueOf? digits with
  | some n => if n < 0xD800 || 0xE000 ≤ n && n < 0x110000 then some (Char.ofNat n) else none
  | none => none

/-- The characters that an escape stands for; at the end of a line it stands for none and takes the
white space that follows. -/
def readEscape (long : Bool) (cs : List Char) : Except ReadError (List Char × List Char) :=
  let isSpace (c : Char) : Bool := isBlank c || c = '\n'
  match cs with
  | [] => malformed
  | c :: rest =>
    if long && isSpace c then
      if (cs.takeWhile isSpace).contains '\n' then .ok ([], cs.dropWhile isSpace) else malformed
    else
      match simpleEscape? c with
      | some e => .ok ([e], rest)
      | none =>
        let width := if c = 'x' then 2 else if c = 'u' then 4 else if c = 'U' then 8 else 0
        if width = 0 || rest.length < width then malformed
        else
          match codePoint? (rest.take width) with
          | some e => .ok ([e], rest.drop width)
          | none => malformed

/-- The rest of a string after its opening quotes. `long` strings run over several lines and end
with three quotes, of which up to two more may be part of the text. -/
def readText (long escapes : Bool) (quote : Char) :
    Nat → List Char → Except ReadError (List Char × List Char)
  | 0, _ => malformed
  | fuel + 1, cs =>
    match cs with
    | [] => malformed
    | c :: rest =>
      if c = quote then
        if !long then .ok ([], rest)
        else
          let quotes := cs.takeWhile (· = quote)
          let after := cs.drop quotes.length
          if quotes.length < 3 then do
            let (text, after) ← readText long escapes quote fuel after
            return (quotes ++ text, after)
          else if quotes.length < 6 then .ok (quotes.drop 3, after)
          else malformed
      else if escapes && c = '\\' then do
        let (text, after) ← readEscape long rest
        let (more, after) ← readText long escapes quote fuel after
        return (text ++ more, after)
      else if isControl c && !(long && c = '\n') then malformed
      else do
        let (text, after) ← readText long escapes quote fuel rest
        return (c :: text, after)

/-- A string from its first quote on, and whether it is a long one. -/
def readString (quote : Char) (cs : List Char) :
    Except ReadError ((String × Bool) × List Char) := do
  let escapes := quote = '"'
  let fuel := cs.length + 1
  match cs with
  | a :: b :: c :: rest =>
    if a = quote && b = quote && c = quote then
      let body := match rest with
        | '\n' :: more => more
        | more => more
      let (text, after) ← readText true escapes quote fuel body
      return ((String.ofList text, true), after)
    else if a = quote && b = quote then return (("", false), c :: rest)
    else
      let (text, after) ← readText false escapes quote fuel (b :: c :: rest)
      return ((String.ofList text, false), after)
  | [_, b] => if b = quote then return (("", false), []) else malformed
  | _ => malformed

def isBareKeyChar (c : Char) : Bool := c.isAlphanum || c = '-' || c = '_'

def trimBlanks (cs : List Char) : List Char := ((skipBlanks cs).reverse.dropWhile isBlank).reverse

/-- One part of a key with the blanks around it. -/
def readKeyPart (cs : List Char) : Except ReadError (String × List Char) :=
  match skipBlanks cs with
  | [] => malformed
  | c :: rest =>
    if c = '"' || c = '\'' then do
      let ((text, long), after) ← readString c (c :: rest)
      if long then malformed else return (text, skipBlanks after)
    else
      let run := (c :: rest).takeWhile fun c => isBareKeyChar c || isBlank c
      let key := trimBlanks run
      if key.isEmpty || key.any isBlank then malformed
      else return (String.ofList key, (c :: rest).drop run.length)

/-- The depth to which values may be nested, and the number of parts that a key may have. -/
def maxDepth : Nat := 100

/-- A key of one part or of several with dots between them, and of no more parts than given. -/
def readKey : Nat → List Char → Except ReadError (List String × List Char)
  | 0, _ => malformed
  | fuel + 1, cs => do
    let (part, rest) ← readKeyPart cs
    match rest with
    | '.' :: rest =>
      let (parts, rest) ← readKey fuel rest
      return (part :: parts, rest)
    | rest => return ([part], rest)

/-- The sign between key and value, with the blanks around it. -/
def readEquals (cs : List Char) : Except ReadError (List Char) :=
  match skipBlanks cs with
  | '=' :: rest => .ok (skipBlanks rest)
  | _ => malformed

/-- Takes out the underscores that stand between two digits. -/
def joinDigits (isDigit : Char → Bool) : List Char → List Char
  | a :: '_' :: b :: rest =>
    if isDigit a && isDigit b then a :: joinDigits isDigit (b :: rest)
    else a :: '_' :: joinDigits isDigit (b :: rest)
  | c :: rest => c :: joinDigits isDigit rest
  | [] => []

def signed (negative : Bool) (n : Nat) : Int := if negative then -(n : Int) else n

/-- The digits of a number in a base that is a power of two. -/
def baseDigits? (base : Nat) (ds : List Char) : Option Nat :=
  if ds.isEmpty then none
  else ds.foldlM (fun acc c => match Hex.value? c with
    | some d => if d < base then some (base * acc + d) else none
    | none => none) 0

/-- A decimal number with a fraction or an exponent. -/
def fractional? (negative : Bool) (cs : List Char) : Option Binary64 :=
  let whole := cs.takeWhile isDigit
  let (fraction, rest) := match cs.drop whole.length with
    | '.' :: more => (more.takeWhile isDigit, more.dropWhile isDigit)
    | more => ([], more)
  let exponent : Option Int := match rest with
    | [] => some 0
    | 'e' :: '-' :: ds => (digits? ds).map fun n => -(n : Int)
    | 'e' :: '+' :: ds => (digits? ds).map fun n => (n : Int)
    | 'e' :: ds => (digits? ds).map fun n => (n : Int)
    | _ => none
  if whole.isEmpty then none
  else exponent.map fun e =>
    .ofDecimal negative (ofDigits (whole ++ fraction)) (e - fraction.length)

/-- A number in lower case and plain digits, its sign and its underscores taken out. An integer must
not have too many digits. -/
def plainNumber? (negative : Bool) (cs : List Char) : Option Value :=
  match cs with
  | '0' :: 'x' :: ds => (baseDigits? 16 ds).map fun n => .integer (signed negative n)
  | '0' :: 'o' :: ds => (baseDigits? 8 ds).map fun n => .integer (signed negative n)
  | '0' :: 'b' :: ds => (baseDigits? 2 ds).map fun n => .integer (signed negative n)
  | _ =>
    if !cs.isEmpty && cs.all isDigit then
      match Decimal.read cs with
      | .ok n => some (.integer (signed negative n))
      | .error _ => none
    else (fractional? negative cs).map Value.float

/-- The two words that stand for numbers. -/
def namedNumber? (negative : Bool) (cs : List Char) : Option Value :=
  if cs = "inf".toList then some (.float (.infinity negative))
  else if cs = "nan".toList then some (.float .nan)
  else none

/-- The base that the first two characters announce. -/
def base (cs : List Char) : Nat :=
  match cs with
  | '0' :: 'x' :: _ => 16
  | '0' :: 'o' :: _ => 8
  | '0' :: 'b' :: _ => 2
  | _ => 10

/-- Whether a zero at the start is neither alone nor part of a base, a fraction or an exponent. -/
def isZeroLed (cs : List Char) : Bool :=
  match cs with
  | '0' :: c :: _ => c ∉ ['.', 'x', 'o', 'b', 'e', 'E']
  | _ => false

/-- A number as written: without a point that no digit follows, without a sign before a base, with
underscores between digits only. Its digits may be of any script, and padding may follow it. -/
def readNumber? (raw : List Char) : Option Value :=
  let (sign, body) : Option Char × List Char := match raw with
    | '+' :: rest => (some '+', rest)
    | '-' :: rest => (some '-', rest)
    | rest => (none, rest)
  let negative := sign = some '-'
  let isBased := base body ≠ 10
  match namedNumber? negative body with
  | some v => some v
  | none =>
    if isZeroLed body || body.head? = some '.' || (isBased && sign.isSome) then none
    else
      let isDigitOfBase (c : Char) : Bool := (Hex.value? c).any (· < base body)
      let clean := (joinDigits isDigitOfBase body).map Char.toLower
      let mantissa := clean.takeWhile (· ≠ 'e')
      if clean.contains '_' || (!isBased && mantissa.getLast? = some '.') ||
        clean.getLast? = some '.' then none
      else plainNumber? negative ((clean.reverse.dropWhile isPadding).reverse.map plain)

/-- What ends a number or a date. -/
def endsWord (c : Char) : Bool :=
  isBlank c || c = '\n' || c = '\r' || c = '#' || c = ',' || c = ']' || c = '}'

/-- A date may be followed by a time of that date after a space, and that by blanks. -/
def readMoment? (cs : List Char) : Option (Except ReadError (Value × List Char)) :=
  let raw := cs.takeWhile (!endsWord ·)
  let rest := cs.drop raw.length
  let text := String.ofList raw
  if isDate raw then
    let more := rest.takeWhile fun c => c = ' ' || !endsWord c
    let time := (more.reverse.dropWhile Unicode.isBlank).reverse
    let after := rest.drop more.length
    if time.isEmpty then some (.ok (.moment .date text, after))
    else if isDateTime (raw ++ time) then
      some (.ok (.moment .dateTime (text ++ String.ofList time), after))
    else some malformed
  else if isDateTime raw then some (.ok (.moment .dateTime text, rest))
  else if isTime raw then some (.ok (.moment .time text, rest))
  else none

def readNumber (read? : List Char → Option Value) (cs : List Char) :
    Except ReadError (Value × List Char) :=
  let raw := cs.takeWhile (!endsWord ·)
  match read? raw with
  | some v => .ok (v, cs.drop raw.length)
  | none => malformed

/-- A date, a time or a number. Without a sign it starts with a plain digit or is one of the two
words. -/
def readWord (cs : List Char) : Except ReadError (Value × List Char) :=
  if cs.head?.any fun c => c = '+' || c = '-' || isDigit c then
    match readMoment? cs with
    | some step => step
    | none => readNumber readNumber? cs
  else readNumber (namedNumber? false) cs

/-- What follows the white space and the comments between the items of an array or of an inline
table. -/
def skipFiller (inComment : Bool) : List Char → Except ReadError (List Char)
  | [] => .ok []
  | c :: cs =>
    if c = '\n' then skipFiller false cs
    else if inComment then (if isControl c then malformed else skipFiller true cs)
    else if isBlank c then skipFiller false cs
    else if c = '#' then skipFiller true cs
    else .ok (c :: cs)

/-- A value under the tables that a dotted key implies. -/
def dottedNode (v : Value) : List String → Node
  | [] => .value v
  | key :: path => .table .dotted [(key, dottedNode v path)]

/-- Gives a value to a key, dotted or not, of an inline table or of the whole document. -/
def assign (fuel : Nat) (es : Nodes) (v : Value) : List String → Except Clash Nodes
  | [] => .ok es
  | key :: path => es.add true fuel key (dottedNode v path)

mutual
/-- A value; `depth` values may still be nested in one another. -/
def readValue : Nat → Nat → List Char → Except ReadError (Value × List Char)
  | 0, _, _ => malformed
  | fuel + 1, depth, cs =>
    match cs, depth with
    | '"' :: _, _ => do
      let ((text, _), rest) ← readString '"' cs
      return (.string text, rest)
    | '\'' :: _, _ => do
      let ((text, _), rest) ← readString '\'' cs
      return (.string text, rest)
    | 't' :: 'r' :: 'u' :: 'e' :: rest, _ => .ok (.boolean true, rest)
    | 'f' :: 'a' :: 'l' :: 's' :: 'e' :: rest, _ => .ok (.boolean false, rest)
    | '[' :: _, 0 => malformed
    | '[' :: rest, depth + 1 => do
      let (items, rest) ← readItems fuel depth rest
      return (.array items, rest)
    | '\x7b' :: _, 0 => malformed
    | '\x7b' :: rest, depth + 1 => do
      let (es, rest) ← readEntries fuel depth [] rest
      return (.table (← clashing (es.whole (fuel + cs.length))), rest)
    | _, _ => readWord cs

/-- Items up to the closing bracket; a comma may stand behind the last one. -/
def readItems : Nat → Nat → List Char → Except ReadError (List Value × List Char)
  | 0, _, _ => malformed
  | fuel + 1, depth, cs => do
    match ← skipFiller false cs with
    | ']' :: rest => return ([], rest)
    | cs =>
      let (item, rest) ← readValue fuel depth cs
      match ← skipFiller false rest with
      | ']' :: rest => return ([item], rest)
      | ',' :: rest =>
        let (items, rest) ← readItems fuel depth rest
        return (item :: items, rest)
      | _ => malformed

/-- Entries up to the closing brace; a comma may stand behind the last one. -/
def readEntries : Nat → Nat → Nodes → List Char → Except ReadError (Nodes × List Char)
  | 0, _, _, _ => malformed
  | fuel + 1, depth, es, cs => do
    match ← skipFiller false cs with
    | '\x7d' :: rest => return (es, rest)
    | cs =>
      let (path, rest) ← readKey maxDepth cs
      let (v, rest) ← readValue fuel depth (← readEquals rest)
      let es ← clashing (assign (fuel + cs.length) es v path)
      match ← skipFiller false rest with
      | '\x7d' :: rest => return (es, rest)
      | ',' :: rest => readEntries fuel depth es rest
      | _ => malformed
end

end Shapewright.Toml
