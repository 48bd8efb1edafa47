import Shapewright.Diagnostics.Level
import Shapewright.Terminal.Ansi

/-!
# Diagnostics on the terminal

Diagnostics as they are shown: the name of the level, the text, and a colour by severity that is
taken up again on every line.
-/
namespace Shapewright.Diagnostics

def plainPattern : String := "[%(levelname)s] %(message)s"

/-- The place in the program is shown as well. -/
def detailedPattern : String :=
  "[%(levelname)s] [%(filename)s:%(lineno)d] [%(funcName)s] %(message)s"

/-- Only those who ask for details are shown places in the program. -/
def pattern (level : Int) : String := if 20 ≤ level then plainPattern else detailedPattern

def levelName (level : Int) : String :=
  match levelNames.find? (·.2 == level) with
  | some (name, _) => name
  | none => "Level " ++ toString level

/-- A pair of sequences that switch something on and off. -/
structure Paint where
  opening : String
  closing : String

def colour (n : Nat) : Paint := ⟨Ansi.code n, Ansi.code 39⟩

def dim : Paint := ⟨Ansi.code 2, Ansi.code 22⟩

/-- The paints of a level, the outermost first. -/
def paints (level : Int) : List Paint :=
  if 50 ≤ level then [colour 91]
  else if 40 ≤ level then [colour 31]
  else if 30 ≤ level then [colour 33]
  else if 20 ≤ level then [colour 32]
  else if 10 ≤ level then [colour 90]
  else if 5 ≤ level then [colour 34]
  else [dim, colour 31]

/-- A text that switches a paint off switches it on again. -/
def reopened (text : String) (p : Paint) : String :=
  text.replace p.closing (p.closing ++ p.opening)

/-- What comes before the first `mark` on the line, and what comes after it. -/
def splitAtMark (mark : List Char) : List Char → Option (List Char × List Char)
  | [] => none
  | c :: cs =>
    if mark.isPrefixOf (c :: cs) then some ([], (c :: cs).drop mark.length)
    else if c = '\n' then none
    else (splitAtMark mark cs).map fun (before, after) => (c :: before, after)

/-- Puts something before and after every piece of a line that begins and ends with `mark`. -/
def aroundPieces (mark before after : List Char) : Nat → List Char → List Char
  | 0, cs => cs
  | _, [] => []
  | fuel + 1, c :: cs =>
    let rest := (c :: cs).drop mark.length
    match if mark.isPrefixOf (c :: cs) then splitAtMark mark rest else none with
    | some (piece, rest) =>
      before ++ mark ++ piece ++ mark ++ after ++ aroundPieces mark before after fuel rest
    | none => c :: aroundPieces mark before after fuel cs

/-- Puts something before and after every line end. -/
def aroundLineEnds (before after : List Char) : List Char → List Char
  | [] => []
  | '\r' :: '\n' :: cs => before ++ '\r' :: '\n' :: after ++ aroundLineEnds before after cs
  | c :: cs =>
    if c = '\n' then before ++ c :: after ++ aroundLineEnds before after cs
    else c :: aroundLineEnds before after cs

/-- Pieces of the text between two resets are left unpainted, and so are line ends. -/
def painted (ps : List Paint) (text : String) : String :=
  let opening := String.join (ps.map (·.opening))
  let closing := String.join (ps.map (·.closing))
  let inner := (ps.reverse.foldl reopened text).toList
  let pieces := aroundPieces (Ansi.code 0).toList closing.toList opening.toList inner.length inner
  opening ++ String.ofList (aroundLineEnds closing.toList opening.toList pieces) ++ closing

/-- A diagnostic in colour. -/
def format (level : Int) (text : String) : String :=
  painted (paints level) ("[" ++ levelName level ++ "] " ++ text)

end Shapewright.Diagnostics
