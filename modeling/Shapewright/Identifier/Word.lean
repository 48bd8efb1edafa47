import Shapewright.Unicode.Case
import Shapewright.Unicode.Number

/-!
# Words

Segmentation of free text into words: runs of letters and numbers, cut again where the case says
that a new word begins. `fooBar` has two words and so has `HTTPServer`. Also the case folding of a
single word.
-/
namespace Shapewright.Word
open Unicode

def isWordChar (c : Char) : Bool := isLetter c || isNumber c

/-- The pieces between the characters outside `keep`, empty pieces included. -/
def pieces (keep : Char → Bool) : List Char → List (List Char)
  | [] => [[]]
  | c :: cs =>
    if keep c then
      match pieces keep cs with
      | [] => [[c]]
      | w :: ws => (c :: w) :: ws
    else [] :: pieces keep cs

/-- The maximal runs of letters and numbers, from left to right. -/
def runs (raw : List Char) : List (List Char) :=
  (pieces isWordChar raw).filter (!·.isEmpty)

/-- A capital begins a word after a lower case character or a digit, and so does the last capital of
an acronym that runs into a lower case character. -/
def breaksBefore (last current : Char) (next : Option Char) : Bool :=
  isUpper current && (isLower last || isDigit last || isUpper last && next.any isLower)

def split : List Char → List (List Char)
  | [] => [[]]
  | [c] => [[c]]
  | c :: d :: rest =>
    match split (d :: rest) with
    | [] => [[c]]
    | w :: ws => if breaksBefore c d rest.head? then [c] :: w :: ws else (c :: w) :: ws

/-- All words of a text. -/
def words (raw : List Char) : List (List Char) :=
  (runs raw).flatMap split

/-- Case rules look through modifier letters, the only characters of a word that they ignore. -/
def facesCased (cs : List Char) : Bool :=
  (cs.dropWhile isModifierLetter).head?.any isCased

/-- The lower case form of a word whose `before` part, read backwards, is already folded. A capital
sigma that ends the cased part of a word takes its final form. -/
def foldAfter (before : List Char) : List Char → List Char
  | [] => []
  | c :: cs =>
    let folded := if c = 'Σ' then
        (if facesCased before && !facesCased cs then ['ς'] else ['σ'])
      else lower c
    folded ++ foldAfter (c :: before) cs

def fold (word : List Char) : List Char := foldAfter [] word

/-- Only the first character changes; its capital may be several characters. -/
def capitalize : List Char → List Char
  | [] => []
  | c :: cs => upper c ++ cs

end Shapewright.Word
