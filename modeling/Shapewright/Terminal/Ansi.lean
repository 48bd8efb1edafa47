/-!
# Terminal sequences

The escape sequences that switch colours and effects of a terminal, and text without them.
-/
namespace Shapewright.Ansi

/-- The sequence that selects a graphic rendition. -/
def rendition (parameters : List Nat) : String :=
  "\x1b[" ++ ";".intercalate (parameters.map toString) ++ "m"

def code (n : Nat) : String := rendition [n]

/-- Parameters come first in a sequence, then intermediate characters, and one final character ends
it. -/
def isParameter (c : Char) : Bool := '0' ≤ c && c ≤ '?'

def isIntermediate (c : Char) : Bool := ' ' ≤ c && c ≤ '/'

def isFinal (c : Char) : Bool := '@' ≤ c && c ≤ '~'

/-- `held` is what has been read of a sequence, backwards; it is given back when it turns out to be
none. -/
def stripFrom (held : List Char) : List Char → List Char
  | [] => held.reverse
  | c :: cs =>
    if c = '\x1b' then held.reverse ++ stripFrom [c] cs
    else
      match held with
      | [] => c :: stripFrom [] cs
      | [_] => if c = '[' then stripFrom (c :: held) cs else held.reverse ++ c :: stripFrom [] cs
      | last :: _ =>
        if isIntermediate c || isParameter c && !isIntermediate last then stripFrom (c :: held) cs
        else if isFinal c then stripFrom [] cs
        else held.reverse ++ c :: stripFrom [] cs

/-- The text without its sequences. -/
def strip (text : String) : String := String.ofList (stripFrom [] text.toList)

end Shapewright.Ansi
