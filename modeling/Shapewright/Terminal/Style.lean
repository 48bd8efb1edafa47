import Shapewright.Json.Shown
import Shapewright.Terminal.Ansi

/-!
# Styles

Colours and effects of a piece of text. A styled text ends with a reset, even when no style was
chosen.
-/
namespace Shapewright

inductive Colour where
  | black
  | red
  | green
  | yellow
  | blue
  | magenta
  | cyan
  | white
  deriving DecidableEq, Repr

namespace Colour

def all : List Colour := [.black, .red, .green, .yellow, .blue, .magenta, .cyan, .white]

def index : Colour → Nat
  | .black => 0
  | .red => 1
  | .green => 2
  | .yellow => 3
  | .blue => 4
  | .magenta => 5
  | .cyan => 6
  | .white => 7

def name : Colour → String
  | .black => "black"
  | .red => "red"
  | .green => "green"
  | .yellow => "yellow"
  | .blue => "blue"
  | .magenta => "magenta"
  | .cyan => "cyan"
  | .white => "white"

end Colour

/-- A colour in its plain or its bright shade, the one that the terminal starts with, one of a
palette, or one mixed of red, green and blue. -/
inductive Shade where
  | plain (c : Colour)
  | bright (c : Colour)
  | standard
  | indexed (n : Fin 256)
  | mixed (red green blue : Fin 256)
  deriving DecidableEq, Repr

/-- There is no such colour. -/
structure UnknownShade where
  request : Json
  deriving Repr

def UnknownShade.message (e : UnknownShade) : String := "Unknown color " ++ e.request.shown

namespace Shade

/-- The parameters of the sequence that selects a shade; a background comes
`offset` after a foreground. -/
def parameters (offset : Nat) : Shade → List Nat
  | .plain c => [30 + c.index + offset]
  | .bright c => [90 + c.index + offset]
  | .standard => [39 + offset]
  | .indexed n => [38 + offset, 5, n.val]
  | .mixed red green blue => [38 + offset, 2, red.val, green.val, blue.val]

def foreground (s : Shade) : List Nat := s.parameters 0

def background (s : Shade) : List Nat := s.parameters 10

def named? (name : String) : Option Shade :=
  if name = "reset" then some .standard
  else
    match Colour.all.find? fun c => c.name == name with
    | some c => some (.plain c)
    | none => (Colour.all.find? fun c => "bright_" ++ c.name == name).map .bright

def part? (n : Int) : Option (Fin 256) :=
  if h : 0 ≤ n ∧ n < 256 then some ⟨n.toNat, by omega⟩ else none

/-- A colour is asked for by its name, its place in the palette, or its three parts. -/
def requested? : Json → Option Shade
  | .string s => named? s.shown
  | .integer n => (part? n).map .indexed
  | .array [.integer r, .integer g, .integer b] => do
    return .mixed (← part? r) (← part? g) (← part? b)
  | _ => none

def ofRequest (request : Json) : Except UnknownShade Shade :=
  match requested? request with
  | some s => .ok s
  | none => .error ⟨request⟩

end Shade

inductive Effect where
  | bold
  | dim
  | underline
  | overline
  | italic
  | blink
  | reverse
  | strikethrough
  deriving DecidableEq, Repr

namespace Effect

def all : List Effect :=
  [.bold, .dim, .underline, .overline, .italic, .blink, .reverse, .strikethrough]

def name : Effect → String
  | .bold => "bold"
  | .dim => "dim"
  | .underline => "underline"
  | .overline => "overline"
  | .italic => "italic"
  | .blink => "blink"
  | .reverse => "reverse"
  | .strikethrough => "strikethrough"

/-- The code that switches an effect on or off. -/
def code : Effect → Bool → Nat
  | .bold, on => if on then 1 else 22
  | .dim, on => if on then 2 else 22
  | .underline, on => if on then 4 else 24
  | .overline, on => if on then 53 else 55
  | .italic, on => if on then 3 else 23
  | .blink, on => if on then 5 else 25
  | .reverse, on => if on then 7 else 27
  | .strikethrough, on => if on then 9 else 29

end Effect

/-- `effects` are switched on or off; those that are not listed stay as they are. -/
structure Style where
  foreground : Option Shade := none
  background : Option Shade := none
  effects : List (Effect × Bool) := []
  reset : Bool := true
  deriving DecidableEq, Repr

namespace Style

/-- The renditions of a style, effects in their own order. -/
def renditions (s : Style) : List (List Nat) :=
  (s.foreground.map Shade.foreground).toList ++ (s.background.map Shade.background).toList ++
    Effect.all.filterMap fun e => (s.effects.lookup e).map fun on => [e.code on]

def apply (s : Style) (text : String) : String :=
  String.join (s.renditions.map Ansi.rendition) ++ text ++ if s.reset then Ansi.code 0 else ""

end Style
end Shapewright
