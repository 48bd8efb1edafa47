import Shapewright.Entries
import Shapewright.Ordered
import Shapewright.Shape.Union

/-!
# Graphs of shapes

Record classes by reference, in order of declaration, and the shape of the whole document. A graph
is what a document describes and what the source is rendered from.
-/
namespace Shapewright

/-- The shortest name, the first in the order of text among several. -/
def combinedName (names : List Text) (fallback : Text) : Text :=
  let better (a b : Text) : Bool := a.length < b.length || a.length == b.length && a < b
  match names with
  | [] => fallback
  | n :: ns => ns.foldl (fun best m => if better m best then m else best) n

/-- `properties` come in the order of their keys. -/
structure RecordClass where
  ref : Text
  names : List Text
  properties : Entries Text Shape
  deriving DecidableEq, Repr

namespace RecordClass

def new (ref : Text) (names : List Text) (properties : Entries Text Shape) : RecordClass :=
  ⟨ref, names, Ordered.sort (fun a b => a.1.le b.1) properties⟩

def baseName (c : RecordClass) : Text := combinedName c.names c.ref

end RecordClass

/-- Every class stands once, under its own reference. -/
structure Graph where
  classes : List RecordClass
  topLevel : Shape
  deriving DecidableEq, Repr

namespace Graph

/-- A class given again under the same reference replaces the earlier one in its place. -/
def new (classes : List RecordClass) (topLevel : Shape) : Graph :=
  ⟨(Entries.ofList (classes.map fun c => (c.ref, c))).map (·.2), topLevel⟩

def class? (g : Graph) (ref : Text) : Option RecordClass := g.classes.find? (·.ref == ref)

/-- Whether two graphs say the same, whatever the order of their classes. -/
def agrees (g h : Graph) : Bool :=
  g.topLevel == h.topLevel && g.classes.length == h.classes.length &&
    g.classes.all fun c => h.class? c.ref == some c

/-- All shapes of the graph: the top level first, then the properties class by class. -/
def shapes (g : Graph) : List Shape :=
  g.topLevel.walk ++ g.classes.flatMap fun c => c.properties.flatMap (·.2.walk)

/-- The unions that get a type of their own, in the order of their first occurrence. -/
def unions (g : Graph) : List Shape := Ordered.firstSeen (g.shapes.filter Shape.isGenerated)

/-- The references that no class answers, in the order of the shapes. -/
def danglingRefs (g : Graph) : List Text :=
  g.shapes.filterMap fun
    | .record ref => if (g.class? ref).isSome then none else some ref
    | _ => none

end Graph
end Shapewright
