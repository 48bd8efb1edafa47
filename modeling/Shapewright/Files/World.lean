import Shapewright.Files.Tree

/-!
# The world

All files there are: the tree where one stands and the one that absolute paths lead through. Saving
a file puts it in the place where its path leads, which other paths may lead to as well.
-/
namespace Shapewright.Files

/-- Puts a node in a place, in front of what stood there. -/
def Tree.put (t : Tree) (place : List String) (node : Node) : Tree := (place, node) :: t

structure World where
  here : Tree
  root : Tree := Tree.system
  deriving DecidableEq, Repr

namespace World

def tree (w : World) (path : Path) : Tree := if path.isAbsolute then w.root else w.here

def view (w : World) : View := fun path =>
  if !path.isNameable then .unnameable
  else if maxPathSize < path.text.utf8ByteSize then .overlong
  else ((w.tree path).walk [] path.steps).2

/-- The place where a path leads, in which of the two trees, unless it leads out of it. -/
def place? (w : World) (path : Path) : Option (Bool × List String) :=
  ((w.tree path).walk [] path.steps).1.map (path.isAbsolute, ·)

def put (w : World) (place : Bool × List String) (node : Node) : World :=
  if place.1 then { w with root := w.root.put place.2 node }
  else { w with here := w.here.put place.2 node }

/-- What is given to a sink is gone, and what is outside the trees is not seen. -/
def save (w : World) (path : Path) (bytes : List UInt8) : World :=
  match w.place? path with
  | some place => if w.view path = .sink then w else w.put place (.file bytes)
  | none => w

end World

/-- A tree is seen as the world around it. -/
theorem Tree.view_eq (t : Tree) : t.view = World.view { here := t } := rfl

end Shapewright.Files
