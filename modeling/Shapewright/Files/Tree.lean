/-!
# Files

Paths as they are written, and a tree of files in which they are looked up. A directory is there as
soon as something stands in it. Names and paths have a limited size, and no name holds the character
that ends names.
-/
namespace Shapewright.Files

/-- Where a path begins: where one stands, at the root, or at the other root that two slashes
name. -/
inductive Start where
  | here
  | root
  | otherRoot
  deriving DecidableEq, Repr

def Start.text : Start → String
  | .here => ""
  | .root => "/"
  | .otherRoot => "//"

/-- Three slashes or more are as good as one. -/
def Start.of : List Char → Start
  | '/' :: '/' :: '/' :: _ => .root
  | '/' :: '/' :: _ => .otherRoot
  | '/' :: _ => .root
  | _ => .here

/-- `steps` are the parts between the slashes, without those that lead nowhere. -/
structure Path where
  start : Start
  steps : List String
  deriving DecidableEq, Repr

def Path.isAbsolute (p : Path) : Bool := p.start != .here

/-- The parts of a text between its slashes. -/
def parts : List Char → List (List Char)
  | [] => [[]]
  | c :: cs =>
    if c = '/' then [] :: parts cs
    else
      match parts cs with
      | [] => [[c]]
      | p :: ps => (c :: p) :: ps

def Path.ofText (text : String) : Path :=
  let steps := (parts text.toList).map String.ofList
  ⟨.of text.toList, steps.filter fun s => !s.isEmpty && s != "."⟩

def Path.text (p : Path) : String :=
  let whole := p.start.text ++ "/".intercalate p.steps
  if whole.isEmpty then "." else whole

/-- The last step. -/
def Path.name (p : Path) : String := p.steps.getLast?.getD ""

/-- The path to where the last step is taken. -/
def Path.parent (p : Path) : Path := { p with steps := p.steps.dropLast }

def Path.child (p : Path) (name : String) : Path := { p with steps := p.steps ++ [name] }

/-- What stands at a path. -/
inductive Node where
  | missing
  /-- A step on the way is a file. -/
  | blocked
  /-- Nothing can have such a path. -/
  | unnameable
  | overlong
  | directory
  | file (bytes : List UInt8)
  /-- Takes in everything and gives nothing back. -/
  | sink
  deriving DecidableEq, Repr

namespace Node

def isFile : Node → Bool
  | .file _ => true
  | _ => false

/-- What can be read from a node. -/
def bytes? : Node → Option (List UInt8)
  | .file bytes => some bytes
  | .sink => some []
  | _ => none

end Node

/-- The size of a name, and of a whole path, in octets. -/
def maxNameSize : Nat := 255

def maxPathSize : Nat := 4095

def Path.isNameable (p : Path) : Bool := p.steps.all fun step => step.toList.all (· ≠ '\x00')

/-- What a program sees of the files around it. -/
abbrev View := Path → Node

/-- Files and directories by their steps from the root of the tree. -/
abbrev Tree := List (List String × Node)

namespace Tree

def at? (t : Tree) (steps : List String) : Node :=
  match t.lookup steps with
  | some node => node
  | none =>
    if steps.isEmpty || t.any fun e => steps.isPrefixOf e.1 then .directory else .missing

/-- Outside a tree only the directories above it are known. -/
def outside : List String → Node
  | [] => .directory
  | step :: steps =>
    if step = ".." then outside steps
    else if maxNameSize < step.utf8ByteSize then .overlong
    else .missing

/-- Where a way through the tree leads, if it stays inside, and what stands there. -/
def walk (t : Tree) (place : List String) : List String → Option (List String) × Node
  | [] => (some place, t.at? place)
  | step :: steps =>
    match t.at? place with
    | .directory =>
      if step = ".." then
        if place.isEmpty then (none, outside steps) else t.walk place.dropLast steps
      else if maxNameSize < step.utf8ByteSize then (some place, .overlong)
      else t.walk (place ++ [step]) steps
    | .missing => (some place, .missing)
    | _ => (some place, .blocked)

/-- What every system has at its root. -/
def system : Tree :=
  [(["dev", "null"], .sink), (["etc"], .directory), (["tmp"], .directory), (["usr"], .directory)]

def view (t : Tree) : View := fun p =>
  if !p.isNameable then .unnameable
  else if maxPathSize < p.text.utf8ByteSize then .overlong
  else ((if p.isAbsolute then system else t).walk [] p.steps).2

end Tree
end Shapewright.Files
