import Shapewright.Document.Fault
import Shapewright.Shape.Graph

/-!
# Reading documents

Shapes and graphs out of decoded JSON. Reading is exact: everything outside the grammar is refused
with the place where it is wrong, and a graph that is accepted has a class for every reference.
-/
namespace Shapewright.Document

/-- The fields of an object. -/
abbrev Fields := Entries Text Json

def nodeUnder? (key : Text) (fields : Fields) : Option Json := fields.lookup key

def primitives : List (Text × Shape) := [
  ("nothing", .nothing), ("null", .null), ("bool", .boolean), ("integer", .integer),
  ("double", .double), ("string", .string)]

/-- The kinds that need more than their name, with what is missing when they have nothing else. -/
def bareCause (kind : Text) : Cause :=
  if kind = "array" then .noItems
  else if kind = "map" then .noValues
  else if kind = "class" then .noRef
  else if kind = "union" then .noMemberList
  else .unknownKind kind

/-- A node given by its kind alone. -/
def readKind (kind : Text) : Except Fault Shape :=
  match primitives.lookup kind with
  | some shape => .ok shape
  | none => .error ⟨[], bareCause kind⟩

def readRef (fields : Fields) : Except Fault Shape :=
  match nodeUnder? "ref" fields with
  | some (.string ref) => if ref.isEmpty then .error ⟨[], .noRef⟩ else .ok (.record ref)
  | _ => .error ⟨[], .noRef⟩

/-- The union of shapes that were read as its members. -/
def joined (members : List Shape) : Except Fault Shape :=
  match Shape.join? members with
  | none => .error ⟨[], .emptyUnion⟩
  | some (.union ms) => .ok (.union ms)
  | some _ => .error ⟨[], .singleUnion⟩

mutual
/-- A text stands for an object that has only this kind. -/
def readShape : Json → Except Fault Shape
  | .string kind => readKind kind
  | .object fields =>
    match nodeUnder? "kind" fields with
    | some (.string kind) =>
      match primitives.lookup kind with
      | some shape => .ok shape
      | none =>
        if kind = "array" then
          match readField "items" fields with
          | some items => do return .array (← items)
          | none => .error ⟨[], .noItems⟩
        else if kind = "map" then
          match readField "values" fields with
          | some values => do return .map (← values)
          | none => .error ⟨[], .noValues⟩
        else if kind = "class" then readRef fields
        else if kind = "union" then
          match readMembers fields with
          | some members => do joined (← members)
          | none => .error ⟨[], .noMemberList⟩
        else .error ⟨[], .unknownKind kind⟩
    | _ => .error ⟨[], .noKind⟩
  | _ => .error ⟨[], .notAnObject .node⟩

/-- The node under a key. -/
def readField (key : Text) : Fields → Option (Except Fault Shape)
  | [] => none
  | (k, node) :: fields =>
    if k = key then some (within [key] (readShape node)) else readField key fields

/-- The nodes in the list of members. -/
def readMembers : Fields → Option (Except Fault (List Shape))
  | [] => none
  | (k, node) :: fields =>
    if k = "members" then
      match node with
      | .array nodes => some (readShapes 0 nodes)
      | _ => none
    else readMembers fields

def readShapes (index : Nat) : List Json → Except Fault (List Shape)
  | [] => .ok []
  | node :: nodes => do
    let shape ← within ["members", .ofString (toString index)] (readShape node)
    return shape :: (← readShapes (index + 1) nodes)
end

def readTexts : List Json → Option (List Text)
  | [] => some []
  | .string s :: nodes => (readTexts nodes).map (s :: ·)
  | _ :: _ => none

/-- A class that names no candidates is called by its reference. -/
def readNames (ref : Text) (fields : Fields) : Except Fault (List Text) :=
  let given := match nodeUnder? "names" fields with
    | none => some []
    | some (.string name) => some [name]
    | some (.array nodes) => readTexts nodes
    | some _ => none
  match given with
  | some [] => .ok [ref]
  | some names => .ok names
  | none => .error ⟨["names"], .badNames⟩

def asObject (part : Part) : Json → Except Fault (Fields)
  | .object fields => .ok fields
  | _ => .error ⟨[], .notAnObject part⟩

/-- The object under a key, empty when the key is missing. -/
def objectUnder (key : Text) (part : Part) (fields : Fields) :
    Except Fault (Fields) :=
  match nodeUnder? key fields with
  | none => .ok []
  | some node => within [key] (asObject part node)

def readEach {α : Type} (read : Text → Json → Except Fault α) :
    Fields → Except Fault (Entries Text α)
  | [] => .ok []
  | (key, node) :: fields => do
    let a ← within [key] (read key node)
    return (key, a) :: (← readEach read fields)

def readClass (ref : Text) (node : Json) : Except Fault RecordClass := do
  let fields ← asObject .classDefinition node
  let names ← readNames ref fields
  let properties ← objectUnder "properties" .properties fields
  let shapes ← within ["properties"] (readEach (fun _ => readShape) properties)
  return .new ref names shapes

/-- The graph that a decoded document describes. -/
def readGraph (document : Json) : Except Fault Graph := do
  let fields ← asObject .document document
  let some root := nodeUnder? "top_level" fields | throw ⟨[], .noTopLevel⟩
  let classNodes ← objectUnder "classes" .classes fields
  let classes ← within ["classes"] (readEach readClass classNodes)
  let topLevel ← within ["top_level"] (readShape root)
  let graph := Graph.new (classes.map (·.2)) topLevel
  match graph.danglingRefs with
  | [] => return graph
  | ref :: _ => throw ⟨[], .danglingRef ref⟩

/-- Why a text gives no graph; an integer with too many digits is not a fault of the document. -/
inductive TextError where
  | fault (f : Fault)
  | tooLong (e : Decimal.TooLong)
  deriving DecidableEq, Repr

def readText (text : String) : Except TextError Graph :=
  match Json.read text with
  | .ok document =>
    match readGraph document with
    | .ok g => .ok g
    | .error f => .error (.fault f)
  | .error (.fault problem position) => .error (.fault ⟨[], .badJson problem position⟩)
  | .error (.tooLong e) => .error (.tooLong e)

end Shapewright.Document
