import Shapewright.Json.Reader

/-!
# Faults of a document

What is wrong with a document, and at which node.
-/
namespace Shapewright.Document

/-- The parts of a document that have to be objects. -/
inductive Part where
  | document
  | classes
  | classDefinition
  | properties
  | node
  deriving DecidableEq, Repr

def Part.description : Part → String
  | .document => "IR document"
  | .classes => "'classes'"
  | .classDefinition => "class definition"
  | .properties => "properties"
  | .node => "type node"

inductive Cause where
  | notAnObject (part : Part)
  | noKind
  | unknownKind (kind : Text)
  | noItems
  | noValues
  | noRef
  | noMemberList
  | emptyUnion
  | singleUnion
  | badNames
  | noTopLevel
  | danglingRef (ref : Text)
  | badJson (problem : Json.Problem) (position : Json.Position)
  deriving DecidableEq, Repr

def Cause.message : Cause → String
  | .notAnObject part => part.description ++ " must be an object"
  | .noKind => "type node needs a string 'kind'"
  | .unknownKind kind => s!"unknown type kind '{kind.shown}'"
  | .noItems => "array node needs 'items'"
  | .noValues => "map node needs 'values'"
  | .noRef => "class node needs a non-empty string 'ref'"
  | .noMemberList => "union node needs a 'members' list"
  | .emptyUnion => "union node has no members"
  | .singleUnion => "union node must have at least two distinct members"
  | .badNames => "'names' must be a list of strings"
  | .noTopLevel => "IR document needs a 'top_level' type"
  | .danglingRef ref => s!"reference to undefined class '{ref.shown}'"
  | .badJson problem position =>
    "invalid JSON: " ++ problem.message ++ s!" (line {position.line}, column {position.column})"

/-- `path` leads from the root to the node, by keys and indices. -/
structure Fault where
  path : List Text
  cause : Cause
  deriving DecidableEq, Repr

/-- The two characters with a meaning in a pointer are written as `~0` and `~1`. -/
def escapePoint (c : CodePoint) : List CodePoint :=
  if c = .char '~' then [.char '~', .char '0']
  else if c = .char '/' then [.char '~', .char '1']
  else [c]

def escapeToken (token : Text) : List CodePoint := token.points.flatMap escapePoint

/-- The steps of a path, each behind a slash. -/
def pointer (path : List Text) : Text := ⟨path.flatMap fun token => .char '/' :: escapeToken token⟩

/-- What is said about a place; the root is shown as a slash. -/
def describe (location message : String) : String :=
  (if location.isEmpty then "/" else location) ++ ": " ++ message

/-- The place of the fault when the root stands at `base`. -/
def Fault.placeFrom (base : Text) (f : Fault) : Text := base ++ pointer f.path

def Fault.location (f : Fault) : String := (f.placeFrom "").shown

def Fault.message (f : Fault) : String := describe f.location f.cause.message

/-- A result inside the node reached by `path`. -/
def within {α : Type} (path : List Text) : Except Fault α → Except Fault α
  | .ok a => .ok a
  | .error f => .error { f with path := path ++ f.path }

end Shapewright.Document
