import Shapewright.Registry.Basic
import Shapewright.Shape.Graph
import Shapewright.Text.Quoted

/-!
# What gets a name

The scopes of a plan and the things that are named in them, and what can go wrong when a graph is
named or rendered. For a graph whose references all resolve nothing does.
-/
namespace Shapewright.Plan

/-- One scope for all types, one for the properties of each class, one for the fields of each
union. -/
inductive ScopeKey where
  | types
  | properties (ref : Text)
  | fields (union : Shape)
  deriving DecidableEq, Repr

inductive NameKey where
  | record (ref : Text)
  | union (shape : Shape)
  | property (key : Text)
  | field (member : Shape)
  deriving DecidableEq, Repr

mutual
/-- How a shape is spelled in messages. -/
def shapeText : Shape → String
  | .nothing => "NothingType()"
  | .null => "NullType()"
  | .boolean => "BoolType()"
  | .integer => "IntegerType()"
  | .double => "DoubleType()"
  | .string => "StringType()"
  | .array items => "ArrayType(items=" ++ shapeText items ++ ")"
  | .map values => "MapType(values=" ++ shapeText values ++ ")"
  | .record ref => "ClassType(ref=" ++ Quoted.quote ref ++ ")"
  | .union members =>
    "UnionType(members=frozenset(\x7b" ++ ", ".intercalate (shapeTexts members) ++ "\x7d))"

def shapeTexts : List Shape → List String
  | [] => []
  | m :: ms => shapeText m :: shapeTexts ms
end

def ScopeKey.text : ScopeKey → String
  | .types => "types"
  | .properties ref => Quoted.group [Quoted.quote "properties", Quoted.quote ref]
  | .fields union => Quoted.group [Quoted.quote "fields", shapeText union]

instance : KeyText ScopeKey where
  quoted
    | .types => Quoted.quote "types"
    | scope => scope.text
  label := ScopeKey.text

def NameKey.text : NameKey → String
  | .record ref => Quoted.group [Quoted.quote "class", Quoted.quote ref]
  | .union shape => Quoted.group [Quoted.quote "union", shapeText shape]
  | .property key => Quoted.quote key
  | .field member => shapeText member

instance : KeyText NameKey where
  quoted := NameKey.text
  label := NameKey.text

/-- The names of a plan. -/
abbrev Names := Registry ScopeKey NameKey

inductive EmitError where
  | unknownClass (ref : Text)
  | naming (e : NamingError ScopeKey NameKey)
  deriving DecidableEq, Repr

def EmitError.message : EmitError → String
  | .unknownClass ref => s!"Unknown class reference '{ref.shown}'"
  | .naming e => e.message

def ofNaming {α : Type} : Except (NamingError ScopeKey NameKey) α → Except EmitError α
  | .ok a => .ok a
  | .error e => .error (.naming e)

end Shapewright.Plan
