import Shapewright.Plan.Display

/-!
# Plans

A plan fixes every name of the generated source in one pass, before anything is written: the classes
in order of declaration, then the generated unions in order of first occurrence, then the properties
of each class and the fields of each union. Afterwards the names are frozen.
-/
namespace Shapewright

/-- `unions` lists the generated unions in the order in which they are written. -/
structure Plan where
  graph : Graph
  names : Plan.Names
  unions : List Shape

namespace Plan

/-- The members of a union; any other shape has none. -/
def membersOf : Shape → List Shape
  | .union members => members
  | _ => []

def nameClasses (names : Names) : List RecordClass → Except EmitError Names
  | [] => .ok names
  | c :: cs => do
    let (_, names) ← ofNaming (names.allocate .types (.record c.ref) (styledText c.baseName))
    nameClasses names cs

def nameUnions (g : Graph) (names : Names) : List Shape → Except EmitError Names
  | [] => .ok names
  | u :: us => do
    let preferred ← unionBaseName g (membersOf u)
    let (_, names) ← ofNaming (names.allocate .types (.union u) preferred)
    nameUnions g names us

def nameProperties (ref : Text) (names : Names) : List Text → Except EmitError Names
  | [] => .ok names
  | key :: keys => do
    let (_, names) ←
      ofNaming (names.allocate (.properties ref) (.property key) (styledText key))
    nameProperties ref names keys

/-- A property never takes the name of its class. -/
def nameClassMembers (names : Names) : List RecordClass → Except EmitError Names
  | [] => .ok names
  | c :: cs => do
    let className ← ofNaming (names.find .types (.record c.ref))
    let (_, names) ← ofNaming
      (names.enter (.properties c.ref) ("properties of " ++ className) [className])
    let names ← nameProperties c.ref names c.properties.keys
    nameClassMembers names cs

def nameFields (g : Graph) (u : Shape) (names : Names) : List Shape → Except EmitError Names
  | [] => .ok names
  | m :: ms => do
    let preferred ← fieldBaseName g m
    let (_, names) ← ofNaming (names.allocate (.fields u) (.field m) preferred)
    nameFields g u names ms

/-- A field never takes the name of its union. -/
def nameUnionMembers (g : Graph) (names : Names) : List Shape → Except EmitError Names
  | [] => .ok names
  | u :: us => do
    let unionName ← ofNaming (names.find .types (.union u))
    let (_, names) ← ofNaming (names.enter (.fields u) ("fields of " ++ unionName) [unionName])
    let names ← nameFields g u names (Shape.nonNull (membersOf u))
    nameUnionMembers g names us

/-- The plan of a graph in which no type takes a forbidden name. -/
def ofGraph (g : Graph) (forbidden : List String) : Except EmitError Plan := do
  let unions := g.unions
  let names ← nameClasses (.new .types forbidden) g.classes
  let names ← nameUnions g names unions
  let names ← nameClassMembers names g.classes
  let names ← nameUnionMembers g names unions
  return ⟨g, names.freeze, unions⟩

def className (p : Plan) (ref : Text) : Except EmitError String :=
  ofNaming (p.names.find .types (.record ref))

def unionName (p : Plan) (union : Shape) : Except EmitError String :=
  ofNaming (p.names.find .types (.union union))

def propertyName (p : Plan) (ref key : Text) : Except EmitError String :=
  ofNaming (p.names.find (.properties ref) (.property key))

def fieldName (p : Plan) (union member : Shape) : Except EmitError String :=
  ofNaming (p.names.find (.fields union) (.field member))

end Plan
end Shapewright
