import Shapewright.Identifier.Styled
import Shapewright.Plan.Key

/-!
# Display names

The name that a shape suggests for itself, before it is styled and before collisions are settled. A
union is called after its alternatives.
-/
namespace Shapewright.Plan

/-- The identifier that a text is written as; no half of a surrogate pair may stand in one. -/
def styledText (t : Text) : String := Identifier.styled t.mended

def baseName (g : Graph) (ref : Text) : Except EmitError Text :=
  match g.class? ref with
  | some c => .ok c.baseName
  | none => .error (.unknownClass ref)

def displayName (g : Graph) : Shape → Except EmitError Text
  | .nothing => .ok "Anything"
  | .null => .ok "Null"
  | .boolean => .ok "Bool"
  | .integer => .ok "Integer"
  | .double => .ok "Double"
  | .string => .ok "String"
  | .array items => do return (← displayName g items) ++ " Array"
  | .map values => do return (← displayName g values) ++ " Map"
  | .record ref => baseName g ref
  | .union _ => .ok "Union"

def displayNames (g : Graph) : List Shape → Except EmitError (List Text)
  | [] => .ok []
  | s :: ss => do
    let name ← displayName g s
    return name :: (← displayNames g ss)

/-- The styled alternatives in the order of their display names, joined by `Or`. -/
def unionBaseName (g : Graph) (members : List Shape) : Except EmitError String := do
  let names ← displayNames g (Shape.nonNull members)
  return "Or".intercalate ((Ordered.sort Text.le names).map styledText)

def fieldBaseName (g : Graph) (member : Shape) : Except EmitError String := do
  return styledText (← displayName g member)

end Shapewright.Plan
