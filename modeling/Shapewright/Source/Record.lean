import Shapewright.Layout.Basic
import Shapewright.Plan.TypeText
import Shapewright.Source.Literal

/-!
# Classes

A class of the graph as a class of the source: one attribute with the raw key and one property per
key. The attribute alone decides what is read, so the name of the property is free.
-/
namespace Shapewright.Source
open Layout Plan

def attributeLine (key : Text) : String := "[JsonProperty(" ++ Literal.quote key ++ ")]"

def propertyLine (type name : String) : String :=
  "public " ++ type ++ " " ++ name ++ " \x7b get; set; \x7d"

def propertyOps (p : Plan) (ref : Text) : Entries Text Shape → Except EmitError (List Op)
  | [] => .ok []
  | (key, shape) :: rest => do
    let type ← p.typeText shape
    let name ← p.propertyName ref key
    return .line (attributeLine key) :: .line (propertyLine type name) :: (← propertyOps p ref rest)

def recordHeader (name : String) : String := "public partial class " ++ name

def recordOps (p : Plan) (c : RecordClass) : Except EmitError (List Op) := do
  let name ← p.className c.ref
  let body ← propertyOps p c.ref c.properties
  return [.block (some (recordHeader name)) body]

end Shapewright.Source
