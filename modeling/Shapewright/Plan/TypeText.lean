import Shapewright.Plan.Basic

/-!
# Type expressions

How a shape is spelled as a type of the generated source. The union of a shape with null is that
shape made nullable; only the three value types need a mark for that.
-/
namespace Shapewright.TypeText

def objectType : String := "object"
def integerType : String := "long"
def doubleType : String := "double"
def booleanType : String := "bool"
def textType : String := "string"

def arrayOf (element : String) : String := element ++ "[]"

def dictionaryOf (value : String) : String := "Dictionary<string, " ++ value ++ ">"

/-- Types that cannot hold null as they are. -/
def valueTypes : List String := [integerType, doubleType, booleanType]

def nullable (type : String) : String := if valueTypes.contains type then type ++ "?" else type

end Shapewright.TypeText

namespace Shapewright.Plan
open TypeText

mutual
def typeText (p : Plan) : Shape → Except EmitError String
  | .nothing => .ok objectType
  | .null => .ok objectType
  | .boolean => .ok booleanType
  | .integer => .ok integerType
  | .double => .ok doubleType
  | .string => .ok textType
  | .array items => do return arrayOf (← typeText p items)
  | .map values => do return dictionaryOf (← typeText p values)
  | .record ref => p.className ref
  | .union members =>
    if (Shape.nullableOf? members).isSome then do return nullable (← firstTypeText p members)
    else p.unionName (.union members)

/-- The type of the first member that is not null. -/
def firstTypeText (p : Plan) : List Shape → Except EmitError String
  | [] => .ok objectType
  | m :: ms => if m = .null then firstTypeText p ms else typeText p m
end

/-- A type expression for the shape that can hold null as well. -/
def nullableText (p : Plan) (s : Shape) : Except EmitError String := do
  return nullable (← typeText p s)

end Shapewright.Plan
