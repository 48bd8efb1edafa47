import Shapewright.Dispatch.Table
import Shapewright.Plan.Basic

/-!
# Decoders

A decoder reads values of one generated union as the generated constructor does: the table picks a
field, and the value is stored there as it stands, or as a double where the field is one.
-/
namespace Shapewright.Dispatch

structure Decoder where
  plan : Plan
  union : Shape
  name : String
  cases : List Case

/-- `field` is missing for a null value. -/
structure Decoded where
  unionName : String
  field : Option String
  value : Json

inductive DecodeError where
  | unconvertible (unionName : String)
  | tooLarge
  | emit (e : Plan.EmitError)
  deriving DecidableEq, Repr

def conversionMessage (unionName : String) : String := "Cannot convert " ++ unionName

def DecodeError.message : DecodeError → String
  | .unconvertible unionName => conversionMessage unionName
  | .tooLarge => "int too large to convert to float"
  | .emit e => e.message

/-- A field that was not filled holds null. -/
def Decoded.get (d : Decoded) (field : String) : Json :=
  if d.field = some field then d.value else .null

def Decoder.new (plan : Plan) (union : Shape) : Except Plan.EmitError Decoder := do
  let name ← plan.unionName union
  return ⟨plan, union, name, table (Plan.membersOf union)⟩

/-- The value as a double; an integer may be too large for one. -/
def toDouble : Json → Except DecodeError Json
  | .integer n =>
    match Binary64.ofInt? n with
    | some x => .ok (.double x)
    | none => .error .tooLarge
  | value => .ok value

def Decoder.decode (d : Decoder) (value : Json) : Except DecodeError Decoded :=
  match caseFor? d.cases (.of value) with
  | none => .error (.unconvertible d.name)
  | some ⟨_, none⟩ => .ok ⟨d.name, none, .null⟩
  | some ⟨_, some member⟩ => do
    let stored ← if member = .double then toDouble value else .ok value
    match d.plan.fieldName d.union member with
    | .ok field => return ⟨d.name, some field, stored⟩
    | .error e => throw (.emit e)

end Shapewright.Dispatch
