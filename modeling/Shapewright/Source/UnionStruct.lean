import Shapewright.Dispatch.Decoder
import Shapewright.Layout.Basic
import Shapewright.Plan.TypeText
import Shapewright.Source.Literal

/-!
# Unions

A generated union as a struct with one nullable field per alternative. Its constructor clears every
field and then switches on the kind of the token, as the dispatch table says; it throws where no
case applies.
-/
namespace Shapewright.Source
open Layout Plan Dispatch

def fieldLine (type name : String) : String := "public " ++ type ++ " " ++ name ++ ";"

def clearLine (name : String) : String := name ++ " = null;"

def caseLabel (t : Token) : String := "case JsonToken." ++ t.name ++ ":"

def assignLine (field type : String) : String :=
  field ++ " = serializer.Deserialize<" ++ type ++ ">(reader);"

def fieldOps (p : Plan) (union : Shape) : List Shape → Except EmitError (List Op)
  | [] => .ok []
  | m :: ms => do
    let type ← p.nullableText m
    let name ← p.fieldName union m
    return .line (fieldLine type name) :: (← fieldOps p union ms)

def clearOps (p : Plan) (union : Shape) : List Shape → Except EmitError (List Op)
  | [] => .ok []
  | m :: ms => do
    let name ← p.fieldName union m
    return .line (clearLine name) :: (← clearOps p union ms)

/-- What a case does before it returns. -/
def armOps (p : Plan) (union : Shape) : Option Shape → Except EmitError (List Op)
  | none => .ok [.line "return;"]
  | some m => do
    let field ← p.fieldName union m
    let type ← p.typeText m
    return [.line (assignLine field type), .line "return;"]

def switchOps (p : Plan) (union : Shape) : List Case → Except EmitError (List Op)
  | [] => .ok []
  | c :: cs => do
    let arm ← armOps p union c.member
    return c.tokens.map (.line <| caseLabel ·) ++ .indented arm :: (← switchOps p union cs)

def structHeader (name : String) : String := "public struct " ++ name

def constructorHeader (name : String) : String :=
  "public " ++ name ++ "(JsonReader reader, JsonSerializer serializer)"

def refusalLine (name : String) : String :=
  "throw new Exception(" ++ Literal.quote (conversionMessage name) ++ ");"

def unionOps (p : Plan) (union : Shape) : Except EmitError (List Op) := do
  let name ← p.unionName union
  let members := Shape.nonNull (membersOf union)
  let fields ← fieldOps p union members
  let clears ← clearOps p union members
  let cases ← switchOps p union (table (membersOf union))
  return [.block (some (structHeader name)) (fields ++ [
    .blank,
    .block (some (constructorHeader name)) (clears ++ [
      .blank,
      .block (some "switch (reader.TokenType)") cases,
      .line (refusalLine name)])])]

end Shapewright.Source
