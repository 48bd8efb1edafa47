import Shapewright.Layout.Basic
import Shapewright.Plan.TypeText

/-!
# Conversion

The entry point of the generated source, and the converter that leads values of the generated unions
to their constructors. There is a converter exactly when there is a union to convert.
-/
namespace Shapewright.Source
open Layout Plan

def entryLine (type : String) : String :=
  "public static " ++ type ++ " FromJson(string json) => JsonConvert.DeserializeObject<" ++ type ++
    ">(json, Settings);"

def entryOps (p : Plan) : Except EmitError (List Op) := do
  let type ← p.typeText p.graph.topLevel
  return [.block (some "public static class Convert") [
    .line (entryLine type),
    .blank,
    .line "static JsonSerializerSettings Settings = new JsonSerializerSettings",
    .line "\x7b",
    .indented (
      [.line "MetadataPropertyHandling = MetadataPropertyHandling.Ignore,",
       .line "DateParseHandling = DateParseHandling.None,"] ++
      if p.unions.isEmpty then [] else [.line "Converters = \x7b new Converter() \x7d,"]),
    .line "\x7d;"]]

def unionNames (p : Plan) : List Shape → Except EmitError (List String)
  | [] => .ok []
  | u :: us => do
    let name ← p.unionName u
    return name :: (← unionNames p us)

def typeCheck (name : String) : String := "t == typeof(" ++ name ++ ")"

def canConvertLine (names : List String) : String :=
  "public override bool CanConvert(Type t) => " ++ " || ".intercalate (names.map typeCheck) ++ ";"

def branchOps (name : String) : List Op :=
  [.line ("if (" ++ typeCheck name ++ ")"),
   .indented [.line ("return new " ++ name ++ "(reader, serializer);")]]

def converterOps (p : Plan) : Except EmitError (List Op) := do
  let names ← unionNames p p.unions
  return [.block (some "public class Converter : JsonConverter") [
    .line (canConvertLine names),
    .blank,
    .block (some ("public override object ReadJson(JsonReader reader, Type t, " ++
        "object existingValue, JsonSerializer serializer)"))
      (names.flatMap branchOps ++ [.line "throw new Exception(\"Unknown type\");"]),
    .blank,
    .block (some ("public override void WriteJson(JsonWriter writer, object value, " ++
        "JsonSerializer serializer)"))
      [.line "throw new NotImplementedException();"]]]

end Shapewright.Source
