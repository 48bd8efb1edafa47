import Shapewright.Document.Reader

/-!
# Writing documents

The document form of shapes and graphs. Reading it gives the same graph back.
-/
namespace Shapewright.Document

def node (kind : String) (rest : List (Text × Json)) : Json :=
  .object (("kind", .string kind) :: rest)

mutual
def ofShape : Shape → Json
  | .nothing => node "nothing" []
  | .null => node "null" []
  | .boolean => node "bool" []
  | .integer => node "integer" []
  | .double => node "double" []
  | .string => node "string" []
  | .array items => node "array" [("items", ofShape items)]
  | .map values => node "map" [("values", ofShape values)]
  | .record ref => node "class" [("ref", .string ref)]
  | .union members => node "union" [("members", .array (ofShapes members))]

def ofShapes : List Shape → List Json
  | [] => []
  | m :: ms => ofShape m :: ofShapes ms
end

def ofClass (c : RecordClass) : Json := .object [
  ("names", .array (c.names.map .string)),
  ("properties", .object (c.properties.map fun p => (p.1, ofShape p.2)))]

def ofGraph (g : Graph) : Json := .object [
  ("top_level", ofShape g.topLevel),
  ("classes", .object (g.classes.map fun c => (c.ref, ofClass c)))]

end Shapewright.Document
