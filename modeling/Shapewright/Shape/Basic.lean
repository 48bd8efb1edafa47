import Shapewright.Text.Basic

/-!
# Shapes

A shape says which values may stand at one place of a document. `code` spells a shape as a list of
words from which the shape can be read back, so equality and a total order come from lists of words.
`key` is the readable spelling that fixes the order of alternatives wherever two of them have
different keys.
-/
namespace Shapewright

/-- The members of a union form a set: `Shape.Canonical` asks for them in one fixed order. -/
inductive Shape where
  | nothing
  | null
  | boolean
  | integer
  | double
  | string
  | array (items : Shape)
  | map (values : Shape)
  | record (ref : Text)
  | union (members : List Shape)
  deriving Repr, Inhabited

namespace Shape

mutual
def code : Shape → List Text
  | .nothing => ["nothing"]
  | .null => ["null"]
  | .boolean => ["boolean"]
  | .integer => ["integer"]
  | .double => ["double"]
  | .string => ["string"]
  | .array items => "array" :: items.code
  | .map values => "map" :: values.code
  | .record ref => ["record", ref]
  | .union members => "union" :: codes members

def codes : List Shape → List Text
  | [] => ["end"]
  | m :: ms => "member" :: (m.code ++ codes ms)
end

mutual
/-- What follows a code cannot be taken for a part of it. -/
theorem code_append_inj {x y : List Text} :
    ∀ {a b : Shape}, a.code ++ x = b.code ++ y → a = b ∧ x = y
  | a, .nothing, h => by cases a <;> simp_all [code]
  | a, .null, h => by cases a <;> simp_all [code]
  | a, .boolean, h => by cases a <;> simp_all [code]
  | a, .integer, h => by cases a <;> simp_all [code]
  | a, .double, h => by cases a <;> simp_all [code]
  | a, .string, h => by cases a <;> simp_all [code]
  | a, .record ref, h => by cases a <;> simp_all [code]
  | .array a, .array b, h => by
    have := code_append_inj (a := a) (b := b) (by simpa [code] using h)
    simp [this]
  | .map a, .map b, h => by
    have := code_append_inj (a := a) (b := b) (by simpa [code] using h)
    simp [this]
  | .union as, .union bs, h => by
    have := @codes_append_inj x y as bs (by simpa [code] using h)
    simp [this]
  | .nothing, .array _, h | .null, .array _, h | .boolean, .array _, h | .integer, .array _, h
  | .double, .array _, h | .string, .array _, h | .map _, .array _, h | .record _, .array _, h
  | .union _, .array _, h => by simp [code] at h
  | .nothing, .map _, h | .null, .map _, h | .boolean, .map _, h | .integer, .map _, h
  | .double, .map _, h | .string, .map _, h | .array _, .map _, h | .record _, .map _, h
  | .union _, .map _, h => by simp [code] at h
  | .nothing, .union _, h | .null, .union _, h | .boolean, .union _, h | .integer, .union _, h
  | .double, .union _, h | .string, .union _, h | .array _, .union _, h | .record _, .union _, h
  | .map _, .union _, h => by simp [code] at h

theorem codes_append_inj {x y : List Text} :
    ∀ {as bs : List Shape}, codes as ++ x = codes bs ++ y → as = bs ∧ x = y
  | [], [], h => by simpa [codes] using h
  | [], _ :: _, h => by simp [codes] at h
  | _ :: _, [], h => by simp [codes] at h
  | a :: as, b :: bs, h => by
    have head := code_append_inj (a := a) (b := b) (x := codes as ++ x) (y := codes bs ++ y)
      (by simpa [codes] using h)
    have tail := codes_append_inj head.2
    simp [head.1, tail]
end

theorem code_inj {a b : Shape} (h : a.code = b.code) : a = b :=
  (code_append_inj (x := []) (y := []) (by simpa using h)).1

instance : DecidableEq Shape := fun a b =>
  decidable_of_iff (a.code = b.code) ⟨code_inj, fun h => h ▸ rfl⟩

mutual
def key : Shape → Text
  | .nothing => "NothingType"
  | .null => "NullType"
  | .boolean => "BoolType"
  | .integer => "IntegerType"
  | .double => "DoubleType"
  | .string => "StringType"
  | .array items => "array<" ++ items.key ++ ">"
  | .map values => "map<" ++ values.key ++ ">"
  | .record ref => "class:" ++ ref
  | .union members => "union<" ++ Text.join "," (keys members) ++ ">"

def keys : List Shape → List Text
  | [] => []
  | m :: ms => m.key :: keys ms
end

/-- Shapes come in the order of their keys, and of their codes where the keys agree. -/
def precedes (a b : Shape) : Bool :=
  a.key < b.key || a.key == b.key && a.code < b.code

def isUnion : Shape → Bool
  | .union _ => true
  | _ => false

mutual
/-- The shape and the shapes inside it, outermost first and left to right; a record is not
entered. -/
def walk : Shape → List Shape
  | .array items => .array items :: items.walk
  | .map values => .map values :: values.walk
  | .union members => .union members :: walkAll members
  | s => [s]

def walkAll : List Shape → List Shape
  | [] => []
  | m :: ms => m.walk ++ walkAll ms
end

end Shape
end Shapewright
