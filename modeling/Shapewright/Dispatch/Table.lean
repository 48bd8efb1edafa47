import Shapewright.Json.Value
import Shapewright.Shape.Union

/-!
# Dispatch tables

Which member of a union a value goes to, decided by the kind of its first token alone. The table
lists its cases in a fixed order; no token is in two of them.
-/
namespace Shapewright.Dispatch

inductive Token where
  | null
  | integer
  | float
  | boolean
  | string
  | date
  | startArray
  | startObject
  deriving DecidableEq, Repr

def Token.all : List Token :=
  [.null, .integer, .float, .boolean, .string, .date, .startArray, .startObject]

def Token.name : Token → String
  | .null => "Null"
  | .integer => "Integer"
  | .float => "Float"
  | .boolean => "Boolean"
  | .string => "String"
  | .date => "Date"
  | .startArray => "StartArray"
  | .startObject => "StartObject"

/-- The token that a value begins with. -/
def Token.of : Json → Token
  | .null => .null
  | .boolean _ => .boolean
  | .integer _ => .integer
  | .double _ => .float
  | .string _ => .string
  | .array _ => .startArray
  | .object _ => .startObject

/-- `member` is missing where the value is null and no member keeps it. -/
structure Case where
  tokens : List Token
  member : Option Shape
  deriving DecidableEq, Repr

def isArray : Shape → Bool
  | .array _ => true
  | _ => false

def isRecord : Shape → Bool
  | .record _ => true
  | _ => false

def isMap : Shape → Bool
  | .map _ => true
  | _ => false

/-- The case of a member that is one certain shape. -/
def caseOf (members : List Shape) (shape : Shape) (tokens : List Token) : List Case :=
  if members.contains shape then [⟨tokens, some shape⟩] else []

/-- The case of the first member of a kind. -/
def caseFor (member : Option Shape) (token : Token) : List Case :=
  match member with
  | some m => [⟨[token], some m⟩]
  | none => []

/-- An integer is a double as well, so it goes to the double member when there is no other. -/
def table (members : List Shape) : List Case :=
  (if members.contains .null then [⟨[.null], none⟩] else []) ++
  caseOf members .integer [.integer] ++
  caseOf members .double (if members.contains .integer then [.float] else [.integer, .float]) ++
  caseOf members .boolean [.boolean] ++
  caseOf members .string [.string, .date] ++
  caseFor (members.find? isArray) .startArray ++
  caseFor ((members.find? isRecord).or (members.find? isMap)) .startObject

def caseFor? (cases : List Case) (token : Token) : Option Case :=
  cases.find? (·.tokens.contains token)

end Shapewright.Dispatch
