import Shapewright.Json.Value

/-!
# TOML values

The values of a TOML document. `absent` stands for a value that is not there: no document holds it,
and it is stripped before a table is written.
-/
namespace Shapewright.Toml

inductive Moment where
  | date
  | time
  | dateTime
  deriving DecidableEq, Repr

inductive Value where
  | absent
  | string (s : String)
  | integer (n : Int)
  | float (x : Binary64)
  | boolean (b : Bool)
  | moment (kind : Moment) (text : String)
  | array (items : List Value)
  | table (entries : List (String × Value))
  deriving Repr, Inhabited

abbrev Table := List (String × Value)

namespace Value

/-- The word for the kind of a value in messages. -/
def kind : Value → String
  | .absent => "NoneType"
  | .string _ => "str"
  | .integer _ => "int"
  | .float _ => "float"
  | .boolean _ => "bool"
  | .moment .date _ => "date"
  | .moment .time _ => "time"
  | .moment .dateTime _ => "datetime"
  | .array _ => "list"
  | .table _ => "dict"

def isAbsent : Value → Bool
  | .absent => true
  | _ => false

def isTable : Value → Bool
  | .table _ => true
  | _ => false

mutual
/-- Leaves out everything absent, at any depth. -/
def strip : Value → Value
  | .array items => .array (stripItems items)
  | .table entries => .table (stripEntries entries)
  | v => v

def stripItems : List Value → List Value
  | [] => []
  | v :: vs => if v.isAbsent then stripItems vs else v.strip :: stripItems vs

def stripEntries : List (String × Value) → List (String × Value)
  | [] => []
  | (key, v) :: es => if v.isAbsent then stripEntries es else (key, v.strip) :: stripEntries es
end

mutual
def ofJson : Json → Value
  | .null => .absent
  | .boolean b => .boolean b
  | .integer n => .integer n
  | .double x => .float x
  | .string s => .string s.mended
  | .array items => .array (ofJsonItems items)
  | .object fields => .table (ofJsonFields fields)

def ofJsonItems : List Json → List Value
  | [] => []
  | v :: vs => ofJson v :: ofJsonItems vs

def ofJsonFields : List (Text × Json) → List (String × Value)
  | [] => []
  | (key, v) :: fs => (key.mended, ofJson v) :: ofJsonFields fs
end

end Value
end Shapewright.Toml
