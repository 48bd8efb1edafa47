import Shapewright.Number.Shortest
import Shapewright.Text.Hex
import Shapewright.Toml.Value

/-!
# Writing TOML

Tables as TOML text. In a table the plain values come first, then the sub-tables and arrays of
tables. In an element of such an array the sub-tables come last of all. Otherwise entries keep their
order. A table that holds nothing but tables needs no header of its own. A header is set off by a
blank line from anything before it in the same table.
-/
namespace Shapewright.Toml

def basicEscape (c : Char) : List Char :=
  match c with
  | '"' => ['\\', '"']
  | '\\' => ['\\', '\\']
  | '\x08' => ['\\', 'b']
  | '\t' => ['\\', 't']
  | '\n' => ['\\', 'n']
  | '\x0c' => ['\\', 'f']
  | '\r' => ['\\', 'r']
  | c =>
    if c.toNat < 0x20 || c.toNat = 0x7F then '\\' :: 'u' :: Hex.padded 4 c.toNat else [c]

def quoted (s : String) : String :=
  "\"" ++ String.ofList (s.toList.flatMap basicEscape) ++ "\""

def isBareChar (c : Char) : Bool := c.isAlphanum || c = '-' || c = '_'

def keyText (key : String) : String :=
  if !key.isEmpty && key.toList.all isBareChar then key else quoted key

mutual
/-- A value on one line. `top` tells a table that stands in an array from one inside an inline
table, where less space is left between the entries. -/
def inlineText (top : Bool) : Value → String
  | .absent => ""
  | .string s => quoted s
  | .integer n => toString n
  | .float x => x.text
  | .boolean b => if b then "true" else "false"
  | .moment _ text => text
  | .array items => "[" ++ ", ".intercalate (itemTexts items) ++ "]"
  | .table entries =>
    "\x7b" ++ (if top then ", " else ",").intercalate (entryTexts entries) ++ "\x7d"

def itemTexts : List Value → List String
  | [] => []
  | v :: vs => inlineText true v :: itemTexts vs

def entryTexts : List (String × Value) → List String
  | [] => []
  | (key, v) :: es => (keyText key ++ " = " ++ inlineText false v) :: entryTexts es
end

/-- An array of nothing but tables is written as a sequence of tables, if it has any. -/
def isTableArray : Value → Bool
  | .array items => !items.isEmpty && items.all Value.isTable
  | _ => false

def isPlain (v : Value) : Bool := !v.isTable && !isTableArray v

def tablesLast (entries : List (String × Value)) : List (String × Value) :=
  entries.filter (!·.2.isTable) ++ entries.filter (·.2.isTable)

mutual
/-- Puts the entries of every table in the order in which they are written, but for the plain
values. -/
def arrange : Value → Value
  | .table entries => .table (arrangeEntries entries)
  | .array items =>
    if isTableArray (.array items) then .array (arrangeElements items) else .array items
  | v => v

def arrangeEntries : List (String × Value) → List (String × Value)
  | [] => []
  | (key, v) :: es => (key, arrange v) :: arrangeEntries es

def arrangeElements : List Value → List Value
  | [] => []
  | .table entries :: vs => .table (tablesLast (arrangeEntries entries)) :: arrangeElements vs
  | v :: vs => v :: arrangeElements vs
end

def pathText (path : List String) : String := ".".intercalate (path.map keyText)

def header (path : List String) : String := "[" ++ pathText path ++ "]\n"

def arrayHeader (path : List String) : String := "[[" ++ pathText path ++ "]]\n"

/-- A table whose entries are all tables, and that has any, is known by its sub-tables alone. -/
def isHeaderless (entries : List (String × Value)) : Bool :=
  !entries.isEmpty && entries.all fun e => !isPlain e.2

/-- What an entry adds to its table; plain values go before everything else. -/
structure Part where
  plain : Bool
  text : String

def joinParts (parts : List Part) : String :=
  String.join ((parts.filter (·.plain)).map (·.text)) ++
    String.join ((parts.filter (!·.plain)).map (·.text))

/-- A blank line before a part that something came before. -/
def setOff (earlier : Bool) : String := if earlier then "\n" else ""

mutual
/-- The part of one entry of the table with the given path. `earlier` tells whether another entry
came before, `later` whether a plain value comes after and moves to the front of a table. -/
def entryPart (path : List String) (earlier later : Bool) (key : String) : Value → Part
  | .table entries =>
    let here := path ++ [key]
    let head := if isHeaderless entries then "" else header here
    ⟨false, setOff (earlier || later) ++ head ++ joinParts (partsOf here false entries)⟩
  | .array items =>
    if isTableArray (.array items) then ⟨false, elementTexts (path ++ [key]) earlier items⟩
    else ⟨true, keyText key ++ " = " ++ inlineText true (.array items) ++ "\n"⟩
  | v => ⟨true, keyText key ++ " = " ++ inlineText true v ++ "\n"⟩

/-- The elements of an array of tables; an empty one does not set off the next. -/
def elementTexts (path : List String) (earlier : Bool) : List Value → String
  | [] => ""
  | .table entries :: vs =>
    setOff earlier ++ arrayHeader path ++ joinParts (partsOf path false entries) ++
      elementTexts path (!entries.isEmpty) vs
  | _ :: vs => elementTexts path earlier vs

def partsOf (path : List String) (earlier : Bool) : List (String × Value) → List Part
  | [] => []
  | (key, v) :: es => entryPart path earlier (es.any (isPlain ·.2)) key v :: partsOf path true es
end

/-- A whole document. -/
def render (entries : Table) : String := joinParts (partsOf [] false (arrangeEntries entries))

end Shapewright.Toml
