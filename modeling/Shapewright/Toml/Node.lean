import Shapewright.Ordered
import Shapewright.Toml.Value

/-!
# Tables in parts

A document may give one table in several parts, which need not stand together. A part goes into the
last part of its table where both are only implied and no other table came between them; otherwise
it is kept beside the earlier parts. It is compared at once with the part before it, with the others
where they share a key, and all parts are put together when the table is looked at.
-/
namespace Shapewright.Toml

/-- How a part came about: by a header of its own, by headers of tables below it, or by a dotted
key. -/
inductive Origin where
  | header
  | implied
  | dotted
  deriving DecidableEq, Repr

/-- What stands under a key: a value, a part of a table, or an array of tables. -/
inductive Node where
  | value (v : Value)
  | table (origin : Origin) (entries : List (String × Node))
  | tables (elements : List (List (String × Node)))
  deriving Inhabited

/-- A key comes once for every part of its table. -/
abbrev Nodes := List (String × Node)

/-- Why a node cannot be added: its key is taken, or a table made by dotted keys has a header as
well. -/
inductive Clash where
  | repeatedKey
  | redefinedTable
  deriving DecidableEq, Repr

/-- A table with a header has no second one, and dotted keys and headers do not make the same
table. -/
def Origin.clash? : Origin → Origin → Option Clash
  | .header, .header => some .repeatedKey
  | .header, .dotted => some .redefinedTable
  | .dotted, .header => some .redefinedTable
  | _, _ => none

namespace Node

/-- The entries of a part of a table; anything else has none. -/
def entries : Node → Nodes
  | .table _ entries => entries
  | _ => []

def isTable : Node → Bool
  | .table _ _ => true
  | _ => false

end Node

namespace Nodes

def under (es : Nodes) (key : String) : List Node := (es.filter (·.1 == key)).map (·.2)

def last? (es : Nodes) (key : String) : Option Node := (es.under key).getLast?

def keys (es : Nodes) : List String := Ordered.firstSeen (es.map (·.1))

/-- Puts a node in the place of the last one under a key. -/
def setLast (key : String) (node : Node) : Nodes → Nodes
  | [] => []
  | e :: es =>
    if e.1 = key && !es.any (·.1 == key) then (key, node) :: es else e :: setLast key node es

/-- The key of the table that came last. -/
def lastTable? (es : Nodes) : Option String := (es.reverse.find? (·.2.isTable)).map (·.1)

def shareKey (es more : Nodes) : Bool := es.any fun e => more.any (·.1 == e.1)

/-- Parts of one table, the second of which comes later. A later dotted key is left to the
comparison. -/
def mayFollow : Origin → Origin → Except Clash Unit
  | .header, .dotted => .ok ()
  | first, second =>
    match first.clash? second with
    | some clash => .error clash
    | none => .ok ()

/-- Compares two parts of one table. A table that has several parts itself is not compared any
more. -/
def compare : Nat → Nodes → Nodes → Except Clash Unit
  | 0, _, _ => .error .repeatedKey
  | fuel + 1, es, more => more.forM fun e =>
    match es.under e.1, e.2 with
    | [], _ => .ok ()
    | [.table first old], .table second new =>
      match first.clash? second with
      | some clash => .error clash
      | none => compare fuel old new
    | [.tables _], .tables _ => .ok ()
    | [.tables _], .table .implied _ => .ok ()
    | _, _ => .error .repeatedKey

/-- Puts an entry beside those of other parts. Only tables come in parts; arrays of tables grow. -/
def beside (es : Nodes) (e : String × Node) : Except Clash Nodes :=
  match es.last? e.1, e.2 with
  | none, _ => .ok (es ++ [e])
  | some (.tables old), .tables new => .ok (es.setLast e.1 (.tables (old ++ new)))
  | some (.table _ _), _ => .ok (es ++ [e])
  | _, _ => .error .repeatedKey

mutual
/-- Adds a node under a key. A part that comes beside earlier ones has to agree with them at once
where `checked` says so. -/
def add (checked : Bool) : Nat → Nodes → String → Node → Except Clash Nodes
  | 0, _, _, _ => .error .repeatedKey
  | fuel + 1, es, key, node =>
    match es.last? key, node with
    | none, node => .ok (es ++ [(key, node)])
    | some (.tables old), .tables new => .ok (es.setLast key (.tables (old ++ new)))
    | some (.tables old), .table .implied entries =>
      match old.getLast? with
      | none => .error .repeatedKey
      | some last => do
        return es.setLast key (.tables (old.dropLast ++ [← entries.foldlM (put true fuel) last]))
    | some (.table first old), .table second entries => do
      if first = .implied && second = .implied && es.lastTable? = some key then
        return es.setLast key (.table .implied (← entries.foldlM (put true fuel) old))
      let whole := es ++ [(key, node)]
      if first = .header || second = .header then
        mayFollow first second
        compare fuel old entries
        if checked && shareKey ((es.under key).flatMap Node.entries) entries
          then agree fuel whole key
      else if checked then agree fuel whole key
      return whole
    | _, _ => .error .repeatedKey

/-- Adds an entry to a table and looks at what then stands under its key. -/
def put (checked : Bool) : Nat → Nodes → String × Node → Except Clash Nodes
  | 0, _, _ => .error .repeatedKey
  | fuel + 1, es, e => do
    let es ← add checked fuel es e.1 e.2
    match es.under e.1 with
    | first :: second :: more => let _ ← join fuel (first :: second :: more)
    | _ => pure ()
    return es

/-- Whether the parts under a key can be added to each other. -/
def agree : Nat → Nodes → String → Except Clash Unit
  | 0, _, _ => .error .repeatedKey
  | fuel + 1, es, key =>
    match es.under key with
    | first :: second :: more => do
      let entries := (first :: second :: more).flatMap Node.entries
      let _ ← entries.foldlM (fun whole e => add true fuel whole e.1 e.2) []
    | _ => .ok ()

/-- The entries of all parts of a table. Anything that is no table is left out. -/
def join : Nat → List Node → Except Clash Nodes
  | 0, _ => .error .repeatedKey
  | fuel + 1, parts => do
    let es ← (parts.flatMap Node.entries).foldlM beside []
    es.keys.forM (agree fuel es)
    return es
end

def agreeAll (fuel : Nat) (es : Nodes) : Except Clash Unit := es.keys.forM (agree fuel es)

mutual
/-- The entries of a table whose parts are all put together. -/
def whole : Nat → Nodes → Except Clash (List (String × Value))
  | 0, _ => .error .repeatedKey
  | fuel + 1, es => es.keys.mapM fun key => do return (key, ← value fuel (es.under key))

/-- The value of the nodes under one key. -/
def value : Nat → List Node → Except Clash Value
  | 0, _ => .error .repeatedKey
  | fuel + 1, nodes =>
    match nodes with
    | [.value v] => .ok v
    | [.table _ entries] => do return .table (← whole fuel entries)
    | [.tables elements] => do
      return .array (← elements.mapM fun es => do return .table (← whole fuel es))
    | parts => do return .table (← whole fuel (← join fuel parts))
end

end Nodes
end Shapewright.Toml
