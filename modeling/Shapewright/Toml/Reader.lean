import Shapewright.Toml.Lexer

/-!
# Reading TOML

A document as a list of statements, and the table that the statements build. A section takes in the
sections below it that follow, so a table may come in several parts, which `Nodes.add` brings
together.
-/
namespace Shapewright.Toml

/-- A header may be followed by a fault, which counts as soon as its section is read. -/
inductive Statement where
  | assign (path : List String) (value : Value)
  | header (isArray : Bool) (path : List String) (fault : Option ReadError)
  | broken (fault : ReadError)

/-- The end of a line after a statement: blanks and a comment. -/
def readLineEnd (cs : List Char) : Except ReadError (List Char) :=
  match skipBlanks cs with
  | [] => .ok []
  | '\n' :: rest => .ok rest
  | '#' :: rest =>
    let comment := rest.takeWhile (· ≠ '\n')
    if comment.any isControl then malformed else .ok ((rest.drop comment.length).drop 1)
  | _ => malformed

/-- What follows the key of a header. -/
def readHeaderEnd (isArray : Bool) (cs : List Char) : Except ReadError (List Char) :=
  match isArray, cs with
  | false, ']' :: rest => readLineEnd rest
  | true, ']' :: ']' :: rest => readLineEnd rest
  | _, _ => malformed

/-- The rest of a statement's line, or nothing where the statement is broken. -/
abbrev Step := Statement × Option (List Char)

def readHeader (cs : List Char) : Step :=
  let (isArray, cs) := match cs with
    | '[' :: rest => (true, rest)
    | rest => (false, rest)
  match readKey maxDepth cs with
  | .error e => (.broken e, none)
  | .ok (path, rest) =>
    match readHeaderEnd isArray rest with
    | .ok rest => (.header isArray path none, some rest)
    | .error e => (.header isArray path (some e), none)

def readPair (cs : List Char) : Except ReadError (Statement × List Char) := do
  let (path, rest) ← readKey maxDepth cs
  let rest ← readEquals rest
  let (value, rest) ← readValue (2 * rest.length + 2) maxDepth rest
  return (.assign path value, ← readLineEnd rest)

def readAssign (cs : List Char) : Step :=
  match readPair cs with
  | .ok (s, rest) => (s, some rest)
  | .error e => (.broken e, none)

/-- The statements up to the end of the document or the first broken one. -/
def readStatements : Nat → List Char → List Statement
  | 0, _ => [.broken .malformed]
  | fuel + 1, cs =>
    match cs.dropWhile fun c => isBlank c || c = '\n' with
    | [] => []
    | '#' :: rest =>
      match readLineEnd ('#' :: rest) with
      | .ok rest => readStatements fuel rest
      | .error e => [.broken e]
    | c :: rest =>
      match if c = '[' then readHeader rest else readAssign (c :: rest) with
      | (s, some rest) => s :: readStatements fuel rest
      | (s, none) => [s]

/-- At the top of the document a clash makes it malformed. -/
def atTop {α : Type} : Except Clash α → Except ReadError α
  | .ok a => .ok a
  | .error _ => malformed

/-- Gives a value to a key of a section. -/
def assignHere (size : Nat) (es : Nodes) (v : Value) : List String → Except Clash Nodes
  | [] => .ok es
  | key :: path => es.put false size (key, dottedNode v path)

/-- The assignments before the next header. -/
def takeAssigns (size : Nat) (es : Nodes) :
    List Statement → Except ReadError (Nodes × List Statement)
  | .assign path v :: ss => do takeAssigns size (← clashing (assignHere size es v path)) ss
  | .broken e :: _ => .error e
  | ss => .ok (es, ss)

def isBelow (parent child : List String) : Bool :=
  parent.length < child.length && child.take parent.length = parent

/-- A node under the tables that a longer header implies. -/
def impliedNode (node : Node) : List String → Node
  | [] => node
  | key :: path => .table .implied [(key, impliedNode node path)]

/-- A header whose section is to be read. -/
structure Header where
  isArray : Bool
  path : List String
  fault : Option ReadError

mutual
/-- The section of a header whose statements begin after it: its own assignments and the sections
below. `size` bounds how deep the parts of tables are compared. -/
def readSection (size : Nat) :
    Nat → List String → List Statement → Except ReadError (Nodes × List Statement)
  | 0, _, _ => malformed
  | fuel + 1, full, ss => do
    let (es, ss) ← takeAssigns size [] ss
    let (es, ss) ← readBelow size fuel full es ss
    clashing (es.agreeAll size)
    return (es, ss)

/-- The sections below a table, as long as they follow. -/
def readBelow (size : Nat) :
    Nat → List String → Nodes → List Statement → Except ReadError (Nodes × List Statement)
  | 0, _, _, _ => malformed
  | fuel + 1, parent, es, ss =>
    match ss with
    | .header isArray path fault :: rest =>
      if isBelow parent path then do
        let (key, node, rest) ← readNode size fuel parent ⟨isArray, path, fault⟩ rest
        readBelow size fuel parent (← clashing (es.put false size (key, node))) rest
      else .ok (es, ss)
    | .broken e :: _ => .error e
    | ss => .ok (es, ss)

/-- The node that a header gives to the table above it, under its key there. -/
def readNode (size : Nat) : Nat → List String → Header → List Statement →
    Except ReadError (String × Node × List Statement)
  | 0, _, _, _ => malformed
  | _, _, ⟨_, _, some e⟩, _ => .error e
  | fuel + 1, parent, ⟨isArray, full, none⟩, ss => do
    let (es, ss) ← readSection size fuel full ss
    match full.drop parent.length with
    | [] => malformed
    | [key] =>
      if isArray then
        let (elements, ss) ← readElements size fuel full ss
        return (key, .tables (es :: elements), ss)
      else return (key, .table .header es, ss)
    | key :: path =>
      let node := if isArray then .tables [es] else .table .header es
      return (key, impliedNode node path, ss)

/-- Further elements of an array of tables that follow at once. -/
def readElements (size : Nat) : Nat → List String → List Statement →
    Except ReadError (List Nodes × List Statement)
  | 0, _, _ => malformed
  | fuel + 1, full, ss =>
    match ss with
    | .header true next fault :: rest =>
      if next = full then do
        if let some e := fault then throw e
        let (es, rest) ← readSection size fuel full rest
        let (elements, rest) ← readElements size fuel full rest
        return (es :: elements, rest)
      else .ok ([], ss)
    | .broken e :: _ => .error e
    | ss => .ok ([], ss)
end

def readTop (size : Nat) : Nat → Nodes → List Statement → Except ReadError Nodes
  | 0, _, _ => malformed
  | _, es, [] => .ok es
  | fuel + 1, es, .assign path v :: ss => do
    readTop size fuel (← atTop (assign size es v path)) ss
  | fuel + 1, es, .header isArray path fault :: ss => do
    let (key, node, ss) ← readNode size fuel [] ⟨isArray, path, fault⟩ ss
    readTop size fuel (← atTop (es.add true size key node)) ss
  | _, _, .broken e :: _ => .error e

/-- The table that a document describes. Parts may still clash when it is put together at the
end. -/
def read (text : String) : Except ReadError Table := do
  let cs := text.toList
  let size := 2 * cs.length + 2
  let statements := readStatements size cs
  let es ← readTop size (4 * statements.length + 4) [] statements
  clashing (es.whole size)

end Shapewright.Toml
