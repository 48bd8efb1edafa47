import Shapewright.Shape.Basic

/-!
# Unions

Alternatives gathered into a set. Joining shapes flattens unions, drops repetitions and gives back a
single alternative as itself.
-/
namespace Shapewright.Shape

/-- Puts a member at its place, unless it is there already. -/
def insertMember (s : Shape) : List Shape → List Shape
  | [] => [s]
  | m :: ms =>
    if s = m then m :: ms
    else if s.precedes m then s :: m :: ms
    else m :: insertMember s ms

/-- The set of the given shapes, in order. -/
def collect (shapes : List Shape) : List Shape := shapes.foldr insertMember []

/-- A union offers its members, any other shape itself. -/
def alternatives : Shape → List Shape
  | .union members => members
  | s => [s]

/-- There is nothing to join in an empty list. -/
def join? (shapes : List Shape) : Option Shape :=
  match collect (shapes.flatMap alternatives) with
  | [] => none
  | [s] => some s
  | members => some (.union members)

inductive UnionError where
  | tooFew (count : Nat)
  | nested
  | empty
  deriving DecidableEq, Repr

def UnionError.message : UnionError → String
  | .tooFew count => s!"A union needs at least two members, got {count}"
  | .nested => "Unions must be flat; use make_union() to merge nested unions"
  | .empty => "make_union() needs at least one type"

/-- A union of exactly the given members, which must be several and no unions themselves. -/
def unionOf (shapes : List Shape) : Except UnionError Shape :=
  let members := collect shapes
  if members.length < 2 then .error (.tooFew members.length)
  else if members.any isUnion then .error .nested
  else .ok (.union members)

def join (shapes : List Shape) : Except UnionError Shape :=
  match join? shapes with
  | some s => .ok s
  | none => .error .empty

/-- What is joined at once: a shape by itself, or several shapes together. -/
inductive Operand where
  | one (s : Shape)
  | several (shapes : List Shape)
  deriving Repr

def Operand.shapes : Operand → List Shape
  | .one s => [s]
  | .several shapes => shapes

def given (operands : List Operand) : List Shape := operands.flatMap Operand.shapes

/-- Joins all shapes that the operands give. A union that comes out of it is checked like any
other. -/
def joinOperands (operands : List Operand) : Except UnionError Shape :=
  match collect ((given operands).flatMap alternatives) with
  | [] => .error .empty
  | [s] => .ok s
  | members => unionOf members

/-- The other alternative of a union that only adds null to it. -/
def nullableOf? (members : List Shape) : Option Shape :=
  match members.length, members.filter (· ≠ .null) with
  | 2, [s] => some s
  | _, _ => none

/-- A union that is more than a nullable shape gets a type of its own. -/
def isGenerated : Shape → Bool
  | .union members => (nullableOf? members).isNone
  | _ => false

def nonNull (members : List Shape) : List Shape := members.filter (· ≠ .null)

mutual
/-- Every union inside has several members in strict order, none of them a union. -/
def Canonical : Shape → Prop
  | .array items => items.Canonical
  | .map values => values.Canonical
  | .union members =>
    2 ≤ members.length ∧ members.Pairwise (·.precedes ·) ∧ members.all (!isUnion ·) ∧
      AllCanonical members
  | _ => True

def AllCanonical : List Shape → Prop
  | [] => True
  | m :: ms => m.Canonical ∧ AllCanonical ms
end

end Shapewright.Shape
