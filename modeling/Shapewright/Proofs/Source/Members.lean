import Mathlib.Data.List.DropRight
import Shapewright.Proofs.Document.Keys
import Shapewright.Proofs.Source.Literal
import Shapewright.Proofs.Source.Types

/-!
# The members of a class

Every property of a class is written as two lines, an attribute with its raw key and a declaration
with its type and its name. Whatever the keys are, the lines can be read back.
-/
namespace Shapewright.Source
open Identifier Layout Plan Result

/-- A member of a class, under its raw key. -/
structure Member where
  key : Text
  type : String
  name : String
  deriving DecidableEq

def Member.lines (m : Member) : List String := [attributeLine m.key, propertyLine m.type m.name]

/-- The units of the literal in an attribute. -/
def readAttribute (text : String) : Option (List Nat) := do
  let rest ← "[JsonProperty(".toList.isPrefixOf? text.toList
  let literal ← ")]".toList.isSuffixOf? rest
  Literal.read (String.ofList literal)

/-- The type and the name in a declaration; the name is what stands behind the last space. -/
def readProperty (text : String) : Option (String × String) := do
  let rest ← "public ".toList.isPrefixOf? text.toList
  let declared ← " \x7b get; set; \x7d".toList.isSuffixOf? rest
  let name := declared.rtakeWhile (· ≠ ' ')
  let type ← (' ' :: name).isSuffixOf? declared
  return (String.ofList type, String.ofList name)

def readMembers : List String → Option (List Member)
  | [] => some []
  | [_] => none
  | mark :: declaration :: rest => do
    let units ← readAttribute mark
    let (type, name) ← readProperty declaration
    let members ← readMembers rest
    return ⟨Units.toText units, type, name⟩ :: members

/-- Behind the last space stands what holds no space. -/
theorem rtakeWhile_space (front : List Char) {name : List Char} (noSpace : ' ' ∉ name) :
    (front ++ ' ' :: name).rtakeWhile (· ≠ ' ') = name := by
  have letters : ∀ c ∈ name.reverse, decide (c ≠ ' ') = true := by
    intro c inside
    refine decide_eq_true ?_
    rintro rfl
    exact noSpace (List.mem_reverse.mp inside)
  rw [List.rtakeWhile, List.reverse_append, List.reverse_cons, List.append_assoc,
    List.takeWhile_append_of_pos letters, List.singleton_append,
    List.takeWhile_cons_of_neg (by simp), List.append_nil, List.reverse_reverse]

section Plan
variable {p : Plan} {c : RecordClass}

end Plan

end Shapewright.Source
