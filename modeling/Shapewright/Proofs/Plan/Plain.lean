import Shapewright.Plan.TypeText
import Shapewright.Proofs.Result
import Shapewright.Proofs.Shape.Plain

/-!
# Plans of plain graphs

No name of a plan depends on the names that a class has beside its best one, so a graph and its
plain form have the same names, and the same type expressions.
-/
namespace Shapewright.Plan
open Result

section Display
variable (g : Graph)

@[simp] theorem baseName_plain (ref : Text) : baseName g.plain ref = baseName g ref := by
  rw [baseName, baseName, Graph.plain_class?]
  cases g.class? ref <;> rfl

@[simp] theorem displayName_plain (s : Shape) : displayName g.plain s = displayName g s := by
  induction s with
  | array items ih => rw [displayName, displayName, ih]
  | map values ih => rw [displayName, displayName, ih]
  | record ref => rw [displayName, displayName, baseName_plain]
  | _ => rfl

@[simp] theorem displayNames_plain (ss : List Shape) :
    displayNames g.plain ss = displayNames g ss := by
  induction ss with
  | nil => rfl
  | cons s ss ih => rw [displayNames, displayNames, displayName_plain, ih]

end Display

section Names
variable (g : Graph) (names : Names)

@[simp] theorem nameClasses_plain (cs : List RecordClass) :
    nameClasses names (cs.map (·.plain)) = nameClasses names cs := by
  induction cs generalizing names with
  | nil => rfl
  | cons c cs ih =>
    simp only [List.map_cons, nameClasses, RecordClass.plain_ref, RecordClass.plain_baseName, ih]

@[simp] theorem nameUnions_plain (us : List Shape) :
    nameUnions g.plain names us = nameUnions g names us := by
  induction us generalizing names with
  | nil => rfl
  | cons u us ih => simp only [nameUnions, unionBaseName, displayNames_plain, ih]

@[simp] theorem nameClassMembers_plain (cs : List RecordClass) :
    nameClassMembers names (cs.map (·.plain)) = nameClassMembers names cs := by
  induction cs generalizing names with
  | nil => rfl
  | cons c cs ih =>
    simp only [List.map_cons, nameClassMembers, RecordClass.plain_ref, RecordClass.plain_properties,
      ih]

@[simp] theorem nameFields_plain (u : Shape) (ms : List Shape) :
    nameFields g.plain u names ms = nameFields g u names ms := by
  induction ms generalizing names with
  | nil => rfl
  | cons m ms ih => simp only [nameFields, fieldBaseName, displayName_plain, ih]

@[simp] theorem nameUnionMembers_plain (us : List Shape) :
    nameUnionMembers g.plain names us = nameUnionMembers g names us := by
  induction us generalizing names with
  | nil => rfl
  | cons u us ih => simp only [nameUnionMembers, nameFields_plain, ih]

end Names

/-- The plan with its graph made plain. -/
def plain (p : Plan) : Plan := { p with graph := p.graph.plain }

theorem ofGraph_plain (g : Graph) (forbidden : List String) :
    ofGraph g.plain forbidden = ofGraph g forbidden >>= fun p => .ok p.plain := by
  simp only [ofGraph, Graph.plain_unions, Graph.plain_classes, nameClasses_plain, nameUnions_plain,
    nameClassMembers_plain, nameUnionMembers_plain, bind_assoc, pure_bind]
  rfl

section Types
variable (p : Plan)

@[simp] theorem plain_unions : p.plain.unions = p.unions := rfl

@[simp] theorem className_plain (ref : Text) : p.plain.className ref = p.className ref := rfl

@[simp] theorem unionName_plain (u : Shape) : p.plain.unionName u = p.unionName u := rfl

@[simp] theorem propertyName_plain (ref key : Text) :
    p.plain.propertyName ref key = p.propertyName ref key := rfl

@[simp] theorem fieldName_plain (u m : Shape) : p.plain.fieldName u m = p.fieldName u m := rfl

theorem firstTypeText_congr {p q : Plan} {members : List Shape}
    (h : ∀ m ∈ members, q.typeText m = p.typeText m) :
    firstTypeText q members = firstTypeText p members := by
  induction members with
  | nil => rfl
  | cons m members ih =>
    obtain ⟨first, rest⟩ := List.forall_mem_cons.mp h
    rw [firstTypeText, firstTypeText, first, ih rest]

@[simp] theorem typeText_plain (s : Shape) : p.plain.typeText s = p.typeText s := by
  induction s with
  | array items ih => rw [typeText, typeText, ih]
  | map values ih => rw [typeText, typeText, ih]
  | union members ih => rw [typeText, typeText, firstTypeText_congr ih, unionName_plain]
  | _ => rfl

@[simp] theorem nullableText_plain (s : Shape) : p.plain.nullableText s = p.nullableText s := by
  rw [nullableText, nullableText, typeText_plain]

end Types

end Shapewright.Plan
