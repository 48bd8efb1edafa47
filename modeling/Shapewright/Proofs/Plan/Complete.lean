import Shapewright.Plan.TypeText
import Shapewright.Proofs.Dispatch.Table
import Shapewright.Proofs.Plan.Settled

/-!
# Complete plans

In a settled plan every shape of the graph has a type expression, and every name is there that is
asked for when the plan is written out: for declarations, for the constructors of unions and for
every arm of their switches.
-/
namespace Shapewright.Plan
open Dispatch Result
open Shape (nonNull)

variable {p : Plan} {g : Graph} {forbidden : List String}

theorem firstTypeText_ok {members : List Shape}
    (h : ∀ m ∈ members, ∃ text, p.typeText m = .ok text) :
    ∃ text, p.firstTypeText members = .ok text := by
  induction members with
  | nil => exact ⟨TypeText.objectType, by rw [firstTypeText]⟩
  | cons m members ih =>
    rw [firstTypeText]
    split
    · exact ih fun n hn => h n (List.mem_cons_of_mem _ hn)
    · exact h m List.mem_cons_self

theorem typeText_ok (settled : Settled p g forbidden) (wf : g.WellFormed) {s : Shape}
    (h : s ∈ g.shapes) :
    ∃ text, p.typeText s = .ok text := by
  induction s with
  | array items ih =>
    obtain ⟨text, element⟩ := ih (Graph.items_mem h)
    exact ⟨TypeText.arrayOf text, by rw [typeText, element, ok_bind, pure_eq]⟩
  | map values ih =>
    obtain ⟨text, value⟩ := ih (Graph.values_mem h)
    exact ⟨TypeText.dictionaryOf text, by rw [typeText, value, ok_bind, pure_eq]⟩
  | record ref =>
    obtain ⟨c, found⟩ := wf.exists_class h
    obtain ⟨hc, rfl⟩ := Graph.mem_classes_of_class? found
    exact ⟨_, by rw [typeText, settled.className_eq hc]⟩
  | union members ih =>
    rw [typeText]
    split
    · obtain ⟨text, first⟩ := firstTypeText_ok fun m hm => ih m hm (Graph.member_mem h hm)
      exact ⟨TypeText.nullable text, by rw [first, ok_bind, pure_eq]⟩
    · next several => exact ⟨_, settled.unionName_eq (Graph.mem_unions_of_several h several)⟩
  | _ => exact ⟨_, by rw [typeText]⟩

/-- All that is looked up when a plan is written out is there. -/
structure Complete (p : Plan) : Prop where
  displays : ∀ s ∈ p.graph.shapes, ∃ name, displayName p.graph s = .ok name
  types : ∀ s ∈ p.graph.shapes, ∃ text, p.typeText s = .ok text
  topLevel : p.graph.topLevel ∈ p.graph.shapes
  classes : ∀ c ∈ p.graph.classes, ∃ name, p.className c.ref = .ok name
  properties : ∀ c ∈ p.graph.classes, ∀ e ∈ c.properties, e.2 ∈ p.graph.shapes ∧
    ∃ name, p.propertyName c.ref e.1 = .ok name
  unions : ∀ u ∈ p.unions, ∃ name, p.unionName u = .ok name
  fields : ∀ u ∈ p.unions, ∀ m ∈ nonNull (membersOf u), m ∈ p.graph.shapes ∧
    ∃ name, p.fieldName u m = .ok name
  arms : ∀ u ∈ p.unions, ∀ c ∈ table (membersOf u), ∀ m, c.member = some m →
    m ∈ nonNull (membersOf u)

theorem Settled.complete (settled : Settled p g forbidden) (wf : g.WellFormed) : Complete p := by
  obtain ⟨rfl, unions, -⟩ := id settled
  refine ⟨fun s hs => displayName_ok wf hs, fun s hs => typeText_ok settled wf hs,
    Graph.topLevel_mem _, fun c hc => ⟨_, settled.className_eq hc⟩, fun c hc e he => ?_, ?_, ?_, ?_⟩
  · exact ⟨Graph.property_mem hc he, settled.propertyName_ok hc (List.mem_map_of_mem he)⟩
  · intro u hu
    exact ⟨_, settled.unionName_eq (unions ▸ hu)⟩
  · intro u hu m hm
    exact ⟨(nonNull_members wf (unions ▸ hu)).2 m hm, settled.fieldName_ok (unions ▸ hu) hm⟩
  · intro u _ c hc m hm
    exact member_of_mem_table hc hm

/-- The type expression of a shape that has one. -/
def typeFor (p : Plan) (s : Shape) : String := valueOr "" (p.typeText s)

def classFor (p : Plan) (c : RecordClass) : String := valueOr "" (p.className c.ref)

def propertyFor (p : Plan) (c : RecordClass) (key : Text) : String :=
  valueOr "" (p.propertyName c.ref key)

def unionFor (p : Plan) (u : Shape) : String := valueOr "" (p.unionName u)

def fieldFor (p : Plan) (u m : Shape) : String := valueOr "" (p.fieldName u m)

namespace Complete

theorem typeText_eq (h : Complete p) {s : Shape} (hs : s ∈ p.graph.shapes) :
    p.typeText s = .ok (p.typeFor s) :=
  eq_ok_valueOr "" (h.types s hs)

theorem className_eq (h : Complete p) {c : RecordClass} (hc : c ∈ p.graph.classes) :
    p.className c.ref = .ok (p.classFor c) :=
  eq_ok_valueOr "" (h.classes c hc)

theorem propertyName_eq (h : Complete p) {c : RecordClass} (hc : c ∈ p.graph.classes)
    {e : Text × Shape} (he : e ∈ c.properties) :
    p.propertyName c.ref e.1 = .ok (p.propertyFor c e.1) :=
  eq_ok_valueOr "" (h.properties c hc e he).2

theorem unionName_eq (h : Complete p) {u : Shape} (hu : u ∈ p.unions) :
    p.unionName u = .ok (p.unionFor u) :=
  eq_ok_valueOr "" (h.unions u hu)

theorem fieldName_eq (h : Complete p) {u : Shape} (hu : u ∈ p.unions) {m : Shape}
    (hm : m ∈ nonNull (membersOf u)) : p.fieldName u m = .ok (p.fieldFor u m) :=
  eq_ok_valueOr "" (h.fields u hu m hm).2

theorem memberType_eq (h : Complete p) {u : Shape} (hu : u ∈ p.unions) {m : Shape}
    (hm : m ∈ nonNull (membersOf u)) : p.typeText m = .ok (p.typeFor m) :=
  h.typeText_eq (h.fields u hu m hm).1

end Complete

end Shapewright.Plan
