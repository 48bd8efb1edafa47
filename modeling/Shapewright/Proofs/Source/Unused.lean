import Shapewright.Proofs.Plan.Types
import Shapewright.Proofs.Plan.Unused
import Shapewright.Proofs.Settings.Checks
import Shapewright.Proofs.Source.Render

/-!
# Forbidding what is not used

The source is written from the names of its plan. So a forbidden name that no type would have had
changes nothing in it, wherever it stands among the others.
-/
namespace Shapewright.Plan.SameNames
open Dispatch Layout Source
open Shape (nonNull)

variable {p q : Plan} (same : SameNames p q)
include same

section
variable (planned : Planned p)
include planned

theorem typeFor {s : Shape} (h : s ∈ p.graph.shapes) : q.typeFor s = p.typeFor s :=
  congrArg (Result.valueOr "") (same.typeText planned.wf planned.unions h)

theorem recordPart {c : RecordClass} (hc : c ∈ p.graph.classes) :
    recordPart q c = recordPart p c := by
  have properties : ∀ e ∈ c.properties, propertyPart q c e = propertyPart p c e := by
    intro e he
    rw [propertyPart, propertyPart, same.typeFor planned (planned.complete.properties c hc e he).1,
      propertyFor, same.propertyName c hc, propertyFor]
  rw [Source.recordPart, Source.recordPart, classFor, same.className c hc, classFor,
    List.flatMap_congr properties]

theorem casePart {u : Shape} (hu : u ∈ p.unions) {c : Case} (hc : c ∈ table (membersOf u)) :
    casePart q u c = casePart p u c := by
  have arm : armPart q u c.member = armPart p u c.member := by
    cases stored : c.member with
    | none => rfl
    | some m =>
      have inside := (planned.complete.fields u hu m (planned.complete.arms u hu c hc m stored)).1
      rw [armPart, armPart, fieldFor, same.fieldName u hu, fieldFor, same.typeFor planned inside]
  rw [Source.casePart, Source.casePart, arm]

theorem structPart {u : Shape} (hu : u ∈ p.unions) : structPart q u = structPart p u := by
  have name : q.unionFor u = p.unionFor u := congrArg (Result.valueOr "") (same.unionName u hu)
  have field : ∀ m, q.fieldFor u m = p.fieldFor u m :=
    fun m => congrArg (Result.valueOr "") (same.fieldName u hu m)
  have fields : (nonNull (membersOf u)).map (fieldPart q u) =
      (nonNull (membersOf u)).map (fieldPart p u) := by
    refine List.map_congr_left fun m hm => ?_
    rw [fieldPart, fieldPart, field, same.typeFor planned (planned.complete.fields u hu m hm).1]
  have clears : (nonNull (membersOf u)).map (clearPart q u) =
      (nonNull (membersOf u)).map (clearPart p u) :=
    List.map_congr_left fun m _ => by rw [clearPart, clearPart, field]
  have cases : (table (membersOf u)).flatMap (Source.casePart q u) =
      (table (membersOf u)).flatMap (Source.casePart p u) :=
    List.flatMap_congr fun c hc => same.casePart planned hu hc
  rw [Source.structPart, Source.structPart, structBody, structBody, constructorPart,
    constructorPart, switchPart, switchPart, name, fields, clears, cases]

theorem conversionParts : conversionParts q = conversionParts p := by
  have entry : entryPart q = entryPart p := by
    rw [entryPart, entryPart, same.graph, same.unions,
      same.typeFor planned planned.complete.topLevel]
  have names : p.unions.map q.unionFor = p.unions.map p.unionFor :=
    List.map_congr_left fun u hu => congrArg (Result.valueOr "") (same.unionName u hu)
  rw [Source.conversionParts, Source.conversionParts, entry, same.unions, names]

/-- All parts of the source are written alike. -/
theorem sourceParts :
    sourceParts q (Source.conversionParts q) = sourceParts p (Source.conversionParts p) := by
  rw [Source.sourceParts, Source.sourceParts, same.graph, same.unions, same.conversionParts planned,
    List.map_congr_left fun c hc => same.recordPart planned hc,
    List.map_congr_left fun u hu => same.structPart planned hu]

end
end Shapewright.Plan.SameNames

namespace Shapewright.Source
open Identifier Plan Registry Settings

variable {g : Graph} {s : Settings} {p : Plan} {text name : String}

theorem mem_effectiveNames {n : String} :
    n ∈ s.effectiveNames ↔ n ∈ builtinNames ∨ n ∈ s.forbiddenNames := by
  rw [effectiveNames, List.mem_append, extraNames, List.mem_filter]
  by_cases builtin : n ∈ builtinNames <;> simp [builtin]

/-- Under the settings the graph gets all names that the plan has, and the text. -/
structure Reproduces (g : Graph) (p : Plan) (text : String) (s : Settings) : Prop where
  plan : ∃ q, planFor g s = .ok q ∧ SameNames p q
  text : render g s = .ok text

theorem reproduces_of_unused (wf : g.WellFormed) (planned : planFor g s = .ok p)
    (rendered : render g s = .ok text) (unused : p.Unused name) {names : List String}
    (more : ∀ n, n ∈ names ↔ n = name ∨ n ∈ s.forbiddenNames) :
    Reproduces g p text { s with forbiddenNames := names } := by
  have settled := settled_of_planFor wf planned
  obtain ⟨q, replanned, resettled⟩ := planFor_settled wf { s with forbiddenNames := names }
  have moreEffective : ∀ n, n ∈ effectiveNames { s with forbiddenNames := names } ↔
      n = name ∨ n ∈ s.effectiveNames := by
    intro n
    rw [mem_effectiveNames, mem_effectiveNames, more, or_left_comm]
  have same := settled.sameNames_of_unused resettled wf moreEffective unused
  have lines : sourceLines q { s with forbiddenNames := names } = sourceLines p s := by
    rw [sourceLines, sourceLines, sourceOps, sourceOps, same.sourceParts (settled.planned wf)]
    rfl
  refine ⟨⟨q, replanned, same⟩, ?_⟩
  rw [← rendered, render_lines replanned (resettled.complete wf),
    render_lines planned (settled.complete wf), lines]
  rfl

/-- Forbidding one more name that no class and no union of an accepted document has changes
none of the names and nothing in the source, wherever it is put among the forbidden names,
after they were checked or before. -/
theorem forbid_unused {document : Json} (accepted : Document.readGraph document = .ok g)
    (s : Settings) :
    ∃ p text, planFor g s = .ok p ∧ p.graph = g ∧ p.unions = g.unions ∧ Complete p ∧
      render g s = .ok text ∧
      ∀ name, p.Unused name →
        (∀ before after, s.forbiddenNames = before ++ after →
          Reproduces g p text { s with forbiddenNames := before ++ name :: after }) ∧
        (IsValid name → ∀ draft : Draft, draft.freeze = .ok s →
          ∀ before after, draft.forbiddenNames = before ++ after →
            ∃ t, Draft.freeze { draft with forbiddenNames := before ++ name :: after } = .ok t ∧
              name ∈ t.forbiddenNames ∧ Reproduces g p text t) := by
  have wf := Document.readGraph_wellFormed accepted
  obtain ⟨p, text, planned, graph, unions, complete, rendered⟩ := render_total accepted s
  refine ⟨p, text, planned, graph, unions, complete, rendered,
    fun name unused => ⟨fun before after split => ?_, ?_⟩⟩
  · refine reproduces_of_unused wf planned rendered unused fun n => ?_
    rw [split, List.mem_append, List.mem_append, List.mem_cons, or_left_comm]
  · intro valid draft frozen before after split
    obtain ⟨validNames, kept⟩ := freeze_forbidden frozen
    rw [split, List.forall_mem_append] at validNames
    have allValid : ∀ n ∈ before ++ name :: after, IsValid n :=
      List.forall_mem_append.mpr ⟨validNames.1, List.forall_mem_cons.mpr ⟨valid, validNames.2⟩⟩
    refine ⟨_, freeze_withNames frozen allValid, by simp, ?_⟩
    refine reproduces_of_unused wf planned rendered unused fun n => ?_
    rw [kept, split, Ordered.mem_firstSeen, Ordered.mem_firstSeen, List.mem_append, List.mem_append,
      List.mem_cons, or_left_comm]

/-- A draft that keeps the class of the sample from its first wish. -/
def petDraft : Draft := { forbiddenNames := ["Pet"] }

theorem sample_forbid_unused :
    ∃ s p text, petDraft.freeze = .ok s ∧ planFor Document.sampleGraph s = .ok p ∧ p.Unused "Id" ∧
      p.Unused "Pet" ∧
      Reproduces Document.sampleGraph p text { s with forbiddenNames := ["Pet", "Pet"] } ∧
      ∃ t, Draft.freeze { petDraft with forbiddenNames := ["Id", "Pet"] } = .ok t ∧
        Reproduces Document.sampleGraph p text t := by
  have frozen : petDraft.freeze = .ok { forbiddenNames := ["Pet"] } := by decide +kernel
  have served : serve (effectiveNames { forbiddenNames := ["Pet"] })
      ((typesOf Document.sampleGraph).map (wishOfType Document.sampleGraph)) =
        ["OtherPet", "IntegerOrString"] := by
    decide +kernel
  have wf := Document.readGraph_wellFormed Document.readGraph_sample
  obtain ⟨p, text, planned, -, -, -, -, harmless⟩ :=
    forbid_unused Document.readGraph_sample { forbiddenNames := ["Pet"] }
  have settled := settled_of_planFor wf planned
  have unused : p.Unused "Id" ∧ p.Unused "Pet" := by
    rw [settled.unused_iff wf, settled.unused_iff wf, served]
    decide
  obtain ⟨t, refrozen, -, same⟩ :=
    (harmless "Id" unused.1).2 (by decide) petDraft frozen [] ["Pet"] rfl
  exact ⟨_, p, text, frozen, planned, unused.1, unused.2,
    (harmless "Pet" unused.2).1 ["Pet"] [] rfl, t, refrozen, same⟩

end Shapewright.Source
