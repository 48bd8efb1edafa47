import Shapewright.Proofs.Document.Accepted
import Shapewright.Proofs.Layout.Calm
import Shapewright.Proofs.Plan.Complete
import Shapewright.Source.Render

/-!
# Every accepted document is rendered

What is written for each class and each union of a complete plan, with every name in its place. All
parts are calm, so the source of a complete plan is a text.
-/
namespace Shapewright.Source
open Layout Plan Dispatch Result TypeText
open Shape (nonNull)

variable {p : Plan}

/-- The attribute and the declaration of one property. -/
def propertyPart (p : Plan) (c : RecordClass) (e : Text × Shape) : List Op :=
  [.line (attributeLine e.1), .line (propertyLine (p.typeFor e.2) (p.propertyFor c e.1))]

def recordPart (p : Plan) (c : RecordClass) : List Op :=
  [.block (some (recordHeader (p.classFor c))) (c.properties.flatMap (propertyPart p c))]

def fieldPart (p : Plan) (u m : Shape) : Op :=
  .line (fieldLine (nullable (p.typeFor m)) (p.fieldFor u m))

def clearPart (p : Plan) (u m : Shape) : Op := .line (clearLine (p.fieldFor u m))

/-- What a case does before the next one. -/
def armPart (p : Plan) (u : Shape) : Option Shape → List Op
  | none => [.line "return;"]
  | some m => [.line (assignLine (p.fieldFor u m) (p.typeFor m)), .line "return;"]

def casePart (p : Plan) (u : Shape) (c : Case) : List Op :=
  c.tokens.map (.line <| caseLabel ·) ++ [.indented (armPart p u c.member)]

def switchPart (p : Plan) (u : Shape) : Op :=
  .block (some "switch (reader.TokenType)") ((table (membersOf u)).flatMap (casePart p u))

def constructorPart (p : Plan) (u : Shape) : Op :=
  .block (some (constructorHeader (p.unionFor u)))
    ((nonNull (membersOf u)).map (clearPart p u) ++
      [.blank, switchPart p u, .line (refusalLine (p.unionFor u))])

def structBody (p : Plan) (u : Shape) : List Op :=
  (nonNull (membersOf u)).map (fieldPart p u) ++ [.blank, constructorPart p u]

def structPart (p : Plan) (u : Shape) : List Op :=
  [.block (some (structHeader (p.unionFor u))) (structBody p u)]

theorem propertyOps_eq (complete : Complete p) {c : RecordClass} (hc : c ∈ p.graph.classes)
    {es : Entries Text Shape} (h : ∀ e ∈ es, e ∈ c.properties) :
    propertyOps p c.ref es = .ok (es.flatMap (propertyPart p c)) := by
  induction es with
  | nil => rfl
  | cons e es ih =>
    have here := h e List.mem_cons_self
    have rest := ih fun e he => h e (List.mem_cons_of_mem _ he)
    rw [propertyOps, complete.typeText_eq (complete.properties c hc e here).1, ok_bind,
      complete.propertyName_eq hc here, ok_bind, rest, ok_bind, pure_eq]
    rfl

theorem recordOps_eq (complete : Complete p) {c : RecordClass} (hc : c ∈ p.graph.classes) :
    recordOps p c = .ok (recordPart p c) := by
  rw [recordOps, complete.className_eq hc, ok_bind, propertyOps_eq complete hc fun _ he => he,
    ok_bind, pure_eq, recordPart]

section Unions

variable {u : Shape} (complete : Complete p) (hu : u ∈ p.unions)
include complete hu

theorem fieldOps_eq :
    fieldOps p u (nonNull (membersOf u)) = .ok ((nonNull (membersOf u)).map (fieldPart p u)) := by
  have gathers : Gathers (fun m => do
      let type ← p.nullableText m
      let name ← p.fieldName u m
      return .line (fieldLine type name)) (fieldOps p u) :=
    ⟨rfl, fun m ms => by simp only [fieldOps, bind_assoc, pure_bind]⟩
  refine gathers.eq_ok fun m hm => ?_
  rw [nullableText, complete.memberType_eq hu hm, ok_bind, pure_eq, ok_bind,
    complete.fieldName_eq hu hm, ok_bind, pure_eq, fieldPart]

theorem clearOps_eq :
    clearOps p u (nonNull (membersOf u)) = .ok ((nonNull (membersOf u)).map (clearPart p u)) := by
  have gathers : Gathers (fun m => do
      let name ← p.fieldName u m
      return .line (clearLine name)) (clearOps p u) :=
    ⟨rfl, fun m ms => by simp only [clearOps, bind_assoc, pure_bind]⟩
  refine gathers.eq_ok fun m hm => ?_
  rw [complete.fieldName_eq hu hm, ok_bind, pure_eq, clearPart]

theorem armOps_eq {c : Case} (hc : c ∈ table (membersOf u)) :
    armOps p u c.member = .ok (armPart p u c.member) := by
  cases stored : c.member with
  | none => rfl
  | some m =>
    have here := complete.arms u hu c hc m stored
    rw [armOps, complete.fieldName_eq hu here, ok_bind, complete.memberType_eq hu here, ok_bind,
      pure_eq]
    rfl

theorem switchOps_eq {cases : List Case} (h : ∀ c ∈ cases, c ∈ table (membersOf u)) :
    switchOps p u cases = .ok (cases.flatMap (casePart p u)) := by
  induction cases with
  | nil => rfl
  | cons c cases ih =>
    have rest := ih fun c hc => h c (List.mem_cons_of_mem _ hc)
    rw [switchOps, armOps_eq complete hu (h c List.mem_cons_self), ok_bind, rest, ok_bind, pure_eq]
    simp [casePart]

theorem unionOps_eq : unionOps p u = .ok (structPart p u) := by
  rw [unionOps, complete.unionName_eq hu, ok_bind]
  simp only [fieldOps_eq complete hu, clearOps_eq complete hu,
    switchOps_eq complete hu fun _ hc => hc, ok_bind, pure_eq]
  rfl

end Unions

theorem recordPart_calm (p : Plan) (c : RecordClass) : allCalm (recordPart p c) := by
  simp [recordPart, propertyPart, allCalm_eq, Op.isCalm, List.all_flatMap]

theorem armPart_calm (p : Plan) (u : Shape) (member : Option Shape) :
    allCalm (armPart p u member) := by
  cases member <;> rfl

theorem structPart_calm (p : Plan) (u : Shape) : allCalm (structPart p u) := by
  have fields : ((nonNull (membersOf u)).map (fieldPart p u)).all Op.isCalm := by
    simp [fieldPart, Op.isCalm]
  have clears : ((nonNull (membersOf u)).map (clearPart p u)).all Op.isCalm := by
    simp [clearPart, Op.isCalm]
  have cases : ((table (membersOf u)).flatMap (casePart p u)).all Op.isCalm := by
    simp [casePart, Op.isCalm, armPart_calm]
  simp only [structPart, structBody, constructorPart, switchPart, allCalm_eq, Op.isCalm,
    List.all_cons, List.all_append, List.all_nil, fields, clears, cases, Bool.and_self]

/-- The line that makes the converter known to the settings. -/
def registration : String := "Converters = \x7b new Converter() \x7d,"

def entryPart (p : Plan) : List Op :=
  [.block (some "public static class Convert") [
    .line (entryLine (p.typeFor p.graph.topLevel)),
    .blank,
    .line "static JsonSerializerSettings Settings = new JsonSerializerSettings",
    .line "\x7b",
    .indented (
      [.line "MetadataPropertyHandling = MetadataPropertyHandling.Ignore,",
       .line "DateParseHandling = DateParseHandling.None,"] ++
      if p.unions.isEmpty then [] else [.line registration]),
    .line "\x7d;"]]

/-- The entry point, which is there as soon as the top level has a type expression. -/
theorem entryOps_eq (complete : Complete p) : entryOps p = .ok (entryPart p) := by
  rw [entryOps, complete.typeText_eq complete.topLevel, ok_bind, pure_eq]
  rfl

theorem entryPart_calm (p : Plan) : allCalm (entryPart p) := by
  simp only [entryPart]
  cases p.unions.isEmpty <;> rfl

theorem unionNames_eq (complete : Complete p) :
    unionNames p p.unions = .ok (p.unions.map p.unionFor) := by
  have gathers : Gathers p.unionName (unionNames p) := ⟨rfl, fun _ _ => rfl⟩
  exact gathers.eq_ok fun u hu => complete.unionName_eq hu

def readHeader : String :=
  "public override object ReadJson(JsonReader reader, Type t, object existingValue, JsonSerializer serializer)"

def writeHeader : String :=
  "public override void WriteJson(JsonWriter writer, object value, JsonSerializer serializer)"

def converterPart (names : List String) : List Op :=
  [.block (some "public class Converter : JsonConverter") [
    .line (canConvertLine names),
    .blank,
    .block (some readHeader)
      (names.flatMap branchOps ++ [.line "throw new Exception(\"Unknown type\");"]),
    .blank,
    .block (some writeHeader) [.line "throw new NotImplementedException();"]]]

theorem converterOps_eq (complete : Complete p) :
    converterOps p = .ok (converterPart (p.unions.map p.unionFor)) := by
  rw [converterOps, unionNames_eq complete, ok_bind, pure_eq]
  rfl

theorem converterPart_calm (names : List String) : allCalm (converterPart names) := by
  have branches : (names.flatMap branchOps).all Op.isCalm := by
    simp [branchOps, allCalm, Op.isCalm]
  simp only [converterPart, allCalm_eq, Op.isCalm, List.all_cons, List.all_append, List.all_nil,
    branches, Bool.and_self]

/-- The parts before the classes. -/
def conversionParts (p : Plan) : List (List Op) :=
  entryPart p :: if p.unions.isEmpty then [] else [converterPart (p.unions.map p.unionFor)]

theorem converterParts_eq (complete : Complete p) :
    converterParts p = .ok (conversionParts p).tail := by
  rw [converterParts, conversionParts, List.tail_cons, converterOps_eq complete]
  cases p.unions.isEmpty <;> rfl

theorem conversionParts_calm (p : Plan) : partsCalm (conversionParts p) := by
  rw [conversionParts, partsCalm, entryPart_calm]
  cases p.unions.isEmpty
  · simp [partsCalm, converterPart_calm]
  · rfl

theorem each_gathers {α : Type} (ops : α → Except EmitError (List Op)) : Gathers ops (each ops) :=
  ⟨rfl, fun _ _ => rfl⟩

/-- All declarations of the source, after the parts of the conversion. -/
def sourceParts (p : Plan) (conversion : List (List Op)) : List (List Op) :=
  conversion ++ p.graph.classes.map (recordPart p) ++ p.unions.map (structPart p)

/-- The declarations of a complete plan: the conversion, then the classes, then the unions. -/
theorem declarations_eq (complete : Complete p) :
    declarations p = .ok (sourceParts p (conversionParts p)) := by
  rw [declarations, entryOps_eq complete, ok_bind, converterParts_eq complete, ok_bind,
    (each_gathers _).eq_ok fun c hc => recordOps_eq complete hc, ok_bind,
    (each_gathers _).eq_ok fun u hu => unionOps_eq complete hu, ok_bind, pure_eq, sourceParts]
  rfl

def sourceOps (p : Plan) (s : Settings) (conversion : List (List Op)) : List Op :=
  headerOps s ++ namespaceOps s.namespaceName (sourceParts p conversion)

theorem sourceOps_calm (p : Plan) (s : Settings) {conversion : List (List Op)}
    (calm : partsCalm conversion) : allCalm (sourceOps p s conversion) := by
  have header : (headerOps s).all Op.isCalm := by
    unfold headerOps
    split <;> rfl
  have records : (p.graph.classes.map (recordPart p)).all allCalm := by simp [recordPart_calm]
  have structs : (p.unions.map (structPart p)).all allCalm := by simp [structPart_calm]
  rw [partsCalm_eq] at calm
  simp only [sourceOps, sourceParts, namespaceOps, allCalm_eq, partsCalm_eq, Op.isCalm,
    List.all_append, List.all_cons, List.all_nil, header, records, structs, calm, Bool.and_self]

/-- The lines before the first declaration. -/
def sourceHead (s : Settings) : List Line :=
  allLines 0 (headerOps s) ++ [lineAt 0 ("namespace " ++ s.namespaceName), lineAt 0 "\x7b"] ++
    systemUsings.map (lineAt 1) ++ [lineAt 1 ""] ++ jsonUsings.map (lineAt 1) ++ [lineAt 1 ""]

theorem sourceOps_lines (p : Plan) (s : Settings) (conversion : List (List Op)) :
    allLines 0 (sourceOps p s conversion) =
      sourceHead s ++ partsLines true 1 (sourceParts p conversion) ++ [lineAt 0 "\x7d"] := by
  simp [sourceOps, namespaceOps, sourceHead, allLines_append, allLines, Op.linesAt]

/-- Each declaration stands as a whole in the source. -/
theorem sourceOps_stands {conversion : List (List Op)} {part : List Op}
    (h : part ∈ sourceParts p conversion) (s : Settings) :
    ∃ before after, allLines 0 (sourceOps p s conversion) = before ++ allLines 1 part ++ after := by
  obtain ⟨before, after, parts⟩ := partsLines_split h true 1
  refine ⟨sourceHead s ++ before, after ++ [lineAt 0 "\x7d"], ?_⟩
  rw [sourceOps_lines, parts]
  simp only [List.append_assoc]

/-- The lines of the source of a plan. -/
def sourceLines (p : Plan) (s : Settings) : List Line :=
  allLines 0 (sourceOps p s (conversionParts p))

theorem render_lines {g : Graph} {s : Settings} (planned : planFor g s = .ok p)
    (complete : Complete p) :
    render g s = .ok (renderLines (indentUnit s) s.lineEnd.text (sourceLines p s)) := by
  rw [render, ops, planned, ok_bind, declarations_eq complete, ok_bind, pure_eq, ok_bind, pure_eq,
    ← sourceOps, linesOf_calm (sourceOps_calm p s (conversionParts_calm p)), sourceLines]

/-- The text of a graph whose plan is complete. -/
theorem render_eq {g : Graph} {s : Settings} (planned : planFor g s = .ok p)
    (complete : Complete p) :
    ∃ conversion, render g s =
      .ok (renderLines (indentUnit s) s.lineEnd.text (allLines 0 (sourceOps p s conversion))) :=
  ⟨conversionParts p, render_lines planned complete⟩

theorem planFor_settled {g : Graph} (wf : g.WellFormed) (s : Settings) :
    ∃ p, planFor g s = .ok p ∧ Settled p g s.effectiveNames :=
  ofGraph_ok wf s.effectiveNames

theorem settled_of_planFor {g : Graph} {s : Settings} (wf : g.WellFormed)
    (planned : planFor g s = .ok p) :
    Settled p g s.effectiveNames := by
  obtain ⟨q, again, settled⟩ := planFor_settled wf s
  exact Except.ok.inj (again.symm.trans planned) ▸ settled

/-- With any settings there is a plan for an accepted document, all names that are looked up on the
way are found, and the result is a text. -/
theorem render_total {document : Json} {g : Graph} (accepted : Document.readGraph document = .ok g)
    (s : Settings) :
    ∃ p text, planFor g s = .ok p ∧ p.graph = g ∧ p.unions = g.unions ∧ Complete p ∧
      render g s = .ok text := by
  have wf := Document.readGraph_wellFormed accepted
  obtain ⟨p, planned, settled⟩ := planFor_settled wf s
  have complete := settled.complete wf
  obtain ⟨conversion, rendered⟩ := render_eq planned complete
  exact ⟨p, _, planned, settled.graph, settled.unions, complete, rendered⟩

theorem render_sample_total :
    ∃ p text, planFor Document.sampleGraph {} = .ok p ∧ Complete p ∧
      render Document.sampleGraph {} = .ok text := by
  obtain ⟨p, text, planned, -, -, complete, rendered⟩ := render_total Document.readGraph_sample {}
  exact ⟨p, text, planned, complete, rendered⟩

end Shapewright.Source
