import Shapewright.Proofs.Plan.FieldNames
import Shapewright.Proofs.Source.Nullable

/-!
# What fields hide

Inside a struct a field hides everything else of its name. The constructor of a generated union
looks up three names that are none of its fields: its two parameters, and the library's enumeration
in the labels of its switch. No field is called like a parameter, since the parameters begin small.
But a field takes the name of the enumeration as soon as a member asks for it, which only a class
can: the types avoid the names of the library, the fields do not.
-/
namespace Shapewright.Source
open Identifier Layout Plan Dispatch Registry
open Shape (nonNull)

variable {p : Plan} {g : Graph} {s : Settings} {u : Shape}

/-- The names in a line of a constructor, given by its words, that are looked up as values and meant
to be no fields: what a label and a switch go through, what an assignment calls, and what it passes
on. Types are not looked up among fields. -/
def valueNames : List String → List String
  | "case" :: name :: _ => [name]
  | "switch" :: name :: _ => [name]
  | _ :: name :: "Deserialize" :: more => name :: more.getLast?.toList
  | _ => []

/-- All names that the lines of a constructor look up. -/
def lookedUp (inner : List String) : List String :=
  inner.flatMap fun text => valueNames (words text)

/-- The names of the fields that the lines of a struct declare. -/
def declaredFields (body : List String) : List String := (body.filterMap readField).map (·.2)

/-- Nothing that the constructor looks up is hidden by a field. -/
def KeepsMeanings (body inner : List String) : Prop :=
  ∀ name ∈ lookedUp inner, name ∉ declaredFields body

/-- The struct of the name stands as a block in the source, and within it the
block of its constructor. -/
def StructStands (g : Graph) (s : Settings) (name : String) (body inner : List Line) : Prop :=
  ∃ before block after fields constructor,
    render g s = .ok (renderLines (indentUnit s) s.lineEnd.text (before ++ block ++ after)) ∧
      IsBlock 1 (structHeader name) body block ∧ body = fields ++ lineAt 2 "" :: constructor ∧
      IsBlock 2 (constructorHeader name) inner constructor

theorem struct_stands (planned : planFor g s = .ok p) (complete : Complete p) (hu : u ∈ p.unions) :
    ∃ body inner, StructStands g s (p.unionFor u) body inner ∧ body.map (·.text) = structTexts p u ∧
      inner.map (·.text) = constructorTexts p u := by
  obtain ⟨before, after, split⟩ := sourceOps_split hu s (conversionParts p)
  obtain ⟨inner, block, texts⟩ := constructorPart_block p u 2
  have rendered := render_lines planned complete
  rw [sourceLines, split] at rendered
  exact ⟨_, inner, ⟨before, _, after, _, _, rendered, structPart_block p u, structBody_lines p u 2,
    block⟩, structBody_texts p u 2, texts⟩

section Lines
variable {name type : String}

theorem valueNames_caseLabel (t : Token) : valueNames (words (caseLabel t)) = ["JsonToken"] := by
  rw [words_caseLabel]
  rfl

theorem valueNames_refusalLine (name : String) : valueNames (words (refusalLine name)) = [] := by
  rw [words_refusalLine]
  rfl

/-- What a line of a constructor assigns to does not matter. -/
theorem valueNames_target (capital : IsCapital name) (ws : List String) :
    valueNames (name :: ws) = valueNames ("" :: ws) := by
  have notCase : name ≠ "case" := capital_ne capital (by decide)
  have notSwitch : name ≠ "switch" := capital_ne capital (by decide)
  unfold valueNames
  split <;> simp_all

theorem valueNames_assignLine (capital : IsCapital name) (plain : IsPlain type) :
    valueNames (words (assignLine name type)) = ["serializer", "reader"] := by
  rw [words_assignLine plain capital.valid, List.append_assoc, List.cons_append,
    valueNames_target capital]
  simp [valueNames]

theorem valueNames_clearLine (capital : IsCapital name) :
    valueNames (words (clearLine name)) = [] := by
  rw [words_clearLine capital.valid, valueNames_target capital]
  rfl

end Lines

section Constructor
variable (capital : ∀ m ∈ nonNull (membersOf u), IsCapital (p.fieldFor u m))
include capital

/-- The constructor looks up its parameters and the enumeration only. -/
theorem lookedUp_constructorTexts (plain : ∀ m ∈ nonNull (membersOf u), IsPlain (p.typeFor m)) :
    ∀ name ∈ lookedUp (constructorTexts p u), name ∈ ["JsonToken", "reader", "serializer"] := by
  have cases : ∀ text ∈ (table (membersOf u)).flatMap (caseTexts p u),
      ∀ name ∈ valueNames (words text),
      name ∈ ["JsonToken", "reader", "serializer"] := by
    refine forall_caseTexts (fun t => ?_) (by decide +kernel) fun m hm => ?_
    · rw [valueNames_caseLabel]
      decide
    · rw [valueNames_assignLine (capital m hm) (plain m hm)]
      decide
  intro name inside
  obtain ⟨text, here, inside⟩ := List.mem_flatMap.mp inside
  simp only [constructorTexts, List.mem_append, List.mem_map, List.mem_cons, List.not_mem_nil,
    or_false] at here
  have fixed : ∀ text ∈ ["", "switch (reader.TokenType)", "\x7b", "\x7d"],
      ∀ name ∈ valueNames (words text),
      name ∈ ["JsonToken", "reader", "serializer"] := by
    decide +kernel
  rcases here with ((⟨m, hm, rfl⟩ | blank | switch | opening) | arm) | closing | rfl
  · rw [valueNames_clearLine (capital m hm)] at inside
    cases inside
  · exact fixed text (by simp [blank]) name inside
  · exact fixed text (by simp [switch]) name inside
  · exact fixed text (by simp [opening]) name inside
  · exact cases text arm name inside
  · exact fixed text (by simp [closing]) name inside
  · rw [valueNames_refusalLine] at inside
    cases inside

theorem declaredFields_structTexts :
    declaredFields (structTexts p u) = (nonNull (membersOf u)).map (p.fieldFor u) := by
  rw [declaredFields, readField_structTexts capital, List.map_map]
  rfl

end Constructor

/-- With a class among its members the constructor has a label. -/
theorem jsonToken_mem_lookedUp {ref : Text} (h : .record ref ∈ membersOf u) :
    "JsonToken" ∈ lookedUp (constructorTexts p u) := by
  obtain ⟨c, hc, ht⟩ := List.mem_flatMap.mp (startObject_listed h)
  refine List.mem_flatMap.mpr ⟨caseLabel .startObject, ?_, ?_⟩
  · have label : caseLabel .startObject ∈ (table (membersOf u)).flatMap (caseTexts p u) :=
      List.mem_flatMap.mpr ⟨c, hc, List.mem_append_left _ (List.mem_map_of_mem ht)⟩
    exact List.mem_append_left _ (List.mem_append_right _ label)
  · rw [valueNames_caseLabel]
    exact List.mem_singleton_self _

section Settled
variable (settled : Settled p g s.effectiveNames) (wf : g.WellFormed) (hu : u ∈ g.unions)
include settled wf hu

/-- The only thing that a field ever hides is the enumeration. -/
theorem hidden_eq {name : String} (inside : name ∈ lookedUp (constructorTexts p u))
    (hidden : name ∈ declaredFields (structTexts p u)) : name = "JsonToken" := by
  have planned := settled.planned wf
  have written : u ∈ p.unions := settled.unions ▸ hu
  have capital : ∀ m ∈ nonNull (membersOf u), IsCapital (p.fieldFor u m) := fun m hm =>
    planned.fieldFor_capital written hm
  have plain : ∀ m ∈ nonNull (membersOf u), IsPlain (p.typeFor m) := fun m hm =>
    (typeFor_over planned (planned.complete.fields u written m hm).1).plain
  rw [declaredFields_structTexts capital] at hidden
  obtain ⟨m, hm, rfl⟩ := List.mem_map.mp hidden
  have one := lookedUp_constructorTexts capital plain _ inside
  simp only [List.mem_cons, List.not_mem_nil, or_false] at one
  rcases one with enumeration | reader | serializer
  · exact enumeration
  · exact absurd reader (capital_ne (capital m hm) (by decide))
  · exact absurd serializer (capital_ne (capital m hm) (by decide))

theorem jsonToken_declared_iff : "JsonToken" ∈ declaredFields (structTexts p u) ↔
    ∃ c ∈ g.classes, .record c.ref ∈ membersOf u ∧ styledText c.baseName = "JsonToken" := by
  have planned := settled.planned wf
  have written : u ∈ p.unions := settled.unions ▸ hu
  have free : p.unionName u ≠ .ok "JsonToken" := by
    intro named
    have fresh := planned.fresh _ (List.mem_append_right _ (List.mem_map_of_mem written))
    rw [unionFor, named] at fresh
    exact fresh (by decide)
  rw [declaredFields_structTexts fun m hm => planned.fieldFor_capital written hm,
    ← settled.exists_field_iff wf hu (by decide) (by decide) free, List.mem_map]
  refine exists_congr fun m => and_congr_right fun hm => ?_
  rw [planned.complete.fieldName_eq written hm, Except.ok.injEq]

theorem keepsMeanings_iff : KeepsMeanings (structTexts p u) (constructorTexts p u) ↔
    ∀ c ∈ g.classes, .record c.ref ∈ membersOf u → styledText c.baseName ≠ "JsonToken" := by
  constructor
  · intro keeps c hc inside called
    exact keeps _ (jsonToken_mem_lookedUp inside)
      ((jsonToken_declared_iff settled wf hu).mpr ⟨c, hc, inside, called⟩)
  · intro apart name inside hidden
    obtain rfl := hidden_eq settled wf hu inside hidden
    obtain ⟨c, hc, member, called⟩ := (jsonToken_declared_iff settled wf hu).mp hidden
    exact apart c hc member called

end Settled

/-- In the source of an accepted document, the constructor of a generated union never means a field
where it looks up one of its parameters. It means the enumeration of the library in its labels, and
not a field, exactly when no class among its members is called like the enumeration. -/
theorem constructor_keepsMeanings_iff {document : Json}
    (accepted : Document.readGraph document = .ok g) (s : Settings) (hu : u ∈ g.unions) :
    ∃ p name body inner, planFor g s = .ok p ∧ p.unionName u = .ok name ∧
      StructStands g s name body inner ∧
      (∀ n ∈ lookedUp (inner.map (·.text)), n ∈ declaredFields (body.map (·.text)) →
        n = "JsonToken") ∧
      (KeepsMeanings (body.map (·.text)) (inner.map (·.text)) ↔
        ∀ c ∈ g.classes, .record c.ref ∈ membersOf u → styledText c.baseName ≠ "JsonToken") := by
  have wf := Document.readGraph_wellFormed accepted
  obtain ⟨p, planned, settled⟩ := planFor_settled wf s
  have complete := settled.complete wf
  have written : u ∈ p.unions := settled.unions ▸ hu
  obtain ⟨body, inner, stands, bodyTexts, innerTexts⟩ := struct_stands planned complete written
  refine ⟨p, _, body, inner, planned, complete.unionName_eq written, stands, ?_⟩
  rw [bodyTexts, innerTexts]
  exact ⟨fun n => hidden_eq settled wf hu, keepsMeanings_iff settled wf hu⟩

/-- A union of texts and of a class that is called like the enumeration. -/
def hidingDocument : Json := .object [
  ("classes", .object [("JsonToken", .object [])]),
  ("top_level", .object [
    ("kind", .string "union"),
    ("members", .array [
      .string "string", .object [("kind", .string "class"), ("ref", .string "JsonToken")]])])]

def hidingGraph : Graph :=
  ⟨[⟨"JsonToken", ["JsonToken"], []⟩], .union [.string, .record "JsonToken"]⟩

/-- Its class gets another name, but the field for it does not, and the labels of the
constructor mean the field. -/
theorem enumeration_hidden :
    Document.readGraph hidingDocument = .ok hidingGraph ∧
      hidingGraph.topLevel ∈ hidingGraph.unions ∧
      ∃ p name body inner, planFor hidingGraph {} = .ok p ∧
        p.unionName hidingGraph.topLevel = .ok name ∧
        StructStands hidingGraph {} name body inner ∧ "JsonToken" ∈ lookedUp (inner.map (·.text)) ∧
        "JsonToken" ∈ declaredFields (body.map (·.text)) := by
  have accepted : Document.readGraph hidingDocument = .ok hidingGraph := rfl
  have generated : hidingGraph.topLevel ∈ hidingGraph.unions := by decide
  have wf := Document.readGraph_wellFormed accepted
  obtain ⟨p, planned, settled⟩ := planFor_settled wf {}
  have complete := settled.complete wf
  have written : hidingGraph.topLevel ∈ p.unions := settled.unions ▸ generated
  obtain ⟨body, inner, stands, bodyTexts, innerTexts⟩ := struct_stands planned complete written
  have member : .record "JsonToken" ∈ membersOf hidingGraph.topLevel := by decide
  have called : styledText "JsonToken" = "JsonToken" := by decide +kernel
  refine ⟨accepted, generated, p, _, body, inner, planned, complete.unionName_eq written, stands,
    ?_, ?_⟩
  · rw [innerTexts]
    exact jsonToken_mem_lookedUp member
  · rw [bodyTexts]
    exact (jsonToken_declared_iff settled wf generated).mpr ⟨_, List.mem_singleton_self _, member,
      called⟩

theorem sample_keepsMeanings :
    Document.sampleUnion ∈ Document.sampleGraph.unions ∧ hidingGraph.topLevel ∈ hidingGraph.unions ∧
      (∃ name body inner, StructStands Document.sampleGraph {} name body inner ∧
        KeepsMeanings (body.map (·.text)) (inner.map (·.text))) ∧
      ∃ name body inner, StructStands hidingGraph {} name body inner ∧
        ¬ KeepsMeanings (body.map (·.text)) (inner.map (·.text)) := by
  have generated : Document.sampleUnion ∈ Document.sampleGraph.unions := by decide
  have generatedToo : hidingGraph.topLevel ∈ hidingGraph.unions := by decide
  have accepted : Document.readGraph hidingDocument = .ok hidingGraph := rfl
  obtain ⟨_, name, body, inner, -, -, stands, -, keeps⟩ :=
    constructor_keepsMeanings_iff Document.readGraph_sample {} generated
  obtain ⟨_, name', body', inner', -, -, stands', -, keeps'⟩ :=
    constructor_keepsMeanings_iff accepted {} generatedToo
  refine ⟨generated, generatedToo, ⟨name, body, inner, stands, keeps.mpr (by decide)⟩, name', body',
    inner', stands', ?_⟩
  rw [keeps']
  decide +kernel

end Shapewright.Source
