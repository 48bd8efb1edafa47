import Shapewright.Proofs.Source.Literal
import Shapewright.Proofs.Source.Types

/-!
# Legible lines

Every text that is written as a line of the source is made of printable characters and of those that
names are made of: literals are printable, and so is what is fixed of a line. Such a text ends no
line itself, and no escape sequence begins in it.
-/
namespace Shapewright.Source
open Identifier Plan Dispatch TypeText
open Shape (nonNull)

def OneLine (text : String) : Prop := ∀ c ∈ text.toList, isLineEnd c = false

theorem OneLine.fixed {cs : List Char} (h : cs.all (!isLineEnd ·)) :
    OneLine (String.ofList cs) := by
  intro c hc
  rw [String.toList_ofList] at hc
  simpa using List.all_eq_true.mp h c hc

theorem OneLine.append {a b : String} (ha : OneLine a) (hb : OneLine b) : OneLine (a ++ b) := by
  rw [OneLine, String.toList_append]
  exact List.forall_mem_append.mpr ⟨ha, hb⟩

def isLegible (c : Char) : Bool := 0x20 ≤ c.toNat && c.toNat < 0x7F || isContinue c

def Legible (text : String) : Prop := ∀ c ∈ text.toList, isLegible c

def AllLegible (texts : List String) : Prop := ∀ text ∈ texts, Legible text

theorem isLineEnd_of_isLegible {c : Char} (h : isLegible c) : isLineEnd c = false := by
  have none : lineEnds.all fun d => !isLegible d := by decide +kernel
  exact isLineEnd_eq_false none h

theorem Legible.oneLine {text : String} (h : Legible text) : OneLine text :=
  fun c hc => isLineEnd_of_isLegible (h c hc)

theorem Legible.not_mem_escape {text : String} (h : Legible text) : '\x1b' ∉ text.toList := by
  intro inside
  have escape : isLegible '\x1b' = false := by decide +kernel
  rw [h _ inside] at escape
  cases escape

theorem Legible.fixed {cs : List Char} (h : cs.all isLegible) : Legible (String.ofList cs) := by
  intro c hc
  rw [String.toList_ofList] at hc
  exact List.all_eq_true.mp h c hc

theorem Legible.append {a b : String} (ha : Legible a) (hb : Legible b) : Legible (a ++ b) := by
  rw [Legible, String.toList_append]
  exact List.forall_mem_append.mpr ⟨ha, hb⟩

theorem AllLegible.append {as bs : List String} (ha : AllLegible as) (hb : AllLegible bs) :
    AllLegible (as ++ bs) :=
  List.forall_mem_append.mpr ⟨ha, hb⟩

theorem AllLegible.nil : AllLegible [] := fun _ inside => absurd inside List.not_mem_nil

theorem AllLegible.cons {a : String} {as : List String} (ha : Legible a) (h : AllLegible as) :
    AllLegible (a :: as) :=
  List.forall_mem_cons.mpr ⟨ha, h⟩

theorem AllLegible.map {α : Type} {f : α → String} {as : List α} (h : ∀ a ∈ as, Legible (f a)) :
    AllLegible (as.map f) := List.forall_mem_map.mpr h

theorem AllLegible.flatMap {α : Type} {f : α → List String} {as : List α}
    (h : ∀ a ∈ as, AllLegible (f a)) :
    AllLegible (as.flatMap f) := by
  intro text inside
  obtain ⟨a, ha, inside⟩ := List.mem_flatMap.mp inside
  exact h a ha text inside

section Pieces

theorem Legible.valid {name : String} (valid : IsValid name) : Legible name := fun c hc => by
  simp [isLegible, List.all_eq_true.mp (all_isContinue valid) c hc]

theorem Legible.dotted {ns : String} (dotted : Settings.IsDotted ns) : Legible ns := by
  intro c hc
  rcases mem_segments hc with rfl | ⟨segment, inside, hc⟩
  · rfl
  · refine Legible.valid (dotted segment inside).1 c ?_
    rwa [String.toList_ofList]

theorem Legible.quote (raw : Text) : Legible (Literal.quote raw) := by
  have mark : Legible "\"" := .fixed rfl
  refine (mark.append fun c hc => ?_).append mark
  rw [Literal.escape, String.toList_ofList] at hc
  obtain ⟨low, high⟩ := Literal.printable_escapePoints raw c hc
  simp [isLegible, low, high]

theorem legible_intercalate {separator : String} (h : Legible separator) {texts : List String}
    (each : AllLegible texts) : Legible (separator.intercalate texts) := by
  induction texts with
  | nil => exact .fixed rfl
  | cons text texts ih =>
    obtain ⟨here, others⟩ := List.forall_mem_cons.mp each
    cases texts with
    | nil => simpa using here
    | cons next texts =>
      rw [String.intercalate_cons_cons]
      exact (here.append h).append (ih others)

/-- Type expressions of types with legible names. -/
theorem typeClosed_legible {names : List String} (h : AllLegible names) :
    TypeClosed names Legible where
  builtin := by
    have all : AllLegible builtinTypes := .cons (.fixed rfl) (.cons (.fixed rfl) (.cons (.fixed rfl)
      (.cons (.fixed rfl) (.cons (.fixed rfl) (.cons (.fixed rfl) .nil)))))
    exact all
  name := h
  arrayOf typed := typed.append (.fixed rfl)
  dictionaryOf typed :=
    ((.fixed rfl : Legible "Dictionary<string, ").append typed).append (.fixed rfl)
  nullable typed := by
    unfold TypeText.nullable
    split
    · exact typed.append (.fixed rfl)
    · exact typed

end Pieces

section Lines
variable {type name : String}

theorem legible_entryLine (typed : Legible type) : Legible (entryLine type) :=
  ((((.fixed rfl : Legible "public static ").append typed).append (.fixed rfl)).append typed).append
    (.fixed rfl)

theorem legible_typeCheck (named : Legible name) : Legible (typeCheck name) :=
  ((.fixed rfl : Legible "t == typeof(").append named).append (.fixed rfl)

theorem legible_canConvertLine {names : List String} (named : AllLegible names) :
    Legible (canConvertLine names) := by
  have checks := legible_intercalate (.fixed rfl : Legible " || ") (.map fun name inside =>
    legible_typeCheck (named name inside))
  exact ((.fixed rfl : Legible "public override bool CanConvert(Type t) => ").append checks).append
    (.fixed rfl)

theorem allLegible_branch (named : Legible name) : AllLegible [checkLine name, buildLine name] := by
  have check : Legible (checkLine name) :=
    ((.fixed rfl : Legible "if (").append (legible_typeCheck named)).append (.fixed rfl)
  have build : Legible (buildLine name) :=
    ((.fixed rfl : Legible "return new ").append named).append (.fixed rfl)
  exact .cons check (.cons build .nil)

theorem legible_attributeLine (key : Text) : Legible (attributeLine key) :=
  ((.fixed rfl : Legible "[JsonProperty(").append (.quote key)).append (.fixed rfl)

theorem legible_propertyLine (typed : Legible type) (named : Legible name) :
    Legible (propertyLine type name) :=
  ((((.fixed rfl : Legible "public ").append typed).append (.fixed rfl)).append named).append
    (.fixed rfl)

theorem legible_recordHeader (named : Legible name) : Legible (recordHeader name) :=
  (.fixed rfl : Legible "public partial class ").append named

theorem legible_structHeader (named : Legible name) : Legible (structHeader name) :=
  (.fixed rfl : Legible "public struct ").append named

theorem legible_fieldLine (typed : Legible type) (named : Legible name) :
    Legible (fieldLine type name) :=
  ((((.fixed rfl : Legible "public ").append typed).append (.fixed rfl)).append named).append
    (.fixed rfl)

theorem legible_clearLine (named : Legible name) : Legible (clearLine name) :=
  named.append (.fixed rfl)

theorem legible_assignLine (typed : Legible type) (named : Legible name) :
    Legible (assignLine name type) :=
  ((named.append (.fixed rfl)).append typed).append (.fixed rfl)

theorem legible_caseLabel (t : Token) : Legible (caseLabel t) := by
  have named : Legible t.name := by cases t <;> exact .fixed rfl
  exact ((.fixed rfl : Legible "case JsonToken.").append named).append (.fixed rfl)

theorem legible_constructorHeader (named : Legible name) : Legible (constructorHeader name) :=
  ((.fixed rfl : Legible "public ").append named).append (.fixed rfl)

theorem legible_refusalLine (name : String) : Legible (refusalLine name) :=
  ((.fixed rfl : Legible "throw new Exception(").append (.quote _)).append (.fixed rfl)

end Lines

section Declarations
variable {p : Plan}

theorem allLegible_settingsTexts (p : Plan) : AllLegible (settingsTexts p) := by
  have opening : AllLegible ["static JsonSerializerSettings Settings = new JsonSerializerSettings",
      "\x7b",
      "MetadataPropertyHandling = MetadataPropertyHandling.Ignore,",
      "DateParseHandling = DateParseHandling.None,"] :=
    .cons (.fixed rfl) (.cons (.fixed rfl) (.cons (.fixed rfl) (.cons (.fixed rfl) .nil)))
  have registered : AllLegible (if p.unions.isEmpty then [] else [registration]) := by
    split
    · exact .nil
    · exact .cons (.fixed rfl) .nil
  exact (opening.append registered).append (.cons (.fixed rfl) .nil)

theorem allLegible_converterTexts {names : List String} (named : AllLegible names) :
    AllLegible (converterTexts names) := by
  have branches : AllLegible (names.flatMap fun name => [checkLine name, buildLine name]) :=
    .flatMap fun name inside => allLegible_branch (named name inside)
  have read : AllLegible (readTexts names) :=
    ((AllLegible.cons (.fixed rfl) (.cons (.fixed rfl) .nil)).append branches).append
      (.cons (.fixed rfl) (.cons (.fixed rfl) .nil))
  have front : AllLegible [converterHeader, "\x7b", canConvertLine names, ""] :=
    .cons (.fixed rfl)
      (.cons (.fixed rfl) (.cons (legible_canConvertLine named) (.cons (.fixed rfl) .nil)))
  have back : AllLegible ["", writeHeader, "\x7b", "throw new NotImplementedException();", "\x7d",
      "\x7d"] :=
    .cons (.fixed rfl)
      (.cons (.fixed rfl) (.cons (.fixed rfl) (.cons (.fixed rfl) (.cons (.fixed rfl)
      (.cons (.fixed rfl) .nil)))))
  exact (front.append read).append back

theorem allLegible_commentLines {ns : String} (h : Legible ns) : AllLegible (commentLines ns) := by
  have mention : Legible ("//    using " ++ ns ++ ";") :=
    ((.fixed rfl : Legible "//    using ").append h).append (.fixed rfl)
  have call : Legible ("//    var data = " ++ ns ++ ".Convert.FromJson(jsonString);") :=
    ((.fixed rfl : Legible "//    var data = ").append h).append (.fixed rfl)
  exact .cons (.fixed rfl) (.cons (.fixed rfl) (.cons mention (.cons (.fixed rfl) (.cons call
    (.cons (.fixed rfl) .nil)))))

theorem allLegible_headTexts {s : Settings} (h : Legible s.namespaceName) :
    AllLegible (headTexts s) := by
  have comments : AllLegible (if s.headerComment then commentLines s.namespaceName else []) := by
    split
    · exact allLegible_commentLines h
    · exact .nil
  have opening : AllLegible ["namespace " ++ s.namespaceName, "\x7b"] :=
    .cons ((.fixed rfl : Legible "namespace ").append h) (.cons (.fixed rfl) .nil)
  have system : AllLegible systemUsings :=
    .cons (.fixed rfl) (.cons (.fixed rfl) (.cons (.fixed rfl) .nil))
  have json : AllLegible jsonUsings := .cons (.fixed rfl) .nil
  have blank : AllLegible [""] := .cons (.fixed rfl) .nil
  exact (((comments.append opening).append system |>.append blank).append json).append blank

section Planned
variable (planned : Planned p)
include planned

theorem legible_classFor {c : RecordClass} (hc : c ∈ p.graph.classes) : Legible (p.classFor c) :=
  .valid (planned.classFor_capital hc).usable.1

theorem legible_unionFor {u : Shape} (hu : u ∈ p.unions) : Legible (p.unionFor u) :=
  .valid (planned.unionFor_capital hu).usable.1

theorem closed_legible : TypeClosed p.typeNames Legible :=
  typeClosed_legible fun name inside => .valid (planned.typeNames_capital name inside).usable.1

theorem legible_typeFor {s : Shape} (hs : s ∈ p.graph.shapes) : Legible (p.typeFor s) :=
  typeFor_induct (closed_legible planned) planned hs

theorem allLegible_recordTexts {c : RecordClass} (hc : c ∈ p.graph.classes) :
    AllLegible (recordTexts p c) := by
  have front : AllLegible [recordHeader (p.classFor c), "\x7b"] :=
    .cons (legible_recordHeader (legible_classFor planned hc)) (.cons (.fixed rfl) .nil)
  have properties : AllLegible (c.properties.flatMap (propertyTexts p c)) := by
    refine .flatMap fun e he => .cons (legible_attributeLine e.1) (.cons ?_ .nil)
    exact legible_propertyLine (legible_typeFor planned (Graph.property_mem hc he))
      (.valid (planned.propertyFor_capital hc he).usable.1)
  exact (front.append properties).append (.cons (.fixed rfl) .nil)

section Union
variable {u : Shape} (hu : u ∈ p.unions)
include hu

theorem legible_field {m : Shape} (hm : m ∈ nonNull (membersOf u)) :
    Legible (p.fieldFor u m) ∧ Legible (p.typeFor m) :=
  ⟨.valid (planned.fieldFor_capital hu hm).usable.1,
    legible_typeFor planned (planned.complete.fields u hu m hm).1⟩

theorem allLegible_frontTexts : AllLegible (frontTexts p u) := by
  have fields : AllLegible ((nonNull (membersOf u)).map fun m =>
      fieldLine (nullable (p.typeFor m)) (p.fieldFor u m)) := by
    refine .map fun m hm => ?_
    obtain ⟨named, typed⟩ := legible_field planned hu hm
    exact legible_fieldLine ((closed_legible planned).nullable typed) named
  have clears : AllLegible ((nonNull (membersOf u)).map fun m => clearLine (p.fieldFor u m)) :=
    .map fun m hm => legible_clearLine (legible_field planned hu hm).1
  have constructing : AllLegible ["", constructorHeader (p.unionFor u), "\x7b"] :=
    .cons (.fixed rfl)
      (.cons (legible_constructorHeader (legible_unionFor planned hu)) (.cons (.fixed rfl) .nil))
  have switch : AllLegible ["", "switch (reader.TokenType)", "\x7b"] :=
    .cons (.fixed rfl) (.cons (.fixed rfl) (.cons (.fixed rfl) .nil))
  exact ((fields.append constructing).append clears).append switch

theorem allLegible_caseTexts {c : Case} (hc : c ∈ table (membersOf u)) :
    AllLegible (caseTexts p u c) := by
  have returns : AllLegible ["return;"] := .cons (.fixed rfl) .nil
  have arm : AllLegible (armTexts p u c.member) := by
    cases stored : c.member with
    | none => exact returns
    | some m =>
      obtain ⟨named, typed⟩ := legible_field planned hu (planned.complete.arms u hu c hc m stored)
      exact .cons (legible_assignLine typed named) returns
  exact (AllLegible.map fun t _ => legible_caseLabel t).append arm

theorem allLegible_unionTexts : AllLegible (unionTexts p u) := by
  have cases : AllLegible ((table (membersOf u)).flatMap (caseTexts p u)) :=
    .flatMap fun c hc => allLegible_caseTexts planned hu hc
  have back : AllLegible (backTexts p u) :=
    .cons (.fixed rfl) (.cons (legible_refusalLine _) (.cons (.fixed rfl) .nil))
  have struct : AllLegible (structTexts p u) :=
    ((allLegible_frontTexts planned hu).append cases).append back
  have front : AllLegible [structHeader (p.unionFor u), "\x7b"] :=
    .cons (legible_structHeader (legible_unionFor planned hu)) (.cons (.fixed rfl) .nil)
  exact (front.append struct).append (.cons (.fixed rfl) .nil)

end Union

theorem allLegible_entryTexts : AllLegible (entryTexts p) := by
  have front : AllLegible [convertHeader, "\x7b", entryLine (p.typeFor p.graph.topLevel), ""] :=
    .cons (.fixed rfl) (.cons (.fixed rfl)
      (.cons (legible_entryLine (legible_typeFor planned planned.complete.topLevel))
        (.cons (.fixed rfl) .nil)))
  exact (front.append (allLegible_settingsTexts p)).append (.cons (.fixed rfl) .nil)

/-- Every text of the source is legible. -/
theorem allLegible_sourceTexts {s : Settings} (dotted : Settings.IsDotted s.namespaceName) :
    AllLegible (sourceTexts p s) := by
  have later : ∀ texts ∈ laterTexts p, AllLegible texts := by
    intro texts inside
    simp only [laterTexts, List.mem_append, List.mem_map] at inside
    rcases inside with (inside | ⟨c, hc, rfl⟩) | ⟨u, hu, rfl⟩
    · split at inside
      · cases inside
      · rw [List.mem_singleton.mp inside]
        exact allLegible_converterTexts (.map fun u hu => legible_unionFor planned hu)
    · exact allLegible_recordTexts planned hc
    · exact allLegible_unionTexts planned hu
  have parts : AllLegible ((laterTexts p).flatMap ("" :: ·)) :=
    .flatMap fun texts inside => .cons (.fixed rfl) (later texts inside)
  have front := (allLegible_headTexts (.dotted dotted)).append (allLegible_entryTexts planned)
  exact (front.append parts).append (.cons (.fixed rfl) .nil)

end Planned
end Declarations

end Shapewright.Source
