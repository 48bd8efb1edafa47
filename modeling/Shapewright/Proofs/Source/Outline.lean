import Shapewright.Proofs.Source.Reading

/-!
# Outline of the source

What a compiler collects from the lines of each declaration: the headers, the declared names, what
the settings make known and what the converter overrides. Outlines of parts add up to that of the
whole.
-/
namespace Shapewright.Source
open Identifier Plan Dispatch TypeText
open Shape (nonNull)

structure Outline where
  headers : List String := []
  declared : List String := []
  registered : List String := []
  overridden : List String := []

instance : Append Outline where
  append a b := {
    headers := a.headers ++ b.headers
    declared := a.declared ++ b.declared
    registered := a.registered ++ b.registered
    overridden := a.overridden ++ b.overridden }

theorem Outline.mk_append (hs ds rs os hs' ds' rs' os' : List String) :
    Outline.mk hs ds rs os ++ Outline.mk hs' ds' rs' os' = ⟨hs ++ hs', ds ++ ds', rs ++ rs',
      os ++ os'⟩ := rfl

theorem Outline.append_empty (o : Outline) : o ++ ({} : Outline) = o := by
  rw [Outline.mk_append]
  simp only [List.append_nil]

def outline (texts : List String) : Outline where
  headers := texts.filter declares
  declared := texts.flatMap declaredIn
  registered := texts.filter makesConverter
  overridden := texts.filter overrides

theorem outline_append (as bs : List String) : outline (as ++ bs) = outline as ++ outline bs := by
  simp only [outline, Outline.mk_append, List.filter_append, List.flatMap_append]

/-- The lines have the outline, and their type expressions are made of built-in
types and the given names. -/
structure Outlined (names texts : List String) (o : Outline) : Prop where
  outline : outline texts = o
  types : ∀ text ∈ texts, TypesOver names text

/-- A line that adds nothing to the outline. -/
structure IsInner (names : List String) (text : String) : Prop where
  quiet : IsQuiet text
  types : TypesOver names text

section Composition
variable {names as bs texts ws : List String} {a b : Outline} {text name : String}

theorem Outlined.append (ha : Outlined names as a) (hb : Outlined names bs b) :
    Outlined names (as ++ bs) (a ++ b) := by
  refine ⟨by rw [outline_append, ha.outline, hb.outline], fun text h => ?_⟩
  rcases List.mem_append.mp h with h | h
  · exact ha.types text h
  · exact hb.types text h

theorem Outlined.inner (h : ∀ text ∈ texts, IsInner names text) : Outlined names texts {} := by
  have quiet := fun text inside => (h text inside).quiet
  refine ⟨?_, fun text inside => (h text inside).types⟩
  simp only [Source.outline, Outline.mk.injEq, List.filter_eq_nil_iff, List.flatMap_eq_nil_iff,
    Bool.not_eq_true]
  exact ⟨fun text inside => (quiet text inside).declares,
    fun text inside => (quiet text inside).declaredIn,
    fun text inside => (quiet text inside).makesConverter,
    fun text inside => (quiet text inside).overrides⟩

theorem outlined_inner (inner : IsInner names text) : Outlined names [text] {} :=
  .inner (by simpa using inner)

/-- Declarations of one kind, one after another. -/
theorem Outlined.flatMap {α : Type} {xs : List α} {texts : α → List String}
    {header name : α → String}
    (h : ∀ x ∈ xs, Outlined names (texts x) { headers := [header x], declared := [name x] }) :
    Outlined names (xs.flatMap texts) { headers := xs.map header, declared := xs.map name } := by
  induction xs with
  | nil => exact .inner fun _ inside => absurd inside List.not_mem_nil
  | cons x xs ih =>
    obtain ⟨here, others⟩ := List.forall_mem_cons.mp h
    exact here.append (ih others)

theorem IsInner.of_words (h : words text = ws)
    (plain : ∀ w ∈ ws, w ∉ ["class", "struct", "override"])
    (noConverter : "Converter" ∉ following "new" ws) (notPublic : ws.head? ≠ some "public")
    (notTarget : ws[1]? ≠ some "serializer") : IsInner names text :=
  ⟨⟨h ▸ plain, h ▸ noConverter⟩, typesOver_of_words h notPublic notTarget⟩

theorem capital_apart (capital : IsCapital name) :
    name ≠ "class" ∧ name ≠ "struct" ∧ name ≠ "override" ∧ name ≠ "new" :=
  ⟨capital_ne capital (by decide), capital_ne capital (by decide), capital_ne capital (by decide),
    capital_ne capital (by decide)⟩

theorem capital_not_mem (capital : IsCapital name) :
    name ∉ ["class", "struct", "override", "new"] := by
  simp [capital_apart capital]

end Composition

section Lines
variable {names : List String} {text type name : String} {ws : List String}

/-- The words of a fixed line that adds nothing. -/
def innerWords (ws : List String) : Bool :=
  ws.all (fun w => w != "class" && w != "struct" && w != "override") &&
    !(following "new" ws).contains "Converter" && ws.head? != some "public" &&
      ws[1]? != some "serializer"

theorem inner_fixed {cs : List Char} (ascii : cs.all (·.toNat < 0x80))
    (inner : innerWords (asciiWords cs)) :
    IsInner names (String.ofList cs) := by
  simp only [innerWords, Bool.and_eq_true, List.all_eq_true, Bool.not_eq_true', bne_iff_ne] at inner
  obtain ⟨⟨⟨plain, noConverter⟩, notPublic⟩, notTarget⟩ := inner
  refine .of_words (words_ascii ascii) (fun w hw => ?_) ?_ notPublic notTarget
  · simpa [and_assoc] using plain w hw
  · simpa using noConverter

theorem inner_blank : IsInner names "" := inner_fixed rfl (by decide)

theorem inner_open : IsInner names "\x7b" := inner_fixed rfl (by decide)

theorem inner_close : IsInner names "\x7d" := inner_fixed rfl (by decide)

theorem inner_comment {cs : List Char} (h : ∃ ds, cs = '/' :: '/' :: ds) (rest : String) :
    IsInner names (String.ofList cs ++ rest) :=
  .of_words (words_comment h rest) (by simp) (by simp [following]) (by simp) (by simp)

theorem inner_attributeLine (key : Text) : IsInner names (attributeLine key) :=
  .of_words (words_attributeLine key) (by decide) (by decide) (by decide) (by decide)

theorem inner_refusalLine (name : String) : IsInner names (refusalLine name) :=
  .of_words (words_refusalLine name) (by decide) (by decide) (by decide) (by decide)

theorem inner_caseLabel (t : Token) : IsInner names (caseLabel t) := by
  refine .of_words (words_caseLabel t) ?_ ?_ (by simp) (by simp)
  · cases t <;> decide
  · cases t <;> decide

theorem inner_clearLine (capital : IsCapital name) : IsInner names (clearLine name) := by
  have other := capital_apart capital
  have notPublic : name ≠ "public" := capital_ne capital (by decide)
  refine .of_words (words_clearLine capital.usable.1) ?_ ?_ ?_ (by simp)
  · simp [other]
  · simp [following, other]
  · simp [notPublic]

theorem inner_checkLine (capital : IsCapital name) : IsInner names (checkLine name) := by
  have other := capital_apart capital
  refine .of_words (words_checkLine capital.usable.1) ?_ ?_ (by simp) (by simp)
  · simp [other]
  · simp [following]

theorem inner_buildLine (capital : IsCapital name) (notConverter : name ≠ "Converter") :
    IsInner names (buildLine name) := by
  have other := capital_apart capital
  refine .of_words (words_buildLine capital.usable.1) ?_ ?_ (by simp) (by simp)
  · simp [other]
  · simp [following, other, Ne.symm notConverter]

theorem inner_constructorHeader (capital : IsCapital name) :
    IsInner names (constructorHeader name) := by
  have last : lastOf (constructorHeader name) = some ')' := lastOf_append (by decide)
  have other := capital_apart capital
  refine ⟨quiet_of_words (words_constructorHeader capital.usable.1) ?_, ?_⟩
  · simp [other]
  · exact typesOver_of_last last (by decide) (by decide)

/-- The keywords looked for are reserved, so no segment of a namespace is one of them. -/
theorem inner_namespaceLine {ns : String} (dotted : Settings.IsDotted ns) :
    IsInner names ("namespace " ++ ns) := by
  have front := words_namespaceLine dotted
  refine ⟨quiet_of_words front fun w inside keyword => ?_,
    typesOver_of_keyword front (by decide) (by decide)⟩
  have reserved : ∀ v ∈ ["class", "struct", "override", "new"], v ≠ "namespace" ∧
      isKeyword v = true := by decide
  obtain ⟨other, isKeyword⟩ := reserved w keyword
  obtain ⟨segment, inSegments, rfl⟩ :=
    List.mem_map.mp ((List.mem_cons.mp inside).resolve_left other)
  rw [(dotted segment inSegments).2] at isKeyword
  cases isKeyword

section Typed
variable (capitals : ∀ name ∈ names, IsCapital name) (typed : TypeOver names type)
include capitals typed

theorem TypeOver.word {w : String} (inside : w ∈ words type) :
    w ∉ ["class", "struct", "override", "new"] := by
  intro listed
  have small : ∀ v ∈ ["class", "struct", "override", "new"], beginsSmall v.toList ∧
      v ∉ builtinTypes := by decide
  obtain ⟨isSmall, other⟩ := small w listed
  exact typed.not_mem capitals isSmall other inside

theorem inner_propertyLine (capital : IsCapital name) : IsInner names (propertyLine type name) := by
  have valid := capital.usable.1
  have other := capital_not_mem capital
  refine ⟨quiet_of_words (words_propertyLine typed.plain valid) ?_,
    typesOver_propertyLine typed valid⟩
  simp only [List.forall_mem_append, List.cons_append, List.forall_mem_cons]
  exact ⟨by decide, fun _ => typed.word capitals, other, by decide⟩

theorem inner_fieldLine (capital : IsCapital name) : IsInner names (fieldLine type name) := by
  have valid := capital.usable.1
  have other := capital_not_mem capital
  refine ⟨quiet_of_words (words_fieldLine typed.plain valid) ?_, typesOver_fieldLine typed valid⟩
  simp only [List.forall_mem_append, List.cons_append, List.forall_mem_cons]
  exact ⟨by decide, fun _ => typed.word capitals, other, by decide⟩

theorem inner_entryLine : IsInner names (entryLine type) := by
  have inType : ∀ w ∈ words type, w ∉ ["class", "struct", "override", "new"] :=
    fun _ => typed.word capitals
  refine ⟨quiet_of_words (words_entryLine typed.plain) ?_, typesOver_entryLine typed⟩
  simp only [List.forall_mem_append]
  exact ⟨⟨⟨⟨by decide, inType⟩, by decide⟩, inType⟩, by decide⟩

theorem inner_assignLine (capital : IsCapital name) : IsInner names (assignLine name type) := by
  have other := capital_not_mem capital
  refine ⟨quiet_of_words (words_assignLine typed.plain capital.usable.1) ?_,
    typesOver_assignLine typed capital.usable⟩
  simp only [List.forall_mem_append, List.forall_mem_cons]
  exact ⟨⟨⟨other, by decide⟩, fun _ => typed.word capitals⟩, by decide⟩

end Typed

theorem outline_line (h : words text = ws) :
    outline [text] = {
      headers := if ws.contains "class" || ws.contains "struct" then [text] else []
      declared := following "class" ws ++ following "struct" ws
      registered := if (following "new" ws).contains "Converter" then [text] else []
      overridden := if ws.contains "override" then [text] else [] } := by
  simp only [outline, declares, declaredIn, makesConverter, overrides, h, List.filter_singleton,
    List.flatMap_singleton, Bool.cond_eq_ite]

theorem outlined_line {o : Outline} (outline : outline [text] = o) (types : TypesOver names text) :
    Outlined names [text] o :=
  ⟨outline, by simpa using types⟩

end Lines

section Special
variable {names : List String} {name : String}

/-- No type expression stands on a line that ends in a name. -/
theorem typesOver_of_name (front : String) (valid : IsValid name) :
    TypesOver names (front ++ name) := by
  obtain ⟨c, last, continues⟩ := lastOf_valid valid
  have apart : ∀ d, isBreak d → c ≠ d := by
    rintro d ends rfl
    rw [isContinue_of_isBreak ends] at continues
    cases continues
  exact typesOver_of_last (lastOf_append last) (apart _ (by decide)) (apart _ (by decide))

theorem outlined_recordHeader (capital : IsCapital name) :
    Outlined names [recordHeader name] { headers := [recordHeader name], declared := [name] } := by
  have other := capital_apart capital
  refine outlined_line ?_ ?_
  · rw [outline_line (words_recordHeader capital.usable.1)]
    simp [following, other, Ne.symm]
  · exact typesOver_of_name _ capital.usable.1

theorem outlined_structHeader (capital : IsCapital name) :
    Outlined names [structHeader name] { headers := [structHeader name], declared := [name] } := by
  have other := capital_apart capital
  refine outlined_line ?_ ?_
  · rw [outline_line (words_structHeader capital.usable.1)]
    simp [following, other, Ne.symm]
  · exact typesOver_of_name _ capital.usable.1

theorem outlined_convertHeader :
    Outlined names [convertHeader] { headers := [convertHeader], declared := ["Convert"] } := by
  have front : words convertHeader = ["public", "static", "class", "Convert"] :=
    (words_ascii rfl).trans rfl
  have last : lastOf convertHeader = some 't' := by decide
  refine outlined_line ?_ (typesOver_of_last last (by decide) (by decide))
  rw [outline_line front]
  rfl

theorem outlined_converterHeader :
    Outlined names [converterHeader]
      { headers := [converterHeader], declared := ["Converter"] } := by
  have front : words converterHeader = ["public", "class", "Converter", "JsonConverter"] :=
    (words_ascii rfl).trans rfl
  have last : lastOf converterHeader = some 'r' := by decide
  refine outlined_line ?_ (typesOver_of_last last (by decide) (by decide))
  rw [outline_line front]
  rfl

theorem outlined_registration : Outlined names [registration] { registered := [registration] } := by
  have front : words registration = ["Converters", "new", "Converter"] :=
    (words_ascii rfl).trans rfl
  refine outlined_line ?_ (typesOver_of_words front (by decide) (by decide))
  rw [outline_line front]
  rfl

theorem outlined_readHeader : Outlined names [readHeader] { overridden := [readHeader] } := by
  have last : lastOf readHeader = some ')' := by decide
  refine outlined_line ?_ (typesOver_of_last last (by decide) (by decide))
  rw [outline_line words_readHeader]
  rfl

theorem outlined_writeHeader : Outlined names [writeHeader] { overridden := [writeHeader] } := by
  have front : words writeHeader = ["public", "override", "void", "WriteJson", "JsonWriter",
      "writer", "object",
    "value", "JsonSerializer", "serializer"] := (words_ascii rfl).trans rfl
  have last : lastOf writeHeader = some ')' := by decide
  refine outlined_line ?_ (typesOver_of_last last (by decide) (by decide))
  rw [outline_line front]
  rfl

/-- Between the names nothing of the checks is a keyword of declarations. -/
theorem outlined_canConvertLine {checked : List String}
    (capitals : ∀ name ∈ checked, IsCapital name) (filled : checked ≠ []) :
    Outlined names [canConvertLine checked] { overridden := [canConvertLine checked] } := by
  have valid : ∀ name ∈ checked, IsValid name := fun name inside => (capitals name inside).usable.1
  have absent : ∀ w ∈ ["class", "struct", "new"], w ∉ words (canConvertLine checked) := by
    intro w listed inside
    have small : ∀ v ∈ ["class", "struct", "new"], beginsSmall v.toList ∧
        v ∉ ["public", "override", "bool", "CanConvert", "Type", "t"] ∧ v ∉ ["t", "typeof"] := by
          decide
    obtain ⟨isSmall, notFront, notCheck⟩ := small w listed
    rw [words_canConvertLine valid, List.mem_append, List.mem_flatMap] at inside
    obtain ⟨name, named, inside⟩ := inside.resolve_left notFront
    replace inside : w ∈ ["t", "typeof"] ++ [name] := inside
    rcases List.mem_append.mp inside with inside | inside
    · exact notCheck inside
    · exact capital_ne (capitals name named) isSmall (List.mem_singleton.mp inside).symm
  have overriding : "override" ∈ words (canConvertLine checked) := by
    rw [words_canConvertLine valid]
    simp
  have noClass := absent "class" (by simp)
  have noStruct := absent "struct" (by simp)
  have noNew := absent "new" (by simp)
  refine outlined_line ?_ (typesOver_canConvertLine valid filled)
  rw [outline_line rfl, following_of_not_mem noClass, following_of_not_mem noStruct,
    following_of_not_mem noNew]
  simp [noClass, noStruct, overriding]

end Special

section Declarations
variable {p : Plan} {names : List String}

theorem outlined_block {header : String} {body : List String} {o : Outline}
    (h : Outlined names [header] o) (inner : ∀ text ∈ body, IsInner names text) :
    Outlined names ([header, "\x7b"] ++ body ++ ["\x7d"]) o := by
  have opening : Outlined names ["\x7b"] {} := outlined_inner inner_open
  have closing : Outlined names ["\x7d"] {} := outlined_inner inner_close
  have all := ((h.append opening).append (.inner inner)).append closing
  rwa [Outline.append_empty, Outline.append_empty, Outline.append_empty] at all

theorem settingsTexts_outlined (p : Plan) :
    Outlined names (settingsTexts p)
      { registered := if p.unions.isEmpty then [] else [registration] } := by
  have front : Outlined names
      ["static JsonSerializerSettings Settings = new JsonSerializerSettings", "\x7b",
      "MetadataPropertyHandling = MetadataPropertyHandling.Ignore,",
      "DateParseHandling = DateParseHandling.None,"] {} := by
    refine .inner ?_
    simp only [List.forall_mem_cons]
    exact ⟨inner_fixed rfl (by decide), inner_open, inner_fixed rfl (by decide),
      inner_fixed rfl (by decide),
      List.forall_mem_nil _⟩
  have back : Outlined names ["\x7d;"] {} := outlined_inner (inner_fixed rfl (by decide))
  cases filled : p.unions.isEmpty with
  | true =>
    rw [settingsTexts, filled]
    exact (front.append (.inner (List.forall_mem_nil _))).append back
  | false =>
    rw [settingsTexts, filled]
    exact (front.append outlined_registration).append back

theorem entryTexts_outlined (planned : Planned p) :
    Outlined p.typeNames (entryTexts p) {
      headers := [convertHeader]
      declared := ["Convert"]
      registered := if p.unions.isEmpty then [] else [registration] } := by
  have front : Outlined p.typeNames ["\x7b", entryLine (p.typeFor p.graph.topLevel), ""] {} := by
    refine .inner ?_
    simp only [List.forall_mem_cons]
    have typed := typeFor_over planned (Graph.topLevel_mem p.graph)
    exact ⟨inner_open, inner_entryLine planned.typeNames_capital typed, inner_blank,
      List.forall_mem_nil _⟩
  have back : Outlined p.typeNames ["\x7d"] {} := outlined_inner inner_close
  have all := ((outlined_convertHeader.append front).append (settingsTexts_outlined p)).append back
  refine ⟨all.outline.trans ?_, all.types⟩
  simp [Outline.mk_append]

/-- The branches of the converter make no converter, since no type is called like it. -/
theorem branches_inner {checked : List String} (capitals : ∀ name ∈ checked, IsCapital name)
    (apart : "Converter" ∉ checked) :
    ∀ text ∈ checked.flatMap fun name => [checkLine name, buildLine name], IsInner names text := by
  intro text inside
  obtain ⟨name, named, inside⟩ := List.mem_flatMap.mp inside
  have capital := capitals name named
  have notConverter : name ≠ "Converter" := fun same => apart (same ▸ named)
  simp only [List.mem_cons, List.not_mem_nil, or_false] at inside
  rcases inside with rfl | rfl
  · exact inner_checkLine capital
  · exact inner_buildLine capital notConverter

theorem readTexts_outlined {checked : List String} (capitals : ∀ name ∈ checked, IsCapital name)
    (apart : "Converter" ∉ checked) :
    Outlined names (readTexts checked) { overridden := [readHeader] } := by
  have opening : Outlined names ["\x7b"] {} := outlined_inner inner_open
  have branches : Outlined names _ {} := .inner (branches_inner capitals apart)
  have back : Outlined names ["throw new Exception(\"Unknown type\");", "\x7d"] {} := by
    refine .inner ?_
    simp only [List.forall_mem_cons]
    exact ⟨inner_fixed rfl (by decide), inner_close, List.forall_mem_nil _⟩
  exact ((outlined_readHeader.append opening).append branches).append back

theorem converterTexts_outlined {checked : List String}
    (capitals : ∀ name ∈ checked, IsCapital name) (apart : "Converter" ∉ checked)
    (filled : checked ≠ []) :
    Outlined names (converterTexts checked) {
      headers := [converterHeader]
      declared := ["Converter"]
      overridden := [canConvertLine checked, readHeader, writeHeader] } := by
  have opening : Outlined names ["\x7b"] {} := outlined_inner inner_open
  have blank : Outlined names [""] {} := outlined_inner inner_blank
  have back : Outlined names ["\x7b", "throw new NotImplementedException();", "\x7d",
      "\x7d"] {} := by
    refine .inner ?_
    simp only [List.forall_mem_cons]
    exact ⟨inner_open, inner_fixed rfl (by decide), inner_close, inner_close, List.forall_mem_nil _⟩
  have header : Outlined names [converterHeader] _ := outlined_converterHeader
  have front :=
    header.append (opening.append ((outlined_canConvertLine capitals filled).append blank))
  have writing := blank.append (outlined_writeHeader.append back)
  exact (front.append (readTexts_outlined capitals apart)).append writing

theorem recordTexts_outlined (planned : Planned p) {c : RecordClass} (hc : c ∈ p.graph.classes) :
    Outlined p.typeNames (recordTexts p c) {
      headers := [recordHeader (p.classFor c)]
      declared := [p.classFor c] } := by
  refine outlined_block (outlined_recordHeader (planned.classFor_capital hc)) fun text inside => ?_
  obtain ⟨e, he, inside⟩ := List.mem_flatMap.mp inside
  have typed := typeFor_over planned (planned.complete.properties c hc e he).1
  simp only [propertyTexts, List.mem_cons, List.not_mem_nil, or_false] at inside
  rcases inside with rfl | rfl
  · exact inner_attributeLine e.1
  · exact inner_propertyLine planned.typeNames_capital typed (planned.propertyFor_capital hc he)

section Struct
variable (planned : Planned p) {u : Shape} (hu : u ∈ p.unions)
include planned hu

theorem field_typed {m : Shape} (hm : m ∈ nonNull (membersOf u)) :
    IsCapital (p.fieldFor u m) ∧ TypeOver p.typeNames (p.typeFor m) :=
  ⟨planned.fieldFor_capital hu hm, typeFor_over planned (planned.complete.fields u hu m hm).1⟩

theorem frontTexts_inner : ∀ text ∈ frontTexts p u, IsInner p.typeNames text := by
  intro text inside
  simp only [frontTexts, List.mem_append, List.mem_map, List.mem_cons, List.not_mem_nil, or_false]
    at inside
  rcases inside with ((⟨m, hm, rfl⟩ | rfl | rfl | rfl) | ⟨m, hm, rfl⟩) | rfl | rfl | rfl
  · obtain ⟨capital, typed⟩ := field_typed planned hu hm
    exact inner_fieldLine planned.typeNames_capital typed.nullable capital
  · exact inner_blank
  · exact inner_constructorHeader (planned.unionFor_capital hu)
  · exact inner_open
  · exact inner_clearLine (field_typed planned hu hm).1
  · exact inner_blank
  · exact inner_fixed rfl (by decide)
  · exact inner_open

theorem caseTexts_inner {c : Case} (hc : c ∈ table (membersOf u)) :
    ∀ text ∈ caseTexts p u c, IsInner p.typeNames text := by
  have returns : IsInner p.typeNames "return;" := inner_fixed rfl (by decide)
  intro text inside
  rcases List.mem_append.mp inside with inside | inside
  · obtain ⟨t, -, rfl⟩ := List.mem_map.mp inside
    exact inner_caseLabel t
  · cases stored : c.member with
    | none =>
      rw [stored] at inside
      obtain rfl := List.mem_singleton.mp inside
      exact returns
    | some m =>
      rw [stored] at inside
      obtain ⟨capital, typed⟩ := field_typed planned hu (planned.complete.arms u hu c hc m stored)
      simp only [armTexts, List.mem_cons, List.not_mem_nil, or_false] at inside
      rcases inside with rfl | rfl
      · exact inner_assignLine planned.typeNames_capital typed capital
      · exact returns

theorem unionTexts_outlined :
    Outlined p.typeNames (unionTexts p u) {
      headers := [structHeader (p.unionFor u)]
      declared := [p.unionFor u] } := by
  refine outlined_block (outlined_structHeader (planned.unionFor_capital hu)) fun text inside => ?_
  rcases List.mem_append.mp inside with inside | inside
  · rcases List.mem_append.mp inside with inside | inside
    · exact frontTexts_inner planned hu text inside
    · obtain ⟨c, hc, inside⟩ := List.mem_flatMap.mp inside
      exact caseTexts_inner planned hu hc text inside
  · simp only [backTexts, List.mem_cons, List.not_mem_nil, or_false] at inside
    rcases inside with rfl | rfl | rfl
    · exact inner_close
    · exact inner_refusalLine _
    · exact inner_close

end Struct

theorem commentLines_inner (ns : String) : ∀ text ∈ commentLines ns, IsInner names text := by
  simp only [commentLines, List.forall_mem_cons]
  refine ⟨inner_fixed rfl (by decide), inner_fixed rfl (by decide), ?_, inner_fixed rfl (by decide),
    ?_,
    inner_fixed rfl (by decide), List.forall_mem_nil _⟩
  · rw [append_three]
    exact inner_comment ⟨_, rfl⟩ _
  · rw [append_three]
    exact inner_comment ⟨_, rfl⟩ _

theorem headTexts_inner {s : Settings} (dotted : Settings.IsDotted s.namespaceName) :
    ∀ text ∈ headTexts s, IsInner names text := by
  have system : ∀ text ∈ systemUsings, IsInner names text := by
    simp only [systemUsings, List.forall_mem_cons]
    exact ⟨inner_fixed rfl (by decide), inner_fixed rfl (by decide), inner_fixed rfl (by decide),
      List.forall_mem_nil _⟩
  have json : ∀ text ∈ jsonUsings, IsInner names text := by
    simpa [jsonUsings] using inner_fixed rfl (by decide)
  simp only [headTexts, List.forall_mem_append, List.forall_mem_cons]
  refine ⟨⟨⟨⟨⟨?_, inner_namespaceLine dotted, inner_open, List.forall_mem_nil _⟩, system⟩,
    inner_blank, List.forall_mem_nil _⟩, json⟩, inner_blank, List.forall_mem_nil _⟩
  split
  · exact commentLines_inner s.namespaceName
  · exact List.forall_mem_nil _

/-- The converter, if there is one. -/
theorem conversion_outlined (planned : Planned p) :
    Outlined p.typeNames
      ((if p.unions.isEmpty then [] else [converterTexts (p.unions.map p.unionFor)]).flatMap
        ("" :: ·)) {
        headers := if p.unions.isEmpty then [] else [converterHeader]
        declared := if p.unions.isEmpty then [] else ["Converter"]
        overridden := if p.unions.isEmpty then [] else
          [canConvertLine (p.unions.map p.unionFor), readHeader, writeHeader] } := by
  have inTypes : ∀ name ∈ p.unions.map p.unionFor, name ∈ p.typeNames :=
    fun _ => List.mem_append_right _
  have capitals : ∀ name ∈ p.unions.map p.unionFor, IsCapital name := fun name inside =>
    planned.typeNames_capital name (inTypes name inside)
  have apart : "Converter" ∉ p.unions.map p.unionFor := fun inside =>
    planned.fresh _ (inTypes _ inside) (by decide)
  have blank : Outlined p.typeNames [""] {} := outlined_inner inner_blank
  cases h : p.unions with
  | nil => exact .inner (List.forall_mem_nil _)
  | cons u us =>
    rw [h] at capitals apart
    have filled : (u :: us).map p.unionFor ≠ [] := List.cons_ne_nil _ _
    have texts : [converterTexts ((u :: us).map p.unionFor)].flatMap ("" :: ·) =
        [""] ++ converterTexts ((u :: us).map p.unionFor) := by simp
    change Outlined _ ([converterTexts ((u :: us).map p.unionFor)].flatMap ("" :: ·)) _
    rw [texts]
    exact blank.append (converterTexts_outlined capitals apart filled)

theorem laterTexts_outlined (planned : Planned p) :
    Outlined p.typeNames ((laterTexts p).flatMap ("" :: ·)) {
      headers := (if p.unions.isEmpty then [] else [converterHeader]) ++
        p.graph.classes.map (recordHeader <| p.classFor ·) ++
        p.unions.map (structHeader <| p.unionFor ·)
      declared := (if p.unions.isEmpty then [] else ["Converter"]) ++ p.typeNames
      overridden := if p.unions.isEmpty then [] else
        [canConvertLine (p.unions.map p.unionFor), readHeader, writeHeader] } := by
  have blank : Outlined p.typeNames [""] {} := outlined_inner inner_blank
  have records := Outlined.flatMap fun c hc => blank.append (recordTexts_outlined planned hc)
  have unions := Outlined.flatMap fun u hu => blank.append (unionTexts_outlined planned hu)
  have all := ((conversion_outlined planned).append records).append unions
  rw [laterTexts, List.flatMap_append, List.flatMap_append, List.flatMap_map, List.flatMap_map]
  refine ⟨all.outline.trans ?_, all.types⟩
  simp [Outline.mk_append, typeNames]

/-- The outline of a whole source. -/
theorem sourceTexts_outlined (planned : Planned p) {s : Settings}
    (dotted : Settings.IsDotted s.namespaceName) :
    Outlined p.typeNames (sourceTexts p s) {
      headers := convertHeader :: ((if p.unions.isEmpty then [] else [converterHeader]) ++
        p.graph.classes.map (recordHeader <| p.classFor ·) ++
        p.unions.map (structHeader <| p.unionFor ·))
      declared := "Convert" :: ((if p.unions.isEmpty then [] else ["Converter"]) ++ p.typeNames)
      registered := if p.unions.isEmpty then [] else [registration]
      overridden := if p.unions.isEmpty then [] else
        [canConvertLine (p.unions.map p.unionFor), readHeader, writeHeader] } := by
  have head : Outlined p.typeNames (headTexts s) {} := .inner (headTexts_inner dotted)
  have closing : Outlined p.typeNames ["\x7d"] {} := outlined_inner inner_close
  have all :=
    ((head.append (entryTexts_outlined planned)).append (laterTexts_outlined planned)).append
      closing
  refine ⟨all.outline.trans ?_, all.types⟩
  simp [Outline.mk_append]

end Declarations

end Shapewright.Source
