import Shapewright.Proofs.Source.Erasure
import Shapewright.Proofs.Source.Members

/-!
# What may be null

Whether a type expression needs a mark for null is decided on its text. The decision is the one that
the shape asks for, since no name is a keyword. In the struct of a union every field may therefore
be set to null: its members are no unions, so no field is a struct, and no field is a value type
without its mark.
-/
namespace Shapewright.Source
open Identifier Layout Plan Dispatch TypeText Result
open Shape (nonNull)

/-- The mark for null stands where the shape asks for it and nowhere twice. -/
structure NullableAgrees (p : Plan) (s : Shape) (text : String) : Prop where
  marked : (valueType? s).isSome → p.nullableText s = .ok (text ++ "?")
  unmarked : valueType? s = none → p.nullableText s = .ok text
  once : ∀ shown, shown = text ∨ p.nullableText s = .ok shown → ¬ "??".toList <:+: shown.toList

section Types
variable {p : Plan} {e : Erased} {s : Shape} {text : String}

def questionMarks (text : String) : Nat := text.toList.count '?'

theorem questionMarks_append (a b : String) :
    questionMarks (a ++ b) = questionMarks a + questionMarks b := by
  rw [questionMarks, String.toList_append, List.count_append, questionMarks, questionMarks]

/-- What stands around a text without question marks of its own adds none. -/
theorem questionMarks_around {a c : String} (ha : questionMarks a = 0) (hc : questionMarks c = 0)
    (b : String) :
    questionMarks (a ++ b ++ c) = questionMarks b := by
  rw [questionMarks_append, questionMarks_append, ha, hc, Nat.zero_add, Nat.add_zero]

theorem questionMarks_valid {name : String} (valid : IsValid name) : questionMarks name = 0 :=
  List.count_eq_zero_of_not_mem (not_mem_of_isBreak valid (by decide))

theorem questionMarks_arrayOf (type : String) :
    questionMarks (arrayOf type) = questionMarks type := by
  have brackets : questionMarks "[]" = 0 := by decide
  rw [arrayOf, questionMarks_append, brackets, Nat.add_zero]

theorem questionMarks_dictionaryOf (type : String) :
    questionMarks (dictionaryOf type) = questionMarks type :=
  questionMarks_around (by decide) (by decide) type

theorem questionMarks_spell (named : TypesNamed p) (h : spell p e = .ok text) :
    questionMarks text ≤ 1 := by
  induction e generalizing text with
  | array items ih =>
    obtain ⟨inner, spelled, rfl⟩ := spell_array.mp h
    rw [questionMarks_arrayOf]
    exact ih spelled
  | map values ih =>
    obtain ⟨inner, spelled, rfl⟩ := spell_map.mp h
    rw [questionMarks_dictionaryOf]
    exact ih spelled
  | nullable v =>
    cases h
    cases v <;> decide
  | record ref => exact (questionMarks_valid (named.capital h).valid).le.trans (Nat.zero_le 1)
  | union members => exact (questionMarks_valid (named.capital h).valid).le.trans (Nat.zero_le 1)
  | object | string =>
    cases h
    decide
  | value v =>
    cases h
    cases v <;> decide

theorem not_doubled (h : questionMarks text ≤ 1) : ¬ "??".toList <:+: text.toList := by
  intro inside
  have two : 2 ≤ questionMarks text := inside.sublist.count_le '?'
  omega

theorem nullable_agrees (named : TypesNamed p) (h : p.typeText s = .ok text) :
    NullableAgrees p s text := by
  have spelled := (typeText_eq_spell named s).symm.trans h
  have nullable := nullableText_eq_spell named s
  refine ⟨fun marked => ?_, fun unmarked => ?_, ?_⟩
  · obtain ⟨v, value⟩ := Option.isSome_iff_exists.mp marked
    rw [erased_valueType value] at spelled
    cases spelled
    rw [nullable, erasedOrNull, value, Option.elim_some, spell]
  · rw [nullable, erasedOrNull, unmarked, Option.elim_none, spelled]
  · rintro shown (rfl | same)
    · exact not_doubled (questionMarks_spell named spelled)
    · exact not_doubled (questionMarks_spell named (nullable.symm.trans same))

/-- The type of a field is neither a value type nor, as its member is no union, a struct. -/
theorem nullableText_holdsNull (named : TypesNamed p) {type : String}
    (h : p.nullableText s = .ok type) (flat : s.isUnion = false) :
    type ∉ valueTypes ∧ ∀ members, p.unionName (.union members) ≠ .ok type := by
  rw [nullableText_eq_spell named] at h
  have notUnion : ∀ members, erasedOrNull s ≠ .union members := by
    intro members same
    cases s with
    | union => cases flat
    | _ => cases same
  refine ⟨fun inside => ?_, fun members union => ?_⟩
  · obtain ⟨v, word⟩ := mem_valueTypes.mp inside
    exact erasedOrNull_ne_value (fun _ => valueType_of_erased) v
      (spell_inj named h (congrArg Except.ok word))
  · exact notUnion members (spell_inj named h union)

end Types

section Reading
variable {type name text : String}

/-- The type and the name in the declaration of a field; the name is what stands behind the last
space. -/
def readField (text : String) : Option (String × String) := do
  let rest ← "public ".toList.isPrefixOf? text.toList
  let declared ← ";".toList.isSuffixOf? rest
  let name := declared.rtakeWhile (· ≠ ' ')
  let type ← (' ' :: name).isSuffixOf? declared
  return (String.ofList type, String.ofList name)

/-- The name that a line sets to null. -/
def readClear (text : String) : Option String := do
  let name ← " = null;".toList.isSuffixOf? text.toList
  return String.ofList name

theorem readField_fieldLine (noSpace : ' ' ∉ name.toList) :
    readField (fieldLine type name) = some (type, name) := by
  have front : "public ".toList.isPrefixOf? (fieldLine type name).toList =
      some (type.toList ++ ' ' :: name.toList ++ ";".toList) := by
    have space : " ".toList = [' '] := rfl
    rw [List.isPrefixOf?_eq_some_iff_append_eq,
      show fieldLine type name = _ from append_five _ _ _ _ _]
    simp only [String.toList_append, space, List.append_assoc, List.cons_append, List.nil_append]
  have back : ";".toList.isSuffixOf? (type.toList ++ ' ' :: name.toList ++ ";".toList) =
      some (type.toList ++ ' ' :: name.toList) := by
    rw [List.isSuffixOf?_eq_some_iff_append_eq]
  have last := rtakeWhile_space type.toList noSpace
  have split : (' ' :: name.toList).isSuffixOf? (type.toList ++ ' ' :: name.toList) =
      some type.toList := by
    rw [List.isSuffixOf?_eq_some_iff_append_eq]
  simp only [readField, front, back, last, split, Option.bind_eq_bind, Option.bind_some,
    Option.pure_def, String.ofList_toList]

/-- Nothing else is read as the declaration of a field. -/
theorem readField_exact (h : readField text = some (type, name)) : fieldLine type name = text := by
  obtain ⟨rest, front, h⟩ := Option.bind_eq_some_iff.mp h
  obtain ⟨declared, back, h⟩ := Option.bind_eq_some_iff.mp h
  obtain ⟨before, split, h⟩ := Option.bind_eq_some_iff.mp h
  obtain ⟨rfl, rfl⟩ := Prod.mk.inj (Option.some.inj h)
  rw [List.isPrefixOf?_eq_some_iff_append_eq] at front
  rw [List.isSuffixOf?_eq_some_iff_append_eq] at back split
  have space : " ".toList = [' '] := rfl
  refine String.toList_injective ?_
  calc (fieldLine (String.ofList before) (String.ofList _)).toList
      = "public ".toList ++ ((before ++ ' ' :: declared.rtakeWhile (· ≠ ' ')) ++ ";".toList) := by
        simp only [fieldLine, String.toList_append, String.toList_ofList, space, List.append_assoc,
          List.cons_append, List.nil_append]
    _ = "public ".toList ++ rest := by rw [split, back]
    _ = text.toList := front

theorem readClear_clearLine (name : String) : readClear (clearLine name) = some name := by
  have back : " = null;".toList.isSuffixOf? (clearLine name).toList = some name.toList := by
    rw [List.isSuffixOf?_eq_some_iff_append_eq, clearLine, String.toList_append]
  simp only [readClear, back, Option.bind_eq_bind, Option.bind_some, Option.pure_def,
    String.ofList_toList]

theorem readClear_exact (h : readClear text = some name) : clearLine name = text := by
  obtain ⟨front, back, h⟩ := Option.bind_eq_some_iff.mp h
  cases h
  rw [List.isSuffixOf?_eq_some_iff_append_eq] at back
  refine String.toList_injective ?_
  rw [clearLine, String.toList_append, String.toList_ofList, back]

theorem readField_of_last {c : Char} (last : lastOf text = some c) (other : c ≠ ';') :
    readField text = none := by
  cases read : readField text with
  | none => rfl
  | some field =>
    rw [← readField_exact read, lastOf_fieldLine] at last
    exact absurd (Option.some.inj last).symm other

theorem readField_of_words {w : String} {ws : List String} (h : words text = w :: ws)
    (other : w ≠ "public") :
    readField text = none := by
  cases read : readField text with
  | none => rfl
  | some field =>
    obtain ⟨more, front⟩ := words_fieldLine_front field.1 field.2
    rw [← readField_exact read, front] at h
    exact absurd (List.cons.inj h).1.symm other

theorem readClear_of_last {c : Char} (last : lastOf text = some c) (other : c ≠ ';') :
    readClear text = none := by
  cases read : readClear text with
  | none => rfl
  | some name =>
    have clear : lastOf (clearLine name) = some ';' := lastOf_append (by decide)
    rw [← readClear_exact read, clear] at last
    exact absurd (Option.some.inj last).symm other

theorem readClear_of_beforeLast {c : Char} (h : beforeLast text = some c) (other : c ≠ 'l') :
    readClear text = none := by
  cases read : readClear text with
  | none => rfl
  | some name =>
    have clear : beforeLast (clearLine name) = some 'l' := beforeLast_of_append (by decide)
    rw [← readClear_exact read, clear] at h
    exact absurd (Option.some.inj h).symm other

/-- Lines that are read one by one give back what they were written for. -/
theorem filterMap_lines {α β : Type} {as : List α} {line : α → String} {read : String → Option β}
    {value : α → β} (each : ∀ a ∈ as, read (line a) = some (value a)) :
    (as.map line).filterMap read = as.map value := by
  induction as with
  | nil => rfl
  | cons a as ih =>
    obtain ⟨here, others⟩ := List.forall_mem_cons.mp each
    rw [List.map_cons, List.filterMap_cons_some here, ih others, List.map_cons]

end Reading

section Struct
variable {p : Plan} {u : Shape}

/-- A field of a generated struct, with the member that it stands for. -/
structure Field where
  member : Shape
  type : String
  name : String

/-- The fields stand for the members in their order, each once. They are what the struct declares
and what its constructor sets to null, and null can be assigned to all of them. -/
structure FieldsHoldNull (p : Plan) (u : Shape) (fields : List Field)
    (body constructor : List String) : Prop where
  members : fields.map (·.member) = nonNull (membersOf u)
  once : (fields.map (·.member)).Nodup
  types : ∀ f ∈ fields, p.nullableText f.member = .ok f.type
  names : ∀ f ∈ fields, p.fieldName u f.member = .ok f.name
  apart : (fields.map (·.name)).Nodup
  declared : body.filterMap readField = fields.map fun f => (f.type, f.name)
  cleared : constructor.filterMap readClear = fields.map (·.name)
  holdNull : ∀ f ∈ fields, f.type ∉ valueTypes ∧
    ∀ members, p.unionName (.union members) ≠ .ok f.type

/-- The lines inside the constructor of a struct. -/
def constructorTexts (p : Plan) (u : Shape) : List String :=
  (nonNull (membersOf u)).map (fun m => clearLine (p.fieldFor u m)) ++
    ["", "switch (reader.TokenType)", "\x7b"] ++ (table (membersOf u)).flatMap (caseTexts p u) ++
    ["\x7d", refusalLine (p.unionFor u)]

theorem structTexts_eq (p : Plan) (u : Shape) :
    structTexts p u =
      (nonNull (membersOf u)).map (fun m => fieldLine (nullable (p.typeFor m)) (p.fieldFor u m)) ++
        ["", constructorHeader (p.unionFor u), "\x7b"] ++ constructorTexts p u ++ ["\x7d"] := by
  simp only [structTexts, frontTexts, backTexts, constructorTexts, List.append_assoc,
    List.cons_append, List.nil_append]

/-- What holds of labels, of returns and of assignments to fields holds of every line of the
cases. -/
theorem forall_caseTexts {P : String → Prop} (labels : ∀ t, P (caseLabel t)) (returns : P "return;")
    (assigns : ∀ m ∈ nonNull (membersOf u), P (assignLine (p.fieldFor u m) (p.typeFor m))) :
    ∀ text ∈ (table (membersOf u)).flatMap (caseTexts p u), P text := by
  intro text inside
  obtain ⟨c, hc, inside⟩ := List.mem_flatMap.mp inside
  rcases List.mem_append.mp inside with inside | inside
  · obtain ⟨t, -, rfl⟩ := List.mem_map.mp inside
    exact labels t
  · cases member : c.member with
    | none =>
      rw [member] at inside
      obtain rfl := List.mem_singleton.mp inside
      exact returns
    | some m =>
      rw [member] at inside
      rcases List.mem_cons.mp inside with rfl | inside
      · exact assigns m (member_of_mem_table hc member)
      · obtain rfl := List.mem_singleton.mp inside
        exact returns

/-- The constructor sets the fields to null, one after another and nothing else. -/
theorem readClear_constructorTexts (p : Plan) (u : Shape) :
    (constructorTexts p u).filterMap readClear = (nonNull (membersOf u)).map (p.fieldFor u) := by
  have clears : ((nonNull (membersOf u)).map fun m => clearLine (p.fieldFor u m)).filterMap
      readClear =
      (nonNull (membersOf u)).map (p.fieldFor u) :=
    filterMap_lines fun m _ => readClear_clearLine (p.fieldFor u m)
  have opening : ["", "switch (reader.TokenType)", "\x7b"].filterMap readClear = [] := rfl
  have cases : ((table (membersOf u)).flatMap (caseTexts p u)).filterMap readClear = [] := by
    refine List.filterMap_eq_nil_iff.mpr (forall_caseTexts (fun t => ?_) rfl fun m _ => ?_)
    · exact readClear_of_last (c := ':') (lastOf_append (by decide)) (by decide)
    · exact readClear_of_beforeLast (beforeLast_assignLine _ _) (by decide)
  have refusal : readClear (refusalLine (p.unionFor u)) = none :=
    readClear_of_beforeLast (c := ')') (beforeLast_of_append (by decide)) (by decide)
  have closing : ["\x7d", refusalLine (p.unionFor u)].filterMap readClear = [] := by
    rw [List.filterMap_cons_none rfl, List.filterMap_cons_none refusal, List.filterMap_nil]
  simp only [constructorTexts, List.filterMap_append, clears, opening, cases, closing,
    List.append_nil]

section Capital
variable (capital : ∀ m ∈ nonNull (membersOf u), IsCapital (p.fieldFor u m))
include capital

theorem readField_constructorTexts : (constructorTexts p u).filterMap readField = [] := by
  have notPublic : ∀ m ∈ nonNull (membersOf u), p.fieldFor u m ≠ "public" := fun m hm =>
    capital_ne (capital m hm) (by decide)
  have cases : ∀ text ∈ (table (membersOf u)).flatMap (caseTexts p u), readField text = none := by
    refine forall_caseTexts (fun t => ?_) rfl fun m hm => ?_
    · exact readField_of_words (words_caseLabel t) (by decide)
    · obtain ⟨more, front⟩ := words_assignLine_front (p.typeFor m) (capital m hm).valid
      exact readField_of_words front (notPublic m hm)
  refine List.filterMap_eq_nil_iff.mpr fun text inside => ?_
  simp only [constructorTexts, List.mem_append, List.mem_map, List.mem_cons, List.not_mem_nil,
    or_false] at inside
  rcases inside with ((⟨m, hm, rfl⟩ | rfl | rfl | rfl) | inside) | rfl | rfl
  · exact readField_of_words (words_clearLine (capital m hm).valid) (notPublic m hm)
  · rfl
  · rfl
  · rfl
  · exact cases text inside
  · rfl
  · exact readField_of_words (words_refusalLine _) (by decide)

/-- The struct declares the fields, one after another and nothing else. -/
theorem readField_structTexts :
    (structTexts p u).filterMap readField =
      (nonNull (membersOf u)).map fun m => (nullable (p.typeFor m), p.fieldFor u m) := by
  have fields : ((nonNull (membersOf u)).map fun m =>
      fieldLine (nullable (p.typeFor m)) (p.fieldFor u m)).filterMap readField =
      (nonNull (membersOf u)).map fun m => (nullable (p.typeFor m), p.fieldFor u m) :=
    filterMap_lines fun m hm =>
      readField_fieldLine (not_mem_of_isBreak (capital m hm).valid (by decide))
  have header : readField (constructorHeader (p.unionFor u)) = none :=
    readField_of_last (c := ')') (lastOf_append (by decide)) (by decide)
  have opening : ["", constructorHeader (p.unionFor u), "\x7b"].filterMap readField = [] := by
    rw [List.filterMap_cons_none rfl, List.filterMap_cons_none header]
    rfl
  have closing : ["\x7d"].filterMap readField = [] := rfl
  simp only [structTexts_eq, List.filterMap_append, fields, opening,
    readField_constructorTexts capital, closing, List.append_nil]

end Capital

theorem member_flat {g : Graph} (wf : g.WellFormed) (hu : u ∈ g.unions) {m : Shape}
    (hm : m ∈ nonNull (membersOf u)) : m.isUnion = false := by
  obtain ⟨members, rfl⟩ := Graph.exists_members hu
  obtain ⟨-, -, flat, -⟩ := wf.canonical _ (Graph.mem_unions.mp hu).1
  simpa using List.all_eq_true.mp flat m (List.mem_filter.mp hm).1

/-- The fields of a struct as a plan has them. -/
def plannedFields (p : Plan) (u : Shape) : List Field :=
  (nonNull (membersOf u)).map fun m => ⟨m, nullable (p.typeFor m), p.fieldFor u m⟩

theorem plannedFields_holdNull {g : Graph} {forbidden : List String}
    (settled : Settled p g forbidden) (wf : g.WellFormed) (hu : u ∈ g.unions) :
    FieldsHoldNull p u (plannedFields p u) (structTexts p u) (constructorTexts p u) := by
  have complete := settled.complete wf
  have written : u ∈ p.unions := settled.unions ▸ hu
  have named : ∀ m ∈ nonNull (membersOf u), p.fieldName u m = .ok (p.fieldFor u m) := fun m hm =>
    complete.fieldName_eq written hm
  have typed : ∀ m ∈ nonNull (membersOf u), p.nullableText m = .ok (nullable (p.typeFor m)) := by
    intro m hm
    rw [nullableText, complete.memberType_eq written hm, ok_bind, pure_eq]
  have capital : ∀ m ∈ nonNull (membersOf u), IsCapital (p.fieldFor u m) := fun m hm =>
    (settled.allCapital wf).fieldName written (named m hm)
  have members : (plannedFields p u).map (·.member) = nonNull (membersOf u) := by
    simp [plannedFields, Function.comp_def]
  have names : (plannedFields p u).map (·.name) = (nonNull (membersOf u)).map (p.fieldFor u) := by
    simp [plannedFields, Function.comp_def]
  have once : (nonNull (membersOf u)).Nodup := (members_ordered wf hu).nodup.filter _
  refine {
    members
    once := members ▸ once
    types := fun f inside => ?_
    names := fun f inside => ?_
    apart := ?_
    declared := ?_
    cleared := (readClear_constructorTexts p u).trans names.symm
    holdNull := fun f inside => ?_ }
  · obtain ⟨m, hm, rfl⟩ := List.mem_map.mp inside
    exact typed m hm
  · obtain ⟨m, hm, rfl⟩ := List.mem_map.mp inside
    exact named m hm
  · rw [names]
    refine once.map_on fun m hm n hn same => ?_
    by_contra different
    exact (settled.fields_apart wf hu).apart m hm n hn different
      (by rw [named m hm, named n hn, same])
  · rw [readField_structTexts capital, plannedFields, List.map_map]
    rfl
  · obtain ⟨m, hm, rfl⟩ := List.mem_map.mp inside
    exact nullableText_holdsNull (typesNamed settled wf) (typed m hm) (member_flat wf hu hm)

theorem constructorPart_texts (p : Plan) (u : Shape) (level : Nat) :
    (allLines level ((nonNull (membersOf u)).map (clearPart p u) ++
      [.blank, switchPart p u, .line (refusalLine (p.unionFor u))])).map (·.text) =
      constructorTexts p u := by
  have clears : (allLines level ((nonNull (membersOf u)).map (clearPart p u))).map (·.text) =
      (nonNull (membersOf u)).map fun m => clearLine (p.fieldFor u m) :=
    map_text_lines level _ _
  have cases := cases_texts p u (table (membersOf u)) (level + 1)
  simp only [switchPart, constructorTexts, allLines_append, allLines, Op.linesAt, Option.toList,
    List.map_append, List.map_cons, List.map_nil, text_lineAt, clears, cases, List.append_assoc,
    List.cons_append, List.nil_append]

theorem constructorPart_block (p : Plan) (u : Shape) (level : Nat) :
    ∃ inner, IsBlock level (constructorHeader (p.unionFor u)) inner
      ((constructorPart p u).linesAt level) ∧
      inner.map (·.text) = constructorTexts p u := by
  have filled : (constructorHeader (p.unionFor u)).isEmpty = false := by simp [constructorHeader]
  exact ⟨_, linesAt_block filled level _, constructorPart_texts p u (level + 1)⟩

/-- The fields and the constructor of a struct. -/
theorem structBody_lines (p : Plan) (u : Shape) (level : Nat) :
    allLines level (structBody p u) =
      allLines level ((nonNull (membersOf u)).map (fieldPart p u)) ++
      lineAt level "" :: (constructorPart p u).linesAt level := by
  simp only [structBody, allLines_append, allLines, Op.linesAt, List.singleton_append,
    List.append_nil]

end Struct

/-- Under the names of the plan for an accepted document, whatever names are forbidden, null is
marked on exactly the value types. The struct of each generated union stands as a block whose fields
are its members but null, and the block of its constructor sets each of them to null. -/
theorem nullability_agrees {document : Json} {g : Graph}
    (accepted : Document.readGraph document = .ok g) (forbidden : List String) :
    ∃ p, ofGraph g forbidden = .ok p ∧
      (∀ s text, p.typeText s = .ok text → NullableAgrees p s text) ∧
      ∀ u ∈ g.unions, ∃ name ops fields declared body constructor inner, p.unionName u = .ok name ∧
        unionOps p u = .ok ops ∧ IsBlock 0 (structHeader name) body (linesOf ops) ∧
        body = declared ++ lineAt 1 "" :: constructor ∧
        IsBlock 1 (constructorHeader name) inner constructor ∧
        FieldsHoldNull p u fields (body.map (·.text)) (inner.map (·.text)) := by
  have wf := Document.readGraph_wellFormed accepted
  obtain ⟨p, planned, settled⟩ := ofGraph_ok wf forbidden
  have complete := settled.complete wf
  refine ⟨p, planned, fun s text typed => nullable_agrees (typesNamed settled wf) typed,
    fun u hu => ?_⟩
  have written : u ∈ p.unions := settled.unions ▸ hu
  obtain ⟨inner, block, texts⟩ := constructorPart_block p u 1
  have lines : linesOf (structPart p u) = allLines 0 (structPart p u) :=
    linesOf_calm (structPart_calm p u)
  refine ⟨_, _, plannedFields p u, _, _, _, inner, complete.unionName_eq written,
    unionOps_eq complete written, lines ▸ structPart_block p u, structBody_lines p u 1, block, ?_⟩
  rw [texts, structBody_texts]
  exact plannedFields_holdNull settled wf hu

theorem sample_nullability :
    Document.sampleUnion ∈ Document.sampleGraph.unions ∧ ∃ p fields body constructor,
      ofGraph Document.sampleGraph ["Pet"] = .ok p ∧ p.typeText .double = .ok "double" ∧
      NullableAgrees p .double "double" ∧
      FieldsHoldNull p Document.sampleUnion fields body constructor := by
  have generated : Document.sampleUnion ∈ Document.sampleGraph.unions := by decide
  obtain ⟨p, planned, types, structs⟩ := nullability_agrees Document.readGraph_sample ["Pet"]
  obtain ⟨_, _, fields, _, _, _, _, -, -, -, -, -, holdNull⟩ := structs _ generated
  exact ⟨generated, p, fields, _, _, planned, rfl, types .double "double" rfl, holdNull⟩

end Shapewright.Source
