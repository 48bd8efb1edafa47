import Shapewright.Proofs.Source.Outline

/-!
# The source is complete and closed

Classes, structs, the registration of the converter, its checks and its branches are all written
from the same plan: the source declares every type that it needs, once and in order, and no type
expression in it names anything else.
-/
namespace Shapewright.Source
open Identifier Layout Plan Dispatch TypeText
open Shape (nonNull)

variable {p : Plan}

/-- The lines of the source that are written around a type expression. -/
def typedTexts (p : Plan) : List String :=
  entryLine (p.typeFor p.graph.topLevel) ::
    (p.graph.classes.flatMap fun c => c.properties.map fun e =>
      propertyLine (p.typeFor e.2) (p.propertyFor c e.1)) ++
    p.unions.flatMap fun u =>
      (nonNull (membersOf u)).map (fun m => fieldLine (nullable (p.typeFor m)) (p.fieldFor u m)) ++
        (table (membersOf u)).flatMap fun c => c.member.toList.map fun m =>
          assignLine (p.fieldFor u m) (p.typeFor m)

/-- What the lines declare is what the plan has, and it is all that their type expressions name. -/
structure ClosedSource (p : Plan) (texts : List String) : Prop where
  headers : texts.filter declares =
    convertHeader :: ((if p.unions.isEmpty then [] else [converterHeader]) ++
      p.graph.classes.map (recordHeader <| p.classFor ·) ++
      p.unions.map (structHeader <| p.unionFor ·))
  declared : texts.flatMap declaredIn =
    "Convert" :: ((if p.unions.isEmpty then [] else ["Converter"]) ++
      (p.graph.classes.map p.classFor ++ p.unions.map p.unionFor))
  once : (texts.flatMap declaredIn).Nodup
  settings : settingsTexts p <:+: texts
  registered : texts.filter makesConverter = if p.unions.isEmpty then [] else [registration]
  overridden : texts.filter overrides = if p.unions.isEmpty then [] else
    [canConvertLine (p.unions.map p.unionFor), readHeader, writeHeader]
  checks : following "typeof" (words (canConvertLine (p.unions.map p.unionFor))) =
    p.unions.map p.unionFor
  reading : p.unions ≠ [] → readTexts (p.unions.map p.unionFor) <:+: texts
  tested : (readTexts (p.unions.map p.unionFor)).flatMap (following "typeof" <| words ·) =
    p.unions.map p.unionFor
  built : (readTexts (p.unions.map p.unionFor)).flatMap (following "new" <| words ·) =
    p.unions.map p.unionFor ++ ["Exception"]
  typed : typedTexts p ⊆ texts
  closed : ∀ text ∈ texts, ∀ type, UsesType text type → ∀ w ∈ words type,
    w ∈ builtinTypes ∨ (texts.flatMap declaredIn).count w = 1

section Branches
variable {names : List String} {name : String}

theorem following_checks (capitals : ∀ name ∈ names, IsCapital name) :
    following "typeof" (names.flatMap fun name => ["t", "typeof", name]) = names := by
  induction names with
  | nil => rfl
  | cons name names ih =>
    obtain ⟨here, others⟩ := List.forall_mem_cons.mp capitals
    have apart : name ≠ "typeof" := capital_ne here (by decide)
    rw [List.flatMap_cons, List.cons_append, List.cons_append, List.singleton_append,
      following_cons (by decide), following_keyword, following_cons apart, ih others]

theorem following_canConvertLine (capitals : ∀ name ∈ names, IsCapital name) :
    following "typeof" (words (canConvertLine names)) = names := by
  have valid : ∀ name ∈ names, IsValid name := fun name inside => (capitals name inside).usable.1
  rw [words_canConvertLine valid]
  simp only [List.cons_append, List.nil_append]
  iterate 6 rw [following_cons (by decide)]
  exact following_checks capitals

theorem following_checkLine (capital : IsCapital name) :
    following "typeof" (words (checkLine name)) = [name] ∧
      following "new" (words (checkLine name)) = [] := by
  rw [words_checkLine capital.usable.1]
  simp [following]

theorem following_buildLine (capital : IsCapital name) :
    following "typeof" (words (buildLine name)) = [] ∧
      following "new" (words (buildLine name)) = [name] := by
  have other := capital_apart capital
  have apart : name ≠ "typeof" := capital_ne capital (by decide)
  rw [words_buildLine capital.usable.1]
  simp [following, other, apart]

theorem branches_collect {f : String → List String}
    (branch : ∀ name ∈ names, f (checkLine name) ++ f (buildLine name) = [name]) :
    (names.flatMap fun name => [checkLine name, buildLine name]).flatMap f = names := by
  induction names with
  | nil => rfl
  | cons name names ih =>
    obtain ⟨here, others⟩ := List.forall_mem_cons.mp branch
    have one : [checkLine name, buildLine name].flatMap f = [name] := by
      simpa using here
    rw [List.flatMap_cons, List.flatMap_append, one, ih others, List.singleton_append]

/-- What follows a keyword in the reader, if every branch has one name behind it. -/
theorem following_readTexts {keyword : String} (branch : ∀ name ∈ names,
      following keyword (words (checkLine name)) ++ following keyword (words (buildLine name)) =
        [name]) :
    (readTexts names).flatMap (following keyword <| words ·) =
      following keyword (words readHeader) ++ names ++ following keyword ["throw", "new",
        "Exception"] := by
  have opening : words "\x7b" = [] := words_ascii rfl
  have closing : words "\x7d" = [] := words_ascii rfl
  have refusal : words "throw new Exception(\"Unknown type\");" = ["throw", "new", "Exception"] :=
    (words_ascii rfl).trans rfl
  have branches := branches_collect (f := fun text => following keyword (words text)) branch
  have nothing : following keyword [] = [] := rfl
  simp only [readTexts, List.flatMap_append, List.flatMap_cons, List.flatMap_nil, opening, closing,
    refusal, branches, nothing, List.append_nil]

/-- The reader tests for each name once, and for nothing else. -/
theorem tested_readTexts (capitals : ∀ name ∈ names, IsCapital name) :
    (readTexts names).flatMap (following "typeof" <| words ·) = names := by
  have branch : ∀ name ∈ names,
      following "typeof" (words (checkLine name)) ++ following "typeof" (words (buildLine name)) =
        [name] := by
    intro name inside
    rw [(following_checkLine (capitals name inside)).1,
      (following_buildLine (capitals name inside)).1, List.append_nil]
  rw [following_readTexts branch, words_readHeader]
  simp [following]

/-- The reader builds a value of each name once, and otherwise refuses. -/
theorem built_readTexts (capitals : ∀ name ∈ names, IsCapital name) :
    (readTexts names).flatMap (following "new" <| words ·) = names ++ ["Exception"] := by
  have branch : ∀ name ∈ names,
      following "new" (words (checkLine name)) ++ following "new" (words (buildLine name)) =
        [name] := by
    intro name inside
    rw [(following_checkLine (capitals name inside)).2,
      (following_buildLine (capitals name inside)).2, List.nil_append]
  rw [following_readTexts branch, words_readHeader]
  simp [following]

end Branches

section Source
variable {s : Settings} {text : String} {part : List String}

theorem mem_sourceTexts_of_part (hp : part ∈ laterTexts p) (ht : text ∈ part) :
    text ∈ sourceTexts p s := by
  have inside : text ∈ (laterTexts p).flatMap ("" :: ·) :=
    List.mem_flatMap.mpr ⟨part, hp, List.mem_cons_of_mem _ ht⟩
  simp only [sourceTexts, List.mem_append]
  exact .inl (.inr inside)

/-- Each declaration stands as a whole in the source. -/
theorem part_stands (hp : part ∈ laterTexts p) : part <:+: sourceTexts p s := by
  obtain ⟨before, after, split⟩ := List.append_of_mem hp
  refine ⟨headTexts s ++ entryTexts p ++ before.flatMap ("" :: ·) ++ [""],
    after.flatMap ("" :: ·) ++ ["\x7d"], ?_⟩
  rw [sourceTexts, split]
  simp

theorem settings_stand (p : Plan) (s : Settings) : settingsTexts p <:+: sourceTexts p s := by
  refine ⟨headTexts s ++ [convertHeader, "\x7b", entryLine (p.typeFor p.graph.topLevel), ""],
    ["\x7d"] ++ (laterTexts p).flatMap ("" :: ·) ++ ["\x7d"], ?_⟩
  simp [sourceTexts, entryTexts]

theorem reading_stands (filled : p.unions ≠ []) (s : Settings) :
    readTexts (p.unions.map p.unionFor) <:+: sourceTexts p s := by
  have written : converterTexts (p.unions.map p.unionFor) ∈ laterTexts p := by
    simp [laterTexts, filled]
  have inside : readTexts (p.unions.map p.unionFor) <:+: converterTexts (p.unions.map p.unionFor) :=
    ⟨_, _, rfl⟩
  exact inside.trans (part_stands written)

theorem typedTexts_subset (p : Plan) (s : Settings) : typedTexts p ⊆ sourceTexts p s := by
  intro text inside
  simp only [typedTexts, List.cons_append, List.mem_cons, List.mem_append, List.mem_flatMap,
    List.mem_map] at inside
  rcases inside with rfl | ⟨c, hc, e, he, rfl⟩ | ⟨u, hu, inside⟩
  · simp [sourceTexts, entryTexts]
  · have record : recordTexts p c ∈ laterTexts p := by
      simp only [laterTexts, List.mem_append]
      exact .inl (.inr (List.mem_map_of_mem hc))
    have written : propertyLine (p.typeFor e.2) (p.propertyFor c e.1) ∈ propertyTexts p c e :=
      List.mem_cons_of_mem _ List.mem_cons_self
    refine mem_sourceTexts_of_part record ?_
    simp only [recordTexts, List.mem_append]
    exact .inl (.inr (List.mem_flatMap.mpr ⟨e, he, written⟩))
  · have union : unionTexts p u ∈ laterTexts p := by
      simp only [laterTexts, List.mem_append]
      exact .inr (List.mem_map_of_mem hu)
    have struct : text ∈ structTexts p u := by
      rcases inside with ⟨m, hm, rfl⟩ | ⟨c, hc, m, hm, rfl⟩
      · simp only [structTexts, frontTexts, List.mem_append]
        exact .inl (.inl (.inl (.inl (.inl (List.mem_map.mpr ⟨m, hm, rfl⟩)))))
      · have arm : assignLine (p.fieldFor u m) (p.typeFor m) ∈ armTexts p u c.member := by
          rw [Option.mem_toList.mp hm]
          exact List.mem_cons_self
        have case : assignLine (p.fieldFor u m) (p.typeFor m) ∈ caseTexts p u c :=
          List.mem_append_right _ arm
        simp only [structTexts, List.mem_append]
        exact .inl (.inr (List.mem_flatMap.mpr ⟨c, hc, case⟩))
    refine mem_sourceTexts_of_part union ?_
    simp only [unionTexts, List.mem_append]
    exact .inl (.inr struct)

theorem declared_once (planned : Planned p) :
    ("Convert" :: ((if p.unions.isEmpty then [] else ["Converter"]) ++ p.typeNames)).Nodup := by
  have noConvert : "Convert" ∉ p.typeNames := fun inside => planned.fresh _ inside (by decide)
  have noConverter : "Converter" ∉ p.typeNames := fun inside => planned.fresh _ inside (by decide)
  cases p.unions.isEmpty <;> simp [planned.once, noConvert, noConverter]

theorem sourceTexts_closed (planned : Planned p) (dotted : Settings.IsDotted s.namespaceName) :
    ClosedSource p (sourceTexts p s) := by
  have outlined := sourceTexts_outlined planned dotted
  have outline := outlined.outline
  simp only [Source.outline, Outline.mk.injEq] at outline
  obtain ⟨headers, declared, registered, overridden⟩ := outline
  have capitals : ∀ name ∈ p.unions.map p.unionFor, IsCapital name := fun name inside =>
    planned.typeNames_capital name (List.mem_append_right _ inside)
  have once : ((sourceTexts p s).flatMap declaredIn).Nodup := by
    rw [declared]
    exact declared_once planned
  refine {
    headers, declared, once, registered, overridden
    settings := settings_stand p s
    checks := following_canConvertLine capitals
    reading := fun filled => reading_stands filled s
    tested := tested_readTexts capitals
    built := built_readTexts capitals
    typed := typedTexts_subset p s
    closed := fun text inside type uses w hw => ?_ }
  refine (outlined.types text inside type uses w hw).imp_right fun named => ?_
  refine List.count_eq_one_of_mem once ?_
  rw [declared]
  exact List.mem_cons_of_mem _ (List.mem_append_right _ named)

end Source

/-- The source of an accepted document under frozen settings declares the conversion, then every
class in order of declaration, then every generated union in order of its first occurrence, and is
closed under what it names. -/
theorem render_closed {document : Json} {g : Graph} {draft : Draft} {s : Settings}
    (accepted : Document.readGraph document = .ok g) (frozen : draft.freeze = .ok s) :
    ∃ p lines, planFor g s = .ok p ∧ p.graph = g ∧ g.UnionsInOrder p.unions ∧ Complete p ∧
      render g s = .ok (renderLines (indentUnit s) s.lineEnd.text lines) ∧
      ClosedSource p (lines.map (·.text)) := by
  have wf := Document.readGraph_wellFormed accepted
  obtain ⟨p, planned, settled⟩ := planFor_settled wf s
  have known := settled.planned wf
  have listed : g.UnionsInOrder p.unions := settled.unions ▸ g.unions_inOrder
  have closed := sourceTexts_closed known (Settings.freeze_isDotted frozen)
  rw [← sourceLines_texts] at closed
  exact ⟨p, sourceLines p s, planned, settled.graph, listed, known.complete,
    render_lines planned known.complete, closed⟩

theorem sample_closed :
    ({} : Draft).freeze = .ok {} ∧ ∃ p lines, planFor Document.sampleGraph {} = .ok p ∧
      render Document.sampleGraph {} = .ok (renderLines (indentUnit {}) LineEnd.lf.text lines) ∧
      ClosedSource p (lines.map (·.text)) := by
  have frozen : ({} : Draft).freeze = .ok {} := by decide
  obtain ⟨p, lines, planned, -, -, -, rendered, closed⟩ :=
    render_closed Document.readGraph_sample frozen
  exact ⟨frozen, p, lines, planned, rendered, closed⟩

end Shapewright.Source
