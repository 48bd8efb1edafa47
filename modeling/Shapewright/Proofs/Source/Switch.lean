import Mathlib.Data.List.Count
import Shapewright.Proofs.Dispatch.Decoder
import Shapewright.Proofs.Source.Render

/-!
# The switch of a generated constructor

The constructor of a generated union switches on tokens exactly as the decoder of that union does: a
token has a label where the decoder has a case, and behind its label stands what the decoder does
with a value of that token.
-/
namespace Shapewright.Source
open Layout Plan Dispatch Result TypeText
open Shape (nonNull)

variable {p : Plan} {u : Shape} {d : Decoder} {t : Token}

/-- Whether a line of the source is a case label. -/
def isLabel (text : String) : Bool := Token.all.any (caseLabel · = text)

/-- The lines behind the label of a token and the labels that follow it. -/
def behindLabel (t : Token) (texts : List String) : List String :=
  (texts.dropWhile (· ≠ caseLabel t)).dropWhile isLabel

theorem mem_all (t : Token) : t ∈ Token.all := by
  cases t <;> decide

theorem isLabel_caseLabel (t : Token) : isLabel (caseLabel t) :=
  List.any_eq_true.mpr ⟨t, mem_all t, decide_eq_true rfl⟩

theorem caseLabel_inj {s t : Token} (h : caseLabel s = caseLabel t) : s = t := by
  have all : ∀ s ∈ Token.all, ∀ t ∈ Token.all, caseLabel s = caseLabel t → s = t := by decide
  exact all s (mem_all s) t (mem_all t) h

/-- Labels are the only lines that end in a colon. -/
theorem isLabel_append {start : String} (stop : String) (c : Char)
    (last : stop.toList.getLast? = some c) (notColon : c ≠ ':') :
    isLabel (start ++ stop) = false := by
  have colon : ∀ t ∈ Token.all, (caseLabel t).toList.getLast? = some ':' := by decide
  refine List.any_eq_false.mpr fun t ht same => notColon ?_
  have ends := colon t ht
  rw [of_decide_eq_true same, String.toList_append, List.getLast?_append, last, Option.some_or]
    at ends
  exact Option.some.inj ends

theorem ne_caseLabel {text : String} (h : isLabel text = false) (t : Token) :
    text ≠ caseLabel t := by
  rintro rfl
  rw [isLabel_caseLabel] at h
  cases h

def armTexts (p : Plan) (u : Shape) : Option Shape → List String
  | none => ["return;"]
  | some m => [assignLine (p.fieldFor u m) (p.typeFor m), "return;"]

def caseTexts (p : Plan) (u : Shape) (c : Case) : List String :=
  c.tokens.map caseLabel ++ armTexts p u c.member

/-- What stands in the struct of a union before the cases of its switch. -/
def frontTexts (p : Plan) (u : Shape) : List String :=
  (nonNull (membersOf u)).map (fun m => fieldLine (nullable (p.typeFor m)) (p.fieldFor u m)) ++
    ["", constructorHeader (p.unionFor u), "\x7b"] ++
    (nonNull (membersOf u)).map (fun m => clearLine (p.fieldFor u m)) ++
    ["", "switch (reader.TokenType)", "\x7b"]

def backTexts (p : Plan) (u : Shape) : List String := ["\x7d", refusalLine (p.unionFor u), "\x7d"]

theorem casePart_texts (p : Plan) (u : Shape) (c : Case) (level : Nat) :
    (allLines level (casePart p u c)).map (·.text) = caseTexts p u c := by
  obtain ⟨tokens, member⟩ := c
  rw [casePart, allLines_append, List.map_append, map_text_lines, caseTexts]
  cases member <;> simp [armPart, armTexts, allLines, Op.linesAt]

theorem cases_texts (p : Plan) (u : Shape) (cases : List Case) (level : Nat) :
    (allLines level (cases.flatMap (casePart p u))).map (·.text) =
      cases.flatMap (caseTexts p u) := by
  induction cases with
  | nil => rfl
  | cons c cases ih =>
    rw [List.flatMap_cons, allLines_append, List.map_append, casePart_texts, ih, List.flatMap_cons]

theorem structBody_texts (p : Plan) (u : Shape) (level : Nat) :
    (allLines level (structBody p u)).map (·.text) =
      frontTexts p u ++ (table (membersOf u)).flatMap (caseTexts p u) ++ backTexts p u := by
  have fields : (allLines level ((nonNull (membersOf u)).map (fieldPart p u))).map (·.text) =
      (nonNull (membersOf u)).map fun m => fieldLine (nullable (p.typeFor m)) (p.fieldFor u m) :=
    map_text_lines level _ _
  have clears : (allLines (level + 1) ((nonNull (membersOf u)).map (clearPart p u))).map (·.text) =
      (nonNull (membersOf u)).map fun m => clearLine (p.fieldFor u m) :=
    map_text_lines (level + 1) _ _
  have cases := cases_texts p u (table (membersOf u)) (level + 1 + 1)
  simp only [structBody, constructorPart, switchPart, frontTexts, backTexts, allLines_append,
    allLines, Op.linesAt, Option.toList, List.map_append, List.map_cons, List.map_nil, text_lineAt,
    fields, clears, cases, List.append_assoc, List.cons_append, List.nil_append, List.append_nil]

theorem armTexts_not_label (p : Plan) (u : Shape) (member : Option Shape) :
    ∀ text ∈ armTexts p u member, isLabel text = false := by
  have returns : isLabel "return;" = false := by decide
  cases member with
  | none => simpa [armTexts] using returns
  | some m =>
    have assigns : isLabel (assignLine (p.fieldFor u m) (p.typeFor m)) = false :=
      isLabel_append ">(reader);" ';' (by decide) (by decide)
    simpa [armTexts] using ⟨assigns, returns⟩

theorem frontTexts_not_label (p : Plan) (u : Shape) :
    ∀ text ∈ frontTexts p u, isLabel text = false := by
  intro text h
  simp only [frontTexts, List.mem_append, List.mem_map, List.mem_cons, List.not_mem_nil, or_false]
    at h
  rcases h with ((⟨m, -, rfl⟩ | rfl | rfl | rfl) | ⟨m, -, rfl⟩) | rfl | rfl | rfl
  · exact isLabel_append ";" ';' (by decide) (by decide)
  · decide
  · exact isLabel_append "(JsonReader reader, JsonSerializer serializer)" ')'
      (by decide) (by decide)
  · decide
  · exact isLabel_append " = null;" ';' (by decide) (by decide)
  · decide
  · decide
  · decide

theorem backTexts_not_label (p : Plan) (u : Shape) :
    ∀ text ∈ backTexts p u, isLabel text = false := by
  intro text h
  simp only [backTexts, List.mem_cons, List.not_mem_nil, or_false] at h
  rcases h with rfl | rfl | rfl
  · decide
  · exact isLabel_append ");" ';' (by decide) (by decide)
  · decide

/-- All lines of the body of a struct. -/
def structTexts (p : Plan) (u : Shape) : List String :=
  frontTexts p u ++ (table (membersOf u)).flatMap (caseTexts p u) ++ backTexts p u

theorem count_of_not_label {texts : List String} (h : ∀ text ∈ texts, isLabel text = false)
    (t : Token) :
    texts.count (caseLabel t) = 0 :=
  List.count_eq_zero_of_not_mem fun here => ne_caseLabel (h _ here) t rfl

theorem count_cases (p : Plan) (u : Shape) (cases : List Case) (t : Token) :
    (cases.flatMap (caseTexts p u)).count (caseLabel t) = (listed cases).count t := by
  induction cases with
  | nil => rfl
  | cons c cases ih =>
    rw [List.flatMap_cons, List.count_append, ih, caseTexts, List.count_append,
      List.count_map_of_injective _ _ fun _ _ => caseLabel_inj,
      count_of_not_label (armTexts_not_label p u c.member), listed_cons, List.count_append,
      Nat.add_zero]

/-- The struct has as many labels of a token as the table has cases for it. -/
theorem count_structTexts (p : Plan) (u : Shape) (t : Token) :
    (structTexts p u).count (caseLabel t) = (listed (table (membersOf u))).count t := by
  rw [structTexts, List.count_append, List.count_append, count_cases,
    count_of_not_label (frontTexts_not_label p u), count_of_not_label (backTexts_not_label p u),
    Nat.zero_add, Nat.add_zero]

theorem dropWhile_arm (p : Plan) (u : Shape) (member : Option Shape) (more : List String) :
    (armTexts p u member ++ more).dropWhile isLabel = armTexts p u member ++ more := by
  have notLabel := armTexts_not_label p u member
  cases member <;> exact List.dropWhile_cons_of_neg (by simp [notLabel _ List.mem_cons_self])

theorem labels_ne {tokens : List Token} (absent : t ∉ tokens) :
    ∀ text ∈ tokens.map caseLabel, text ≠ caseLabel t := by
  intro text h same
  obtain ⟨s, hs, rfl⟩ := List.mem_map.mp h
  exact absent (caseLabel_inj same ▸ hs)

theorem caseTexts_ne {c : Case} (absent : t ∉ c.tokens) :
    ∀ text ∈ caseTexts p u c, text ≠ caseLabel t := by
  intro text h
  rcases List.mem_append.mp h with h | h
  · exact labels_ne absent text h
  · exact ne_caseLabel (armTexts_not_label p u c.member text h) t

theorem behindLabel_append {texts : List String} (h : ∀ text ∈ texts, text ≠ caseLabel t)
    (more : List String) : behindLabel t (texts ++ more) = behindLabel t more := by
  rw [behindLabel, List.dropWhile_append_of_pos fun text hx => decide_eq_true (h text hx),
    behindLabel]

/-- The labels from that of the token on are skipped, the arm is not. -/
theorem behindLabel_arm (p : Plan) (u : Shape) (member : Option Shape) (after : List Token)
    (more : List String) :
    behindLabel t ((t :: after).map caseLabel ++ (armTexts p u member ++ more)) =
      armTexts p u member ++ more := by
  have labels : ∀ text ∈ (t :: after).map caseLabel, isLabel text := by
    intro text h
    obtain ⟨s, -, rfl⟩ := List.mem_map.mp h
    exact isLabel_caseLabel s
  rw [behindLabel, List.map_cons, List.cons_append, List.dropWhile_cons_of_neg (by simp),
    ← List.cons_append, ← List.map_cons, List.dropWhile_append_of_pos labels, dropWhile_arm]

/-- Behind the label of a token stands the arm of its case. -/
theorem behindLabel_cases {cases : List Case} (nodup : (listed cases).Nodup) {c : Case}
    (hc : c ∈ cases) (ht : t ∈ c.tokens) (back : List String) :
    ∃ more, behindLabel t (cases.flatMap (caseTexts p u) ++ back) =
      armTexts p u c.member ++ more := by
  induction cases with
  | nil => cases hc
  | cons e cases ih =>
    rw [List.flatMap_cons, List.append_assoc]
    by_cases here : t ∈ e.tokens
    · obtain rfl := case_unique nodup hc List.mem_cons_self ht here
      obtain ⟨before, after, split, first⟩ := List.eq_append_cons_of_mem ht
      refine ⟨cases.flatMap (caseTexts p u) ++ back, ?_⟩
      rw [caseTexts, split, List.map_append, List.append_assoc, List.append_assoc,
        behindLabel_append (labels_ne first), behindLabel_arm]
    · have later : c ∈ cases := (List.mem_cons.mp hc).resolve_left fun same => here (same ▸ ht)
      rw [behindLabel_append (caseTexts_ne here)]
      exact ih (List.nodup_append.mp nodup).2.1 later

theorem behindLabel_structTexts {c : Case} (hc : c ∈ table (membersOf u)) (ht : t ∈ c.tokens) :
    ∃ more, behindLabel t (structTexts p u) = armTexts p u c.member ++ more := by
  have front : ∀ text ∈ frontTexts p u, text ≠ caseLabel t := fun text h =>
    ne_caseLabel (frontTexts_not_label p u text h) t
  rw [structTexts, List.append_assoc, behindLabel_append front]
  exact behindLabel_cases (listed_nodup (membersOf u)) hc ht (backTexts p u)

/-- A switch does with a token what a decoder does with every value of that token. Where the token
has no label, the decoder refuses the value. Behind the label stands a bare return where the decoder
reads null, and the filling of the field in which the decoder stores the value otherwise. -/
structure SwitchAgrees (p : Plan) (u : Shape) (d : Decoder) (texts : List String) (t : Token) :
    Prop where
  once : texts.count (caseLabel t) ≤ 1
  labelled : caseLabel t ∈ texts ↔ (caseFor? d.cases t).isSome
  refuses : caseFor? d.cases t = none →
    ∀ v, Token.of v = t → d.decode v = .error (.unconvertible d.name)
  returns : ∀ tokens, caseFor? d.cases t = some ⟨tokens, none⟩ →
    ["return;"] <+: behindLabel t texts ∧
      ∀ v, Token.of v = t → d.decode v = .ok ⟨d.name, none, .null⟩
  stores : ∀ tokens m, caseFor? d.cases t = some ⟨tokens, some m⟩ →
    ∃ field type, p.fieldName u m = .ok field ∧ p.typeText m = .ok type ∧
      [assignLine field type, "return;"] <+: behindLabel t texts ∧
      fieldLine (nullable type) field ∈ texts ∧
      ∀ v, Token.of v = t → Stores d field m v (d.decode v)

/-- Fields are declared before the constructor. -/
theorem fieldLine_declared {m : Shape} (h : m ∈ nonNull (membersOf u)) :
    fieldLine (nullable (p.typeFor m)) (p.fieldFor u m) ∈ structTexts p u := by
  refine List.mem_append_left _ (List.mem_append_left _ ?_)
  simp only [frontTexts, List.append_assoc]
  exact List.mem_append_left _ (List.mem_map.mpr ⟨m, h, rfl⟩)

theorem structTexts_agree (complete : Complete p) (hu : u ∈ p.unions)
    (new : Decoder.new p u = .ok d) (t : Token) : SwitchAgrees p u d (structTexts p u) t := by
  obtain ⟨rfl, rfl, -, cases⟩ := new_fields new
  have nodup := listed_nodup (membersOf d.union)
  refine ⟨?_, ?_, ?_, fun tokens found => ?_, fun tokens m found => ?_⟩
  · rw [count_structTexts]
    exact List.nodup_iff_count.mp nodup t
  · rw [cases, isSome_caseFor?, ← List.count_pos_iff, count_structTexts, List.count_pos_iff]
  · rintro found v rfl
    exact decode_no_case found
  · obtain ⟨hc, ht⟩ := (caseFor?_eq_some nodup).mp (cases ▸ found)
    obtain ⟨more, behind⟩ := behindLabel_structTexts (p := d.plan) hc ht
    refine ⟨⟨more, behind.symm⟩, ?_⟩
    rintro v rfl
    exact decode_null_case found
  · obtain ⟨hc, ht⟩ := (caseFor?_eq_some nodup).mp (cases ▸ found)
    obtain ⟨more, behind⟩ := behindLabel_structTexts (p := d.plan) hc ht
    have inside := complete.arms _ hu _ hc m rfl
    have named := complete.fieldName_eq hu inside
    have typed := complete.memberType_eq hu inside
    refine ⟨_, _, named, typed, ⟨more, behind.symm⟩, fieldLine_declared inside, ?_⟩
    rintro v rfl
    have admitted := (firstAdmitting_admits (first_of_case new found)).2
    exact decode_stores found admitted named

/-- The struct of each union stands as a whole in the source. -/
theorem sourceOps_split (hu : u ∈ p.unions) (s : Settings) (conversion : List (List Op)) :
    ∃ before after, allLines 0 (sourceOps p s conversion) =
      before ++ allLines 1 (structPart p u) ++ after :=
  sourceOps_stands (List.mem_append_right _ (List.mem_map_of_mem hu)) s

theorem structPart_block (p : Plan) (u : Shape) {level : Nat} :
    IsBlock level (structHeader (p.unionFor u)) (allLines (level + 1) (structBody p u))
      (allLines level (structPart p u)) := by
  have filled : (structHeader (p.unionFor u)).isEmpty = false := by simp [structHeader]
  rw [structPart, allLines, allLines, List.append_nil]
  exact linesAt_block filled level (structBody p u)

/-- In the source of an accepted document, the struct of each generated union stands as a block
under the name of the union, and its switch agrees with the decoder of that union on every token. -/
theorem render_switch_agrees {document : Json} {g : Graph}
    (accepted : Document.readGraph document = .ok g) (s : Settings) (hu : u ∈ g.unions) :
    ∃ p d before body block after, planFor g s = .ok p ∧ Decoder.new p u = .ok d ∧
      render g s = .ok (renderLines (indentUnit s) s.lineEnd.text (before ++ block ++ after)) ∧
      p.unionName u = .ok d.name ∧ IsBlock 1 (structHeader d.name) body block ∧
      ∀ t, SwitchAgrees p u d (body.map (·.text)) t := by
  have wf := Document.readGraph_wellFormed accepted
  obtain ⟨p, planned, settled⟩ := planFor_settled wf s
  have complete := settled.complete wf
  have written : u ∈ p.unions := settled.unions ▸ hu
  have named := complete.unionName_eq written
  obtain ⟨conversion, rendered⟩ := render_eq planned complete
  obtain ⟨before, after, split⟩ := sourceOps_split written s conversion
  refine ⟨p, _, before, _, _, after, planned, new_ok named, split ▸ rendered, named,
    structPart_block p u, fun t => ?_⟩
  rw [structBody_texts]
  exact structTexts_agree complete written (new_ok named) t

theorem sample_switch_agrees :
    Document.sampleUnion ∈ Document.sampleGraph.unions ∧
      ∃ p d text body, planFor Document.sampleGraph {} = .ok p ∧
        Decoder.new p Document.sampleUnion = .ok d ∧ render Document.sampleGraph {} = .ok text ∧
        SwitchAgrees p Document.sampleUnion d body .integer := by
  have generated : Document.sampleUnion ∈ Document.sampleGraph.unions := by decide
  obtain ⟨p, d, _, body, _, _, planned, new, rendered, -, -, agrees⟩ :=
    render_switch_agrees Document.readGraph_sample {} generated
  exact ⟨generated, p, d, _, _, planned, new, rendered, agrees .integer⟩

end Shapewright.Source
