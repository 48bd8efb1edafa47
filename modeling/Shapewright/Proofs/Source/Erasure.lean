import Shapewright.Proofs.Source.Reading

/-!
# Shapes with the same type expression

A type expression forgets two things: nothing and null are both an object, and only the three value
types are marked when they may be null. `erased` is a shape without what is forgotten. Two shapes
have the same type expression exactly when they have the same erasure: the last character of an
expression tells how it was put together, and names of types are capital and unique.
-/
namespace Shapewright.Source
open Identifier Plan TypeText Result Registry

/-- The types that cannot hold null as they are. -/
inductive ValueType where
  | integer
  | double
  | boolean
  deriving DecidableEq, Repr

def ValueType.word : ValueType → String
  | .integer => integerType
  | .double => doubleType
  | .boolean => booleanType

theorem mem_valueTypes {type : String} : type ∈ valueTypes ↔ ∃ v : ValueType, v.word = type := by
  constructor
  · intro inside
    simp only [valueTypes, List.mem_cons, List.not_mem_nil, or_false] at inside
    rcases inside with rfl | rfl | rfl
    · exact ⟨.integer, rfl⟩
    · exact ⟨.double, rfl⟩
    · exact ⟨.boolean, rfl⟩
  · rintro ⟨v, rfl⟩
    cases v <;> decide

def valueType? : Shape → Option ValueType
  | .integer => some .integer
  | .double => some .double
  | .boolean => some .boolean
  | _ => none

/-- What a type expression says about a shape. -/
inductive Erased where
  | object
  | string
  | value (v : ValueType)
  | nullable (v : ValueType)
  | array (items : Erased)
  | map (values : Erased)
  | record (ref : Text)
  | union (members : List Shape)
  deriving DecidableEq, Repr

mutual
def erased : Shape → Erased
  | .nothing => .object
  | .null => .object
  | .boolean => .value .boolean
  | .integer => .value .integer
  | .double => .value .double
  | .string => .string
  | .array items => .array (erased items)
  | .map values => .map (erased values)
  | .record ref => .record ref
  | .union members =>
    if (Shape.nullableOf? members).isSome then erasedNullable members else .union members

/-- The erasure of a union that only adds null to another shape. -/
def erasedNullable : List Shape → Erased
  | [] => .object
  | m :: ms =>
    if m = .null then erasedNullable ms else (valueType? m).elim (erased m) .nullable
end

/-- The erasure of a shape that may be null as well. -/
def erasedOrNull (s : Shape) : Erased := (valueType? s).elim (erased s) .nullable

/-- The type expression of an erased shape. -/
def spell (p : Plan) : Erased → Except EmitError String
  | .object => .ok objectType
  | .string => .ok textType
  | .value v => .ok v.word
  | .nullable v => .ok (v.word ++ "?")
  | .array items => do return arrayOf (← spell p items)
  | .map values => do return dictionaryOf (← spell p values)
  | .record ref => p.className ref
  | .union members => p.unionName (.union members)

section Shapes
variable {p : Plan} {members : List Shape} {s : Shape}

theorem nonNull_of_nullableOf? (h : Shape.nullableOf? members = some s) :
    Shape.nonNull members = [s] := by
  unfold Shape.nullableOf? at h
  split at h
  · next single =>
    cases h
    exact single
  · cases h

theorem member_of_nullableOf? (h : Shape.nullableOf? members = some s) : s ∈ members :=
  List.mem_of_mem_filter (nonNull_of_nullableOf? h ▸ List.mem_singleton_self s)

/-- What skips null and takes the first other member takes the only one. -/
theorem first_of_nonNull {α : Type} {first : List Shape → α} (one : Shape → α)
    (cons : ∀ m ms, first (m :: ms) = if m = .null then first ms else one m)
    (h : Shape.nonNull members = [s]) : first members = one s := by
  induction members with
  | nil => cases h
  | cons m members ih =>
    rw [cons]
    by_cases null : m = .null
    · rw [if_pos null]
      exact ih (by simpa [Shape.nonNull, null] using h)
    · obtain ⟨rfl, -⟩ : m = s ∧ _ := by simpa [Shape.nonNull, null] using h
      rw [if_neg null]

theorem firstTypeText_eq (h : Shape.nonNull members = [s]) :
    p.firstTypeText members = p.typeText s :=
  first_of_nonNull p.typeText (fun _ _ => by rw [firstTypeText]) h

/-- A shape that is made nullable keeps its erasure, unless it is one of the three that need a
mark. -/
theorem erased_nullable (h : Shape.nullableOf? members = some s) :
    erased (.union members) = erasedOrNull s := by
  rw [erased, h, Option.isSome_some, if_pos rfl]
  exact first_of_nonNull erasedOrNull (fun _ _ => by rw [erasedNullable, erasedOrNull])
    (nonNull_of_nullableOf? h)

theorem erased_generated (h : Shape.nullableOf? members = none) :
    erased (.union members) = .union members := by
  rw [erased, h, Option.isSome_none, if_neg Bool.false_ne_true]

theorem erased_valueType {v : ValueType} (h : valueType? s = some v) : erased s = .value v := by
  cases s with
  | boolean | integer | double =>
    cases h
    rfl
  | _ => cases h

theorem erasedOrNull_ne_value (kept : ∀ v, erased s = .value v → valueType? s = some v)
    (v : ValueType) :
    erasedOrNull s ≠ .value v := by
  intro same
  rw [erasedOrNull] at same
  cases value : valueType? s with
  | some w =>
    rw [value] at same
    cases same
  | none =>
    rw [value, Option.elim_none] at same
    cases value.symm.trans (kept v same)

/-- Only the value types themselves are erased to value types. -/
theorem valueType_of_erased {v : ValueType} (h : erased s = .value v) : valueType? s = some v := by
  induction s generalizing v with
  | boolean | integer | double =>
    cases h
    rfl
  | union members ih =>
    cases only : Shape.nullableOf? members with
    | none =>
      rw [erased_generated only] at h
      cases h
    | some s =>
      rw [erased_nullable only] at h
      exact absurd h (erasedOrNull_ne_value (fun _ => ih s (member_of_nullableOf? only)) v)
  | _ => cases h

end Shapes

/-- Names of types are capital, and different types have different ones. -/
structure TypesNamed (p : Plan) : Prop where
  capital : ∀ {key name}, ofNaming (p.names.find .types key) = .ok name → IsCapital name
  apart : ∀ {key other name}, ofNaming (p.names.find .types key) = .ok name →
    ofNaming (p.names.find .types other) = .ok name → key = other

theorem typesNamed {p : Plan} {g : Graph} {forbidden : List String}
    (settled : Settled p g forbidden) (wf : g.WellFormed) : TypesNamed p where
  capital := capital_of_scope settled.types (typeRequests_capital wf)
  apart {key other name} found also := by
    have sound :=
      Scope.grantAll_sound (Scope.new_sound (KeyText.label ScopeKey.types) forbidden)
        (typeRequests g)
    exact sound.freeze.key_unique ((find_eq_ok settled.types).mp (ofNaming_eq_ok.mp found))
      ((find_eq_ok settled.types).mp (ofNaming_eq_ok.mp also))

section Marks

/-- The last character of a text that ends in no identifier. -/
def mark (text : String) : Option Char := (lastOf text).filter (!isContinue ·)

theorem mark_valid {name : String} (valid : IsValid name) : mark name = none := by
  obtain ⟨c, last, letter⟩ := lastOf_valid valid
  rw [mark, last, Option.filter_some, letter]
  rfl

theorem mark_append {a b : String} {c : Char} (last : lastOf b = some c) (breaks : isBreak c) :
    mark (a ++ b) = some c := by
  rw [mark, lastOf_append last, Option.filter_some, isContinue_of_isBreak breaks]
  rfl

theorem mark_arrayOf (type : String) : mark (arrayOf type) = some ']' :=
  mark_append (by decide) (by decide)

theorem mark_dictionaryOf (type : String) : mark (dictionaryOf type) = some '>' :=
  mark_append (by decide) (by decide)

theorem mark_nullable (type : String) : mark (type ++ "?") = some '?' :=
  mark_append (by decide) (by decide)

def Erased.mark : Erased → Option Char
  | .array _ => some ']'
  | .map _ => some '>'
  | .nullable _ => some '?'
  | _ => none

/-- The built-in type of an erasure that is spelled by a keyword. -/
def Erased.word? : Erased → Option String
  | .object => some objectType
  | .string => some textType
  | .value v => some v.word
  | _ => none

/-- What is named by an erasure that is spelled by a name. -/
def Erased.key? : Erased → Option NameKey
  | .record ref => some (.record ref)
  | .union members => some (.union (.union members))
  | _ => none

variable {p : Plan} {e f : Erased}

theorem spell_array {text : String} :
    spell p (.array e) = .ok text ↔ ∃ items, spell p e = .ok items ∧ arrayOf items = text := by
  rw [spell, bind_eq_ok]
  simp only [pure_eq, Except.ok.injEq]

theorem spell_map {text : String} :
    spell p (.map e) = .ok text ↔
      ∃ values, spell p e = .ok values ∧ dictionaryOf values = text := by
  rw [spell, bind_eq_ok]
  simp only [pure_eq, Except.ok.injEq]

/-- All erasures that are spelled by a keyword. -/
def keywordForms : List Erased :=
  [.object, .string, .value .integer, .value .double, .value .boolean]

theorem mem_keywordForms {w : String} (h : e.word? = some w) : e ∈ keywordForms := by
  cases e with
  | object | string => decide
  | value v => cases v <;> decide
  | _ => cases h

theorem word?_inj {w : String} (he : e.word? = some w) (hf : f.word? = some w) : e = f := by
  have apart : ∀ e ∈ keywordForms, ∀ f ∈ keywordForms, e.word? = f.word? → e = f := by decide
  exact apart e (mem_keywordForms he) f (mem_keywordForms hf) (he.trans hf.symm)

theorem word?_small {w : String} (h : e.word? = some w) : IsValid w ∧ beginsSmall w.toList := by
  have all : ∀ e ∈ keywordForms, ∀ w ∈ e.word?, IsValid w ∧ beginsSmall w.toList = true := by decide
  exact all e (mem_keywordForms h) w h

theorem key?_inj {key : NameKey} (he : e.key? = some key) (hf : f.key? = some key) : e = f := by
  cases e <;> cases he <;> cases f <;> cases hf <;> rfl

theorem spell_word {w : String} (h : e.word? = some w) : spell p e = .ok w := by
  cases e <;> cases h <;> rfl

theorem spell_key {key : NameKey} (h : e.key? = some key) :
    spell p e = ofNaming (p.names.find .types key) := by
  cases e <;> cases h <;> rfl

/-- What has no mark is a keyword or a name. -/
theorem word_or_key (h : e.mark = none) : (∃ w, e.word? = some w) ∨ ∃ key, e.key? = some key := by
  cases e with
  | array | map | nullable => cases h
  | record | union => exact .inr ⟨_, rfl⟩
  | _ => exact .inl ⟨_, rfl⟩

end Marks

section Spelling
variable {p : Plan} (named : TypesNamed p) {e f : Erased} {text : String}
include named

/-- The mark of a type expression tells how it was put together. -/
theorem mark_spell (h : spell p e = .ok text) : mark text = e.mark := by
  cases unmarked : e.mark with
  | none =>
    rcases word_or_key unmarked with ⟨w, word⟩ | ⟨key, here⟩
    · rw [spell_word word] at h
      cases h
      exact mark_valid (word?_small word).1
    · rw [spell_key here] at h
      exact mark_valid (named.capital h).valid
  | some c =>
    cases e with
    | array items =>
      obtain ⟨inner, -, rfl⟩ := spell_array.mp h
      rw [mark_arrayOf, ← unmarked, Erased.mark]
    | map values =>
      obtain ⟨inner, -, rfl⟩ := spell_map.mp h
      rw [mark_dictionaryOf, ← unmarked, Erased.mark]
    | nullable v =>
      cases h
      rw [mark_nullable, ← unmarked, Erased.mark]
    | _ => cases unmarked

/-- Keywords are small, names are capital and unique. -/
theorem spell_unmarked (he : e.mark = none) (hf : f.mark = none) (h : spell p e = .ok text)
    (same : spell p f = .ok text) : e = f := by
  rcases word_or_key he with ⟨w, word⟩ | ⟨key, here⟩
  · rw [spell_word word] at h
    cases h
    rcases word_or_key hf with ⟨v, also⟩ | ⟨key, here⟩
    · rw [spell_word also] at same
      cases same
      exact word?_inj word also
    · rw [spell_key here] at same
      exact absurd rfl (capital_ne (named.capital same) (word?_small word).2)
  · rw [spell_key here] at h
    rcases word_or_key hf with ⟨v, also⟩ | ⟨other, there⟩
    · rw [spell_word also] at same
      cases same
      exact absurd rfl (capital_ne (named.capital h) (word?_small also).2)
    · rw [spell_key there] at same
      obtain rfl := named.apart h same
      exact key?_inj here there

/-- Different erasures have different type expressions. -/
theorem spell_inj (h : spell p e = .ok text) (same : spell p f = .ok text) : e = f := by
  have marks := (mark_spell named h).symm.trans (mark_spell named same)
  induction e generalizing f text with
  | array items ih =>
    cases f with
    | array others =>
      obtain ⟨inner, first, rfl⟩ := spell_array.mp h
      obtain ⟨other, second, made⟩ := spell_array.mp same
      obtain rfl := (String.append_left_inj "[]").mp made
      rw [ih first second ((mark_spell named first).symm.trans (mark_spell named second))]
    | _ => cases marks
  | map values ih =>
    cases f with
    | map others =>
      obtain ⟨inner, first, rfl⟩ := spell_map.mp h
      obtain ⟨other, second, made⟩ := spell_map.mp same
      obtain rfl := (String.append_right_inj _).mp ((String.append_left_inj ">").mp made)
      rw [ih first second ((mark_spell named first).symm.trans (mark_spell named second))]
    | _ => cases marks
  | nullable v =>
    cases f with
    | nullable w =>
      cases h
      have words : w.word = v.word := (String.append_left_inj "?").mp (Except.ok.inj same)
      cases word?_inj (e := .value w) (f := .value v) rfl (congrArg some words.symm)
      rfl
    | _ => cases marks
  | _ => exact spell_unmarked named rfl marks.symm h same

/-- Null is marked at the value types only. -/
theorem nullable_spell (h : spell p e = .ok text) (other : ∀ v, e ≠ .value v) :
    nullable text = text := by
  unfold TypeText.nullable
  split
  · next marked =>
    obtain ⟨v, rfl⟩ := mem_valueTypes.mp (List.contains_iff_mem.mp marked)
    exact absurd (spell_inj named h rfl) (other v)
  · rfl

theorem nullableText_of_spelled {s : Shape} (h : p.typeText s = spell p (erased s)) :
    p.nullableText s = spell p (erasedOrNull s) := by
  rw [nullableText, h, erasedOrNull]
  cases value : valueType? s with
  | some v =>
    rw [erased_valueType value, spell, ok_bind, pure_eq, Option.elim_some, spell]
    cases v <;> rfl
  | none =>
    rw [Option.elim_none]
    cases spelled : spell p (erased s) with
    | error e => rfl
    | ok text =>
      have unmarked := nullable_spell named spelled fun v same => by
        rw [valueType_of_erased same] at value
        cases value
      rw [ok_bind, unmarked, pure_eq]

/-- A type expression spells the erasure of its shape. -/
theorem typeText_eq_spell (s : Shape) : p.typeText s = spell p (erased s) := by
  induction s with
  | array items ih => rw [typeText, ih, erased, spell]
  | map values ih => rw [typeText, ih, erased, spell]
  | union members ih =>
    rw [typeText]
    cases only : Shape.nullableOf? members with
    | none => rw [erased_generated only, Option.isSome_none, if_neg Bool.false_ne_true, spell]
    | some s =>
      rw [Option.isSome_some, if_pos rfl, firstTypeText_eq (nonNull_of_nullableOf? only),
        ← nullableText, nullableText_of_spelled named (ih s (member_of_nullableOf? only)),
        erased_nullable only]
  | _ => rfl

theorem nullableText_eq_spell (s : Shape) : p.nullableText s = spell p (erasedOrNull s) :=
  nullableText_of_spelled named (typeText_eq_spell named s)

end Spelling

/-- Under the names of the plan for an accepted document, whatever its settings, two shapes that
have type expressions have the same one exactly when they have the same erasure. -/
theorem typeText_eq_iff_erased {document : Json} {g : Graph}
    (accepted : Document.readGraph document = .ok g) (s : Settings) :
    ∃ p, planFor g s = .ok p ∧ ∀ t u a b, p.typeText t = .ok a → p.typeText u = .ok b →
      (a = b ↔ erased t = erased u) := by
  have wf := Document.readGraph_wellFormed accepted
  obtain ⟨p, planned, settled⟩ := planFor_settled wf s
  have named := typesNamed settled wf
  refine ⟨p, planned, fun t u a b first second => ⟨?_, fun same => ?_⟩⟩
  · rintro rfl
    rw [typeText_eq_spell named] at first second
    exact spell_inj named first second
  · rw [typeText_eq_spell named] at first second
    rw [same, second] at first
    exact (Except.ok.inj first).symm

theorem sample_typeText_eq_iff :
    ∃ p, planFor Document.sampleGraph {} = .ok p ∧
      p.typeText (.array (.union [.boolean, .null])) = .ok "bool?[]" ∧
      p.typeText (.array .boolean) = .ok "bool[]" ∧
      ("bool?[]" = "bool[]" ↔
        erased (.array (.union [.boolean, .null])) = erased (.array .boolean)) := by
  obtain ⟨p, planned, told⟩ := typeText_eq_iff_erased Document.readGraph_sample {}
  have marked : p.typeText (.array (.union [.boolean, .null])) = .ok "bool?[]" := by cbv
  have plain : p.typeText (.array .boolean) = .ok "bool[]" := rfl
  exact ⟨p, planned, marked, plain, told _ _ _ _ marked plain⟩

end Shapewright.Source
