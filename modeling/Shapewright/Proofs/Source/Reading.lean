import Shapewright.Proofs.Source.Types

/-!
# Reading the source

What a compiler finds in a line of the source: the types that it declares, what follows a keyword,
and the type expression that it uses.
-/
namespace Shapewright.Source
open Identifier Plan Dispatch

/-- The words that directly follow a keyword. -/
def following (keyword : String) : List String → List String
  | a :: b :: rest => (if a = keyword then [b] else []) ++ following keyword (b :: rest)
  | _ => []

/-- The names that a line declares as those of a class or a struct. -/
def declaredIn (text : String) : List String :=
  following "class" (words text) ++ following "struct" (words text)

def declares (text : String) : Bool :=
  (words text).contains "class" || (words text).contains "struct"

def overrides (text : String) : Bool := (words text).contains "override"

def makesConverter (text : String) : Bool := (following "new" (words text)).contains "Converter"

/-- The line uses the type expression: for a property, a field, the result of the entry point or
what is read into a field. -/
inductive UsesType : String → String → Prop
  | property {type name : String} : IsUsable name → UsesType (propertyLine type name) type
  | field {type name : String} : IsUsable name → UsesType (fieldLine type name) type
  | result {type : String} : UsesType (entryLine type) type
  | target {type name : String} : IsUsable name → UsesType (assignLine name type) type

section Following
variable {keyword a b : String} {ws : List String}

theorem following_cons (h : a ≠ keyword) : following keyword (a :: ws) = following keyword ws := by
  cases ws with
  | nil => rfl
  | cons b ws => rw [following, if_neg h, List.nil_append]

theorem following_keyword :
    following keyword (keyword :: b :: ws) = b :: following keyword (b :: ws) := by
  rw [following, if_pos rfl, List.singleton_append]

theorem following_of_not_mem (h : keyword ∉ ws) : following keyword ws = [] := by
  induction ws with
  | nil => rfl
  | cons a ws ih =>
    obtain ⟨other, rest⟩ := not_or.mp (mt List.mem_cons.mpr h)
    rw [following_cons (Ne.symm other), ih rest]

end Following

section Quiet
variable {text : String} {ws : List String}

/-- A line that declares nothing, overrides nothing and makes no converter. -/
structure IsQuiet (text : String) : Prop where
  plainWords : ∀ w ∈ words text, w ∉ ["class", "struct", "override"]
  noConverter : "Converter" ∉ following "new" (words text)

theorem IsQuiet.not_mem (h : IsQuiet text) {w : String} (hw : w ∈ ["class", "struct", "override"]) :
    w ∉ words text := fun inside => h.plainWords w inside hw

theorem IsQuiet.declares (h : IsQuiet text) : declares text = false := by
  have noClass := h.not_mem (w := "class") (by simp)
  have noStruct := h.not_mem (w := "struct") (by simp)
  simp [Source.declares, noClass, noStruct]

theorem IsQuiet.declaredIn (h : IsQuiet text) : declaredIn text = [] := by
  have noClass := h.not_mem (w := "class") (by simp)
  have noStruct := h.not_mem (w := "struct") (by simp)
  rw [Source.declaredIn, following_of_not_mem noClass, following_of_not_mem noStruct,
    List.append_nil]

theorem IsQuiet.overrides (h : IsQuiet text) : overrides text = false := by
  have none := h.not_mem (w := "override") (by simp)
  simp [Source.overrides, none]

theorem IsQuiet.makesConverter (h : IsQuiet text) : makesConverter text = false := by
  have none := h.noConverter
  simp [Source.makesConverter, none]

/-- Lines without the four keywords are quiet. -/
theorem quiet_of_words (h : words text = ws)
    (none : ∀ w ∈ ws, w ∉ ["class", "struct", "override", "new"]) :
    IsQuiet text := by
  refine ⟨fun w inside listed => ?_, ?_⟩
  · rw [h] at inside
    exact none w inside (List.mem_append_left ["new"] listed)
  · have noNew : "new" ∉ ws := fun inside => none _ inside (by simp)
    rw [h, following_of_not_mem noNew]
    exact List.not_mem_nil

end Quiet

section Lines
variable {names : List String} {text type name : String}

def lastOf (text : String) : Option Char := text.toList.getLast?

/-- The character before the last one. -/
def beforeLast (text : String) : Option Char := text.toList.dropLast.getLast?

theorem lastOf_append {a b : String} {c : Char} (h : lastOf b = some c) :
    lastOf (a ++ b) = some c := by
  rw [lastOf] at h ⊢
  rw [String.toList_append, List.getLast?_append, h, Option.some_or]

theorem beforeLast_append {a b : String} {c : Char} (h : b.toList = [c]) :
    beforeLast (a ++ b) = lastOf a := by
  rw [beforeLast, lastOf, String.toList_append, h, List.dropLast_concat]

theorem lastOf_valid (valid : IsValid name) : ∃ c, lastOf name = some c ∧ isContinue c := by
  have each := List.all_eq_true.mp (all_isContinue valid)
  cases last : lastOf name with
  | none =>
    have empty : name.toList = [] := List.getLast?_eq_none_iff.mp last
    rw [IsValid, empty] at valid
    cases valid
  | some c => exact ⟨c, rfl, each c (List.mem_of_getLast? last)⟩

theorem lastOf_propertyLine (type name : String) : lastOf (propertyLine type name) = some '\x7d' :=
  lastOf_append (by decide)

theorem lastOf_fieldLine (type name : String) : lastOf (fieldLine type name) = some ';' :=
  lastOf_append (by decide)

theorem lastOf_entryLine (type : String) : lastOf (entryLine type) = some ';' :=
  lastOf_append (by decide)

theorem lastOf_assignLine (type name : String) : lastOf (assignLine name type) = some ';' :=
  lastOf_append (by decide)

theorem beforeLast_of_append {a b : String} {c : Char} (h : beforeLast b = some c) :
    beforeLast (a ++ b) = some c := by
  rw [beforeLast] at h ⊢
  have filled : b.toList ≠ [] := by
    intro empty
    rw [empty] at h
    cases h
  rw [String.toList_append, List.dropLast_append_of_ne_nil filled, List.getLast?_append, h,
    Option.some_or]

theorem beforeLast_fieldLine (type : String) (valid : IsValid name) :
    ∃ c, beforeLast (fieldLine type name) = some c ∧ isContinue c := by
  obtain ⟨c, last, hc⟩ := lastOf_valid valid
  have semicolon : (";" : String).toList = [';'] := by decide
  refine ⟨c, ?_, hc⟩
  rw [fieldLine, beforeLast_append semicolon]
  exact lastOf_append last

theorem beforeLast_entryLine (type : String) : beforeLast (entryLine type) = some ')' :=
  beforeLast_of_append (by decide)

theorem beforeLast_assignLine (type name : String) : beforeLast (assignLine name type) = some ')' :=
  beforeLast_of_append (by decide)

theorem bracket_not_continue : isContinue ')' = false := isContinue_of_isBreak (by decide)

/-- A line whose last but one character ends no name is no field. -/
theorem not_fieldLine {c : Char} (h : beforeLast text = some c) (ends : isContinue c = false)
    (valid : IsValid name) : text ≠ fieldLine type name := by
  rintro rfl
  obtain ⟨d, last, hd⟩ := beforeLast_fieldLine type valid
  obtain rfl := Option.some.inj (h.symm.trans last)
  rw [ends] at hd
  cases hd

theorem not_entryLine_of_keyword {more : List String} (usable : IsUsable name)
    (h : words text = name :: more) :
    text ≠ entryLine type := by
  rintro rfl
  obtain ⟨others, front⟩ := words_entryLine_front type
  rw [front] at h
  have keyword : isKeyword name = true :=
    (List.cons.inj h).1 ▸ (by decide : isKeyword "public" = true)
  rw [usable.2] at keyword
  cases keyword

/-- In a plain line the type expression is plain as well. -/
theorem plain_second {a b c d : String} (h : IsPlain (a ++ type ++ b ++ c ++ d)) :
    IsPlain type := by
  have front := (isPlain_append.mp (isPlain_append.mp (isPlain_append.mp h).1).1).1
  exact (isPlain_append.mp front).2

theorem plain_of_assignLine (h : IsPlain (assignLine name type)) : IsPlain type := by
  have front := (isPlain_append.mp h).1
  exact (isPlain_append.mp front).2

variable {used : String}

/-- However a line is read, its type expression has the words that were written. -/
theorem words_of_propertyLine (plain : IsPlain type) (valid : IsValid name)
    (h : UsesType (propertyLine type name) used) : words used = words type := by
  have last := lastOf_propertyLine type name
  have plainName := (words_valid valid).1
  have plainLine : IsPlain (propertyLine type name) :=
    ((((by decide : IsPlain "public ").append plain).append (by decide)).append plainName).append
      (by decide)
  generalize line : propertyLine type name = text at h last plainLine
  cases h with
  | property usable =>
    have plainUsed : IsPlain used := plain_second plainLine
    have same := congrArg words line
    rw [words_propertyLine plain valid, words_propertyLine plainUsed usable.1] at same
    exact (List.append_inj_left' (List.cons.inj same).2 rfl).symm
  | field _ => simp [lastOf_fieldLine] at last
  | result => simp [lastOf_entryLine] at last
  | target _ => simp [lastOf_assignLine] at last

theorem words_of_fieldLine (plain : IsPlain type) (valid : IsValid name)
    (h : UsesType (fieldLine type name) used) : words used = words type := by
  have plainName := (words_valid valid).1
  have plainLine : IsPlain (fieldLine type name) :=
    ((((by decide : IsPlain "public ").append plain).append (by decide)).append plainName).append
      (by decide)
  generalize line : fieldLine type name = text at h plainLine
  cases h with
  | property _ =>
    have last := lastOf_fieldLine type name
    simp [line, lastOf_propertyLine] at last
  | field usable =>
    have plainUsed : IsPlain used := plain_second plainLine
    have same := congrArg words line
    rw [words_fieldLine plain valid, words_fieldLine plainUsed usable.1] at same
    exact (List.append_inj_left' (List.cons.inj same).2 rfl).symm
  | result =>
    exact absurd line.symm (not_fieldLine (beforeLast_entryLine used) bracket_not_continue valid)
  | target _ =>
    exact absurd line.symm (not_fieldLine (beforeLast_assignLine used _) bracket_not_continue valid)

/-- The type stands twice in the line, so both readings of it are equally long. -/
theorem words_of_entryLine (plain : IsPlain type) (h : UsesType (entryLine type) used) :
    words used = words type := by
  have plainLine : IsPlain (entryLine type) :=
    ((((by decide : IsPlain "public static ").append plain).append (by decide)).append plain).append
      (by decide)
  generalize line : entryLine type = text at h plainLine
  cases h with
  | property _ =>
    have last := lastOf_entryLine type
    simp [line, lastOf_propertyLine] at last
  | field usable =>
    exact absurd line (not_fieldLine (beforeLast_entryLine type) bracket_not_continue usable.1)
  | result =>
    have plainUsed : IsPlain used := plain_second plainLine
    have same := congrArg words line
    rw [words_entryLine plain, words_entryLine plainUsed] at same
    simp only [List.append_assoc, List.cons_append, List.nil_append, List.cons.injEq, true_and]
      at same
    have lengths := congrArg List.length same
    simp only [List.length_append, List.length_cons] at lengths
    exact (List.append_inj_left same (by omega)).symm
  | target usable =>
    obtain ⟨more, front⟩ := words_assignLine_front used usable.1
    exact absurd line.symm (not_entryLine_of_keyword usable front)

theorem words_of_assignLine (plain : IsPlain type) (usable : IsUsable name)
    (h : UsesType (assignLine name type) used) : words used = words type := by
  have plainName := (words_valid usable.1).1
  have plainLine : IsPlain (assignLine name type) :=
    ((plainName.append (by decide)).append plain).append (by decide)
  generalize line : assignLine name type = text at h plainLine
  cases h with
  | property _ =>
    have last := lastOf_assignLine type name
    simp [line, lastOf_propertyLine] at last
  | field valid =>
    exact absurd line (not_fieldLine (beforeLast_assignLine type name) bracket_not_continue valid.1)
  | result =>
    obtain ⟨more, front⟩ := words_assignLine_front type usable.1
    exact absurd line (not_entryLine_of_keyword usable front)
  | target other =>
    have plainUsed : IsPlain used := plain_of_assignLine plainLine
    have same := congrArg words line
    rw [words_assignLine plain usable.1, words_assignLine plainUsed other.1] at same
    simp only [List.cons_append, List.nil_append, List.cons.injEq, true_and] at same
    exact (List.append_inj_left' same.2 rfl).symm

/-- Type expressions end a line in one of two ways only. -/
theorem lastOf_of_usesType (h : UsesType text used) :
    lastOf text = some '\x7d' ∨ lastOf text = some ';' := by
  cases h with
  | property _ => exact .inl (lastOf_propertyLine _ _)
  | field _ => exact .inr (lastOf_fieldLine _ _)
  | result => exact .inr (lastOf_entryLine _)
  | target _ => exact .inr (lastOf_assignLine _ _)

/-- A line with a type expression is public or assigns to a field. -/
theorem words_of_usesType (h : UsesType text used) :
    (∃ more, words text = "public" :: more) ∨
      ∃ name more, IsUsable name ∧ words text = name :: "serializer" :: more := by
  cases h with
  | property _ => exact .inl (words_propertyLine_front _ _)
  | field _ => exact .inl (words_fieldLine_front _ _)
  | result =>
    obtain ⟨more, front⟩ := words_entryLine_front used
    exact .inl ⟨_, front⟩
  | target usable =>
    obtain ⟨more, front⟩ := words_assignLine_front used usable.1
    exact .inr ⟨_, _, usable, front⟩

/-- Whatever type expression the line uses, it is made of built-in types and the given names. -/
def TypesOver (names : List String) (text : String) : Prop :=
  ∀ used, UsesType text used → ∀ w ∈ words used, w ∈ builtinTypes ∨ w ∈ names

theorem typesOver_of_last {c : Char} (last : lastOf text = some c) (notBrace : c ≠ '\x7d')
    (notEnd : c ≠ ';') :
    TypesOver names text := by
  intro used h
  rcases lastOf_of_usesType h with brace | semicolon
  · exact absurd (Option.some.inj (last.symm.trans brace)) notBrace
  · exact absurd (Option.some.inj (last.symm.trans semicolon)) notEnd

theorem typesOver_of_words {ws : List String} (h : words text = ws)
    (notPublic : ws.head? ≠ some "public") (notTarget : ws[1]? ≠ some "serializer") :
    TypesOver names text := by
  intro used uses
  rcases words_of_usesType uses with ⟨more, front⟩ | ⟨name, more, -, front⟩
  · exact absurd (by rw [← h, front]; rfl) notPublic
  · exact absurd (by rw [← h, front]; rfl) notTarget

theorem typesOver_of_keyword {keyword : String} {more : List String}
    (h : words text = keyword :: more) (isKeyword : isKeyword keyword = true)
    (notPublic : keyword ≠ "public") : TypesOver names text := by
  intro used uses
  rcases words_of_usesType uses with ⟨others, front⟩ | ⟨name, others, usable, front⟩
  · exact absurd (List.cons.inj (h.symm.trans front)).1 notPublic
  · have same : keyword = name := (List.cons.inj (h.symm.trans front)).1
    have notKeyword := usable.2
    rw [← same, isKeyword] at notKeyword
    cases notKeyword

theorem typesOver_propertyLine (typed : TypeOver names type) (valid : IsValid name) :
    TypesOver names (propertyLine type name) := by
  intro used uses w hw
  rw [words_of_propertyLine typed.plain valid uses] at hw
  exact typed.closed w hw

theorem typesOver_fieldLine (typed : TypeOver names type) (valid : IsValid name) :
    TypesOver names (fieldLine type name) := by
  intro used uses w hw
  rw [words_of_fieldLine typed.plain valid uses] at hw
  exact typed.closed w hw

theorem typesOver_entryLine (typed : TypeOver names type) : TypesOver names (entryLine type) := by
  intro used uses w hw
  rw [words_of_entryLine typed.plain uses] at hw
  exact typed.closed w hw

theorem typesOver_assignLine (typed : TypeOver names type) (usable : IsUsable name) :
    TypesOver names (assignLine name type) := by
  intro used uses w hw
  rw [words_of_assignLine typed.plain usable uses] at hw
  exact typed.closed w hw

theorem lastOf_checks {checked : List String} (filled : checked ≠ []) :
    lastOf (" || ".intercalate (checked.map typeCheck)) = some ')' := by
  induction checked with
  | nil => exact absurd rfl filled
  | cons first rest ih =>
    cases rest with
    | nil =>
      rw [List.map_singleton, String.intercalate_singleton]
      exact lastOf_append (by decide)
    | cons next rest =>
      rw [List.map_cons, List.map_cons, String.intercalate_cons_cons, ← List.map_cons]
      exact lastOf_append (ih (List.cons_ne_nil _ _))

/-- The last character but one rules out a field, and the second word the other lines. -/
theorem typesOver_canConvertLine {checked : List String} (valid : ∀ n ∈ checked, IsValid n)
    (filled : checked ≠ []) :
    TypesOver names (canConvertLine checked) := by
  have front := words_canConvertLine valid
  have semicolon : (";" : String).toList = [';'] := by decide
  have before : beforeLast (canConvertLine checked) = some ')' :=
    (beforeLast_append semicolon).trans (lastOf_append (lastOf_checks filled))
  intro used uses
  generalize line : canConvertLine checked = text at uses
  cases uses with
  | property _ =>
    have last : lastOf (canConvertLine checked) = some ';' := lastOf_append (by decide)
    simp [line, lastOf_propertyLine] at last
  | field usable => exact absurd line (not_fieldLine before bracket_not_continue usable.1)
  | result =>
    obtain ⟨more, entry⟩ := words_entryLine_front used
    rw [line, entry] at front
    simp at front
  | target usable =>
    obtain ⟨more, target⟩ := words_assignLine_front used usable.1
    rw [line, target] at front
    simp at front

end Lines

end Shapewright.Source
