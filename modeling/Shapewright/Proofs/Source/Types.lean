import Shapewright.Proofs.Plan.Types
import Shapewright.Proofs.Source.Texts

/-!
# Type expressions

The words of the type expressions of a plan: built-in types and names of types that the plan
declares, whatever is nested in what.
-/
namespace Shapewright.Source
open Identifier Plan TypeText Result

variable {p : Plan} {names : List String} {type : String}

def builtinTypes : List String := ["object", "long", "double", "bool", "string", "Dictionary"]

/-- A type expression made of built-in types and the given names. -/
structure TypeOver (names : List String) (type : String) : Prop where
  plain : IsPlain type
  closed : ∀ w ∈ words type, w ∈ builtinTypes ∨ w ∈ names

theorem capital_ne {name keyword : String} (capital : IsCapital name)
    (small : beginsSmall keyword.toList) :
    name ≠ keyword := by
  rintro rfl
  rw [capital.notSmall] at small
  cases small

theorem TypeOver.builtin (h : type ∈ builtinTypes) : TypeOver names type := by
  have all : ∀ t ∈ builtinTypes, IsValid t := by decide
  obtain ⟨plain, word⟩ := words_valid (all type h)
  refine ⟨plain, fun w hw => .inl ?_⟩
  rw [word, List.mem_singleton] at hw
  exact hw ▸ h

theorem TypeOver.name (valid : IsValid type) (h : type ∈ names) : TypeOver names type := by
  obtain ⟨plain, word⟩ := words_valid valid
  refine ⟨plain, fun w hw => .inr ?_⟩
  rw [word, List.mem_singleton] at hw
  exact hw ▸ h

theorem TypeOver.arrayOf (h : TypeOver names type) : TypeOver names (arrayOf type) := by
  have brackets : words "[]" = [] := words_ascii rfl
  refine ⟨h.plain.append (by decide), fun w hw => h.closed w ?_⟩
  rwa [TypeText.arrayOf, words_then h.plain (by decide), brackets, List.append_nil] at hw

theorem TypeOver.dictionaryOf (h : TypeOver names type) : TypeOver names (dictionaryOf type) := by
  have front : IsPlain "Dictionary<string, " := by decide
  have back : words ">" = [] := words_ascii rfl
  have all : words (TypeText.dictionaryOf type) = ["Dictionary", "string"] ++ words type := by
    rw [show TypeText.dictionaryOf type = _ from append_three _ _ _, words_lead (by decide),
      words_then h.plain (by decide), back, List.append_nil]
    rfl
  refine ⟨(front.append h.plain).append (by decide), fun w hw => ?_⟩
  rw [all, List.mem_append] at hw
  rcases hw with hw | hw
  · have builtin : ∀ v ∈ ["Dictionary", "string"], v ∈ builtinTypes := by simp [builtinTypes]
    exact .inl (builtin w hw)
  · exact h.closed w hw

theorem TypeOver.nullable (h : TypeOver names type) : TypeOver names (nullable type) := by
  unfold TypeText.nullable
  split
  · have mark : words "?" = [] := words_ascii rfl
    refine ⟨h.plain.append (by decide), fun w hw => h.closed w ?_⟩
    rwa [words_then h.plain (by decide), mark, List.append_nil] at hw
  · exact h

/-- A small word that is no built-in type does not occur. -/
theorem TypeOver.not_mem (h : TypeOver names type) (capital : ∀ name ∈ names, IsCapital name)
    {w : String} (small : beginsSmall w.toList) (other : w ∉ builtinTypes) : w ∉ words type := by
  intro inside
  rcases h.closed w inside with builtin | named
  · exact other builtin
  · exact capital_ne (capital w named) small rfl

/-- A property that every type expression has, if the given names have it. -/
structure TypeClosed (names : List String) (P : String → Prop) : Prop where
  builtin : ∀ type ∈ builtinTypes, P type
  name : ∀ name ∈ names, P name
  arrayOf : ∀ {type}, P type → P (arrayOf type)
  dictionaryOf : ∀ {type}, P type → P (dictionaryOf type)
  nullable : ∀ {type}, P type → P (nullable type)

section TypeClosed
variable {P : String → Prop} (closed : TypeClosed p.typeNames P)
include closed

theorem firstTypeText_induct {members : List Shape} {text : String}
    (each : ∀ m ∈ members, ∀ text, p.typeText m = .ok text → P text)
    (h : p.firstTypeText members = .ok text) : P text := by
  induction members with
  | nil =>
    rw [firstTypeText] at h
    cases h
    exact closed.builtin _ (by decide)
  | cons m members ih =>
    obtain ⟨here, others⟩ := List.forall_mem_cons.mp each
    rw [firstTypeText] at h
    split at h
    · exact ih others h
    · exact here text h

/-- Whatever is nested in what, the type expression of a shape of the graph has the property. -/
theorem typeText_induct (planned : Planned p) {s : Shape} (hs : s ∈ p.graph.shapes) {text : String}
    (h : p.typeText s = .ok text) : P text := by
  induction s generalizing text with
  | array items ih =>
    rw [typeText] at h
    obtain ⟨element, typed, h⟩ := bind_eq_ok.mp h
    cases h
    exact closed.arrayOf (ih (Graph.items_mem hs) typed)
  | map values ih =>
    rw [typeText] at h
    obtain ⟨value, typed, h⟩ := bind_eq_ok.mp h
    cases h
    exact closed.dictionaryOf (ih (Graph.values_mem hs) typed)
  | record ref =>
    rw [typeText] at h
    obtain ⟨c, found⟩ := planned.wf.exists_class hs
    obtain ⟨hc, rfl⟩ := Graph.mem_classes_of_class? found
    obtain rfl : p.classFor c = text := by rw [classFor, h, valueOr_ok]
    exact closed.name _ (List.mem_append_left _ (List.mem_map_of_mem hc))
  | union members ih =>
    rw [typeText] at h
    split at h
    · obtain ⟨first, typed, h⟩ := bind_eq_ok.mp h
      cases h
      exact closed.nullable
        (firstTypeText_induct closed (fun m hm _ => ih m hm (Graph.member_mem hs hm)) typed)
    · next several =>
      have hu : .union members ∈ p.unions := planned.unions ▸ Graph.mem_unions_of_several hs several
      obtain rfl : p.unionFor (.union members) = text := by rw [unionFor, h, valueOr_ok]
      exact closed.name _ (List.mem_append_right _ (List.mem_map_of_mem hu))
  | _ =>
    rw [typeText] at h
    cases h
    exact closed.builtin _ (by decide)

theorem typeFor_induct (planned : Planned p) {s : Shape} (hs : s ∈ p.graph.shapes) :
    P (p.typeFor s) :=
  typeText_induct closed planned hs (planned.complete.typeText_eq hs)

end TypeClosed

theorem TypeClosed.typeOver (valid : ∀ name ∈ names, IsValid name) :
    TypeClosed names (TypeOver names) where
  builtin _ := .builtin
  name name inside := .name (valid name inside) inside
  arrayOf := .arrayOf
  dictionaryOf := .dictionaryOf
  nullable := .nullable

/-- The type expression of any shape of the graph is made of built-in types and the types of the
plan. -/
theorem typeFor_over (planned : Planned p) {s : Shape} (hs : s ∈ p.graph.shapes) :
    TypeOver p.typeNames (p.typeFor s) :=
  typeFor_induct (.typeOver fun name inside => (planned.typeNames_capital name inside).usable.1)
    planned hs

end Shapewright.Source
