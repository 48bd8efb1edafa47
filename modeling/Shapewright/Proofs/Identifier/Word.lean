import Shapewright.Proofs.Identifier.Capital

/-!
# Words of a text

A text falls into pieces at every character that is not kept. So the words behind a space are those
of what stands there, and a styled name ends as its last word does.
-/
namespace Shapewright

namespace Word

theorem pieces_ne_nil (keep : Char → Bool) (cs : List Char) : pieces keep cs ≠ [] := by
  induction cs with
  | nil => simp [pieces]
  | cons c cs ih =>
    rw [pieces]
    split
    · split <;> simp
    · simp

theorem pieces_append_cons {keep : Char → Bool} {c : Char} (hc : keep c = false)
    (cs ds : List Char) :
    pieces keep (cs ++ c :: ds) = pieces keep cs ++ pieces keep ds := by
  induction cs with
  | nil => simp [pieces, hc]
  | cons a cs ih =>
    rw [List.cons_append, pieces, pieces, ih]
    split
    · obtain ⟨w, ws, first⟩ := List.exists_cons_of_ne_nil (pieces_ne_nil keep cs)
      simp [first]
    · rfl

theorem pieces_of_keep {keep : Char → Bool} {cs : List Char} (h : ∀ c ∈ cs, keep c) :
    pieces keep cs = [cs] := by
  induction cs with
  | nil => rfl
  | cons c cs ih =>
    obtain ⟨first, rest⟩ := List.forall_mem_cons.mp h
    rw [pieces, if_pos first, ih rest]

theorem pieces_congr {keep keep' : Char → Bool} {cs : List Char} (h : ∀ c ∈ cs, keep c = keep' c) :
    pieces keep cs = pieces keep' cs := by
  induction cs with
  | nil => rfl
  | cons c cs ih =>
    obtain ⟨first, rest⟩ := List.forall_mem_cons.mp h
    rw [pieces, pieces, first, ih rest]

theorem words_append_cons {c : Char} (hc : isWordChar c = false) (cs ds : List Char) :
    words (cs ++ c :: ds) = words cs ++ words ds := by
  rw [words, runs, pieces_append_cons hc, List.filter_append, List.flatMap_append]
  rfl

end Word

namespace Identifier
open Word

variable {word w front cs : List Char} {c : Char}

/-- All of a last word but its first character stays as it is folded. -/
theorem camelChars_ends (single : words word = [w]) (folded : fold w = c :: cs) (raw : List Char) :
    ∃ front, front ≠ [] ∧ camelChars (raw ++ ' ' :: word) = front ++ cs := by
  have all : words (raw ++ ' ' :: word) = words raw ++ [w] := by
    rw [words_append_cons (by decide +kernel), single]
  rw [camelChars, all, List.map_append]
  cases words raw with
  | nil => exact ⟨[c], by simp, by simp [folded]⟩
  | cons first others =>
    refine ⟨fold first ++ (others.map fold).flatMap capitalize ++ Unicode.upper c, ?_, ?_⟩
    · simp [upper_ne_nil]
    · simp [folded, capitalize]

theorem capitalize_ends (filled : front ≠ []) (cs : List Char) :
    ∃ more, more ≠ [] ∧ capitalize (front ++ cs) = more ++ cs := by
  obtain ⟨d, ds, rfl⟩ := List.exists_cons_of_ne_nil filled
  exact ⟨Unicode.upper d ++ ds, by simp [upper_ne_nil], by simp [capitalize]⟩

theorem legalizeChars_ends (filled : front ≠ []) (keeps : cs.all isContinue) :
    cs <:+ legalizeChars (front ++ cs) := by
  obtain ⟨d, ds, rfl⟩ := List.exists_cons_of_ne_nil filled
  have kept : cs.map repair = cs :=
    (List.map_congr_left fun c hc => repair_of_isContinue (List.all_eq_true.mp keeps c hc)).trans
      cs.map_id
  have repaired : cs <:+ (d :: (ds ++ cs)).map repair := by
    refine ⟨(d :: ds).map repair, ?_⟩
    rw [← List.cons_append, List.map_append, kept]
  rw [List.cons_append, legalizeChars]
  split
  · exact repaired
  · exact repaired.trans (List.suffix_cons _ _)

/-- A name that is styled from several words ends as the last of them does. -/
theorem styled_ends (single : words word = [w]) (folded : fold w = c :: cs)
    (keeps : cs.all isContinue) (raw : String) :
    cs <:+ (styled (raw ++ String.ofList (' ' :: word))).toList := by
  obtain ⟨front, filled, camel⟩ := camelChars_ends single folded raw.toList
  obtain ⟨more, filledToo, capital⟩ := capitalize_ends filled cs
  rw [styled, String.toList_append, String.toList_ofList, String.toList_ofList, camel, capital]
  exact legalizeChars_ends filledToo keeps

end Identifier
end Shapewright
