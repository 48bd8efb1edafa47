import Shapewright.Identifier.Styled
import Shapewright.Registry.Scope

/-!
# Capital names

Styled names are identifiers, and no keyword is among them: every keyword begins with a small letter
of ASCII, which no capital does. Both survive the collision prefix and the joining of names.
-/
namespace Shapewright.Identifier
open Unicode

/-- An identifier that the grammar does not reserve. -/
def IsUsable (name : String) : Prop := IsValid name ∧ isKeyword name = false

/-- The small letters of ASCII. -/
def isSmall (c : Char) : Bool := 0x61 ≤ c.toNat && c.toNat ≤ 0x7A

def beginsSmall (cs : List Char) : Bool := cs.head?.any isSmall

theorem keyword_beginsSmall {name : String} (h : isKeyword name = true) :
    beginsSmall name.toList := by
  have all : ∀ word ∈ keywords, beginsSmall word.toList = true := by decide
  exact all name (by simpa [isKeyword] using h)

theorem ofNat_toNat_or (n : Nat) : (Char.ofNat n).toNat = n ∨ (Char.ofNat n).toNat = 0 := by
  by_cases valid : n.isValidChar
  · refine .inl ?_
    rw [Char.ofNat, dif_pos valid]
    rfl
  · refine .inr ?_
    rw [Char.ofNat, dif_neg valid]
    rfl

theorem ofNat_not_small {n : Nat} (h : n < 0x61 ∨ 0x7A < n) : isSmall (Char.ofNat n) = false := by
  rw [isSmall, Bool.and_eq_false_iff, decide_eq_false_iff_not, decide_eq_false_iff_not]
  rcases ofNat_toNat_or n with e | e <;> omega

theorem raisingExpansions_not_small :
    ∀ e ∈ raisingExpansions, ∀ n ∈ e.2.head?, n < 0x61 ∨ 0x7A < n := by
  decide

/-- No shift to upper case ends in the small letters. -/
theorem raisingShifts_not_small :
    ∀ s ∈ raisingShifts, s.run.last + s.distance < 0x61 ∨ 0x7A < s.run.first + s.distance := by
  decide +kernel

/-- The small letters themselves are shifted, so none of them is left as it is. -/
theorem shifted_not_small (c : Char) : isSmall (shifted raisingShifts c) = false := by
  unfold shifted
  split
  · next s found =>
    have member := List.mem_of_find?_eq_some found
    have inside := List.find?_some found
    simp only [Run.covers, Bool.and_eq_true, decide_eq_true_eq] at inside
    have := raisingShifts_not_small s member
    exact ofNat_not_small (by omega)
  · next none =>
    have small := List.find?_eq_none.mp none ⟨⟨0x61, 0x7A, 1⟩, -32⟩ (by decide)
    rw [Bool.eq_false_iff]
    intro h
    simp only [isSmall, Bool.and_eq_true, decide_eq_true_eq] at h
    exact small (by simp [Run.covers, h.1, h.2, Nat.mod_one])

theorem upper_not_small (c : Char) : beginsSmall (upper c) = false := by
  unfold upper
  split
  · next codes found =>
    obtain ⟨before, after, listed, -⟩ := List.lookup_eq_some_iff.mp found
    have member : (c.toNat, codes) ∈ raisingExpansions :=
      listed ▸ List.mem_append_right _ List.mem_cons_self
    cases codes with
    | nil => rfl
    | cons n codes => exact ofNat_not_small (raisingExpansions_not_small _ member n rfl)
  · exact shifted_not_small c

theorem upper_ne_nil (c : Char) : upper c ≠ [] := by
  have filled : ∀ e ∈ raisingExpansions, e.2 ≠ [] := by decide
  unfold upper
  split
  · next codes found =>
    obtain ⟨before, after, listed, -⟩ := List.lookup_eq_some_iff.mp found
    simpa using filled _
      (listed ▸ List.mem_append_right _ List.mem_cons_self : (c.toNat, codes) ∈ _)
  · exact List.cons_ne_nil _ _

theorem capitalize_not_small (cs : List Char) : beginsSmall (Word.capitalize cs) = false := by
  cases cs with
  | nil => rfl
  | cons c cs =>
    have first := upper_not_small c
    obtain ⟨d, ds, raised⟩ := List.exists_cons_of_ne_nil (upper_ne_nil c)
    simpa [Word.capitalize, beginsSmall, raised] using first

theorem isContinue_of_isStart {c : Char} (h : isStart c) : isContinue c := by
  simp [isContinue, h]

theorem isContinue_repair (c : Char) : isContinue (repair c) := by
  unfold repair
  split
  · assumption
  · rfl

theorem repair_of_isContinue {c : Char} (h : isContinue c) : repair c = c := by
  simp [repair, h]

theorem map_repair_all (cs : List Char) : (cs.map repair).all isContinue := by
  simp [isContinue_repair]

/-- Whatever the text, what comes out is an identifier. -/
theorem legalizeChars_valid (cs : List Char) : validChars (legalizeChars cs) := by
  cases cs with
  | nil => decide
  | cons c cs =>
    rw [legalizeChars]
    split
    · next start =>
      have first : isStart (repair c) := by rwa [repair_of_isContinue (isContinue_of_isStart start)]
      rw [List.map_cons, validChars, first, map_repair_all, Bool.and_self]
    · have first : isStart '_' = true := rfl
      rw [validChars, first, map_repair_all, Bool.and_self]

theorem legalize_valid (raw : String) : IsValid (legalize raw) := by
  rw [IsValid, legalize, String.toList_ofList]
  exact legalizeChars_valid _

theorem legalizeChars_not_small {cs : List Char} (h : beginsSmall cs = false) :
    beginsSmall (legalizeChars cs) = false := by
  cases cs with
  | nil => decide
  | cons c cs =>
    rw [legalizeChars]
    split
    · next start =>
      have first : repair c = c := repair_of_isContinue (isContinue_of_isStart start)
      simpa [beginsSmall, first] using h
    · rfl

/-- A valid identifier that begins with no small letter. -/
structure IsCapital (name : String) : Prop where
  valid : IsValid name
  notSmall : beginsSmall name.toList = false

theorem IsCapital.usable {name : String} (h : IsCapital name) : IsUsable name := by
  refine ⟨h.valid, Bool.eq_false_iff.mpr fun keyword => ?_⟩
  exact Bool.eq_false_iff.mp h.notSmall (keyword_beginsSmall keyword)

theorem styled_capital (raw : String) : IsCapital (styled raw) := by
  refine ⟨?_, ?_⟩
  · rw [IsValid, styled, String.toList_ofList]
    exact legalizeChars_valid _
  · rw [styled, String.toList_ofList]
    exact legalizeChars_not_small (capitalize_not_small _)

theorem validChars_append {cs ds : List Char} (h : validChars cs) (hd : ds.all isContinue) :
    validChars (cs ++ ds) := by
  cases cs with
  | nil => cases h
  | cons c cs =>
    simp only [validChars, Bool.and_eq_true, List.cons_append, List.all_append] at h ⊢
    exact ⟨h.1, h.2, hd⟩

theorem all_isContinue {cs : List Char} (h : validChars cs) : cs.all isContinue := by
  cases cs with
  | nil => rfl
  | cons c cs =>
    simp only [validChars, Bool.and_eq_true, List.all_cons] at h ⊢
    exact ⟨isContinue_of_isStart h.1, h.2⟩

theorem IsCapital.append {a b : String} (h : IsCapital a) (hb : b.toList.all isContinue) :
    IsCapital (a ++ b) := by
  obtain ⟨valid, notSmall⟩ := h
  refine ⟨?_, ?_⟩
  · rw [IsValid, String.toList_append]
    exact validChars_append valid hb
  · rw [String.toList_append]
    rw [IsValid] at valid
    cases hc : a.toList with
    | nil => simp [hc, validChars] at valid
    | cons c cs => simpa [beginsSmall, hc] using notSmall

theorem IsCapital.otherwise {name : String} (h : IsCapital name) :
    IsCapital (Registry.otherwise name) :=
  IsCapital.append ⟨by decide, by decide⟩ (all_isContinue h.valid)

/-- Capital names joined by a word are a capital name. -/
theorem intercalate_capital {separator : String} (hs : separator.toList.all isContinue)
    {names : List String} (some : names ≠ []) (h : ∀ name ∈ names, IsCapital name) :
    IsCapital (separator.intercalate names) := by
  induction names with
  | nil => exact absurd rfl some
  | cons a names ih =>
    cases names with
    | nil => simpa using h a List.mem_cons_self
    | cons b names =>
      have rest := ih (List.cons_ne_nil _ _) fun name hn => h name (List.mem_cons_of_mem _ hn)
      rw [String.intercalate_cons_cons]
      refine ((h a List.mem_cons_self).append hs).append (all_isContinue rest.valid)

end Shapewright.Identifier
