import Shapewright.Proofs.Identifier.Word
import Shapewright.Source.Literal

/-!
# Words of a line

A line of the source as a compiler reads it: comments and the insides of string literals do not
count, and the rest falls into words and what stands between them. Where a fixed piece meets a name,
the words fall apart into those of the pieces.
-/
namespace Shapewright.Source
open Identifier Unicode

inductive Mode where
  | code
  | literal
  | escape

/-- What is left of a line when comments and the insides of literals are dropped. -/
def visible : Mode → List Char → List Char
  | _, [] => []
  | .code, c :: cs =>
    if c = '"' then c :: visible .literal cs
    else if c = '/' ∧ cs.head? = some '/' then []
    else c :: visible .code cs
  | .literal, c :: cs =>
    if c = '"' then c :: visible .code cs
    else if c = '\\' then visible .escape cs
    else visible .literal cs
  | .escape, _ :: cs => visible .literal cs

/-- The runs of characters that can stand in a name. -/
def runs (cs : List Char) : List (List Char) := (Word.pieces isContinue cs).filter (!·.isEmpty)

def words (text : String) : List String := (runs (visible .code text.toList)).map String.ofList

section Runs

theorem runs_append_cons {c : Char} (hc : isContinue c = false) (cs ds : List Char) :
    runs (cs ++ c :: ds) = runs cs ++ runs ds := by
  rw [runs, Word.pieces_append_cons hc, List.filter_append]
  rfl

theorem runs_nil : runs [] = [] := rfl

theorem runs_cons {c : Char} (hc : isContinue c = false) (cs : List Char) :
    runs (c :: cs) = runs cs := by
  simpa [runs_nil] using runs_append_cons hc [] cs

/-- The first character, if any, ends a word. -/
def Opens (cs : List Char) : Prop := ∀ c ∈ cs.head?, isContinue c = false

theorem runs_append {cs ds : List Char} (h : Opens ds) : runs (cs ++ ds) = runs cs ++ runs ds := by
  cases ds with
  | nil => simp [runs_nil]
  | cons c ds =>
    have hc : isContinue c = false := h c rfl
    rw [runs_append_cons hc, runs_cons hc]

theorem runs_concat {cs ds : List Char} {c : Char} (hc : isContinue c = false) :
    runs ((cs ++ [c]) ++ ds) = runs (cs ++ [c]) ++ runs ds := by
  rw [List.append_assoc, List.singleton_append, runs_append_cons hc, runs_append_cons hc, runs_nil,
    List.append_nil]

theorem runs_name {cs : List Char} (filled : cs ≠ []) (h : ∀ c ∈ cs, isContinue c) :
    runs cs = [cs] := by
  rw [runs, Word.pieces_of_keep h]
  simp [filled]

end Runs

section Ascii

/-- The characters of ASCII that can stand in a name. -/
def asciiRuns : List Run := [⟨0x30, 0x39, 1⟩, ⟨0x41, 0x5A, 1⟩, ⟨0x5F, 0x5F, 1⟩, ⟨0x61, 0x7A, 1⟩]

theorem covered_below {bound : Nat} {c : Char} (h : c.toNat < bound) (runs : List Run) :
    covered runs c = covered (runs.filter (·.first < bound)) c := by
  have inside : ∀ r : Run, r.covers c.toNat = (decide (r.first < bound) && r.covers c.toNat) := by
    intro r
    by_cases covers : r.covers c.toNat
    · have first : r.first ≤ c.toNat := by
        simp only [Run.covers, Bool.and_eq_true, decide_eq_true_eq] at covers
        exact covers.1.1
      simp [covers, Nat.lt_of_le_of_lt first h]
    · simp [covers]
  rw [covered, covered, List.any_filter]
  exact congrArg runs.any (funext inside)

theorem isContinue_ascii {c : Char} (h : c.toNat < 0x80) : isContinue c = covered asciiRuns c := by
  have letters : letterRuns.filter (·.first < 0x80) = [⟨0x41, 0x5A, 1⟩, ⟨0x61, 0x7A, 1⟩] := by
    decide +kernel
  have decimals : decimalRuns.filter (·.first < 0x80) = [⟨0x30, 0x39, 1⟩] := by decide +kernel
  have connectors : connectorRuns.filter (·.first < 0x80) = [⟨0x5F, 0x5F, 1⟩] := by decide +kernel
  have letterNumbers : letterNumberRuns.filter (·.first < 0x80) = [] := by decide +kernel
  have marks : markRuns.filter (·.first < 0x80) = [] := by decide +kernel
  have formats : formatRuns.filter (·.first < 0x80) = [] := by decide +kernel
  have lowLine : (c == '_') = covered [⟨0x5F, 0x5F, 1⟩] c := by
    have number : c = '_' ↔ c.toNat = 0x5F := by
      rw [← Char.toNat_inj]
      rfl
    rw [Bool.eq_iff_iff, beq_iff_eq, number]
    simp only [covered, Run.covers, List.any_cons, List.any_nil, Bool.or_false, Bool.and_eq_true,
      decide_eq_true_eq, beq_iff_eq]
    omega
  simp only [isContinue, isStart, isLetter, isLetterNumber, isDecimal, isConnector, isMark,
    isFormat]
  rw [covered_below h letterRuns, covered_below h decimalRuns, covered_below h connectorRuns,
    covered_below h letterNumberRuns, covered_below h markRuns, covered_below h formatRuns, letters,
    decimals, connectors, letterNumbers, marks, formats, lowLine]
  simp only [covered, asciiRuns, List.any_cons, List.any_nil, Bool.or_false]
  generalize Run.covers ⟨0x30, 0x39, 1⟩ c.toNat = digit
  generalize Run.covers ⟨0x41, 0x5A, 1⟩ c.toNat = capital
  generalize Run.covers ⟨0x5F, 0x5F, 1⟩ c.toNat = low
  generalize Run.covers ⟨0x61, 0x7A, 1⟩ c.toNat = small
  revert digit capital low small
  decide

theorem visible_sublist (m : Mode) (cs : List Char) : (visible m cs).Sublist cs := by
  induction cs generalizing m with
  | nil => cases m <;> exact List.nil_sublist _
  | cons c cs ih =>
    cases m with
    | code =>
      rw [visible]
      split
      · exact (ih _).cons_cons c
      · split
        · exact List.nil_sublist _
        · exact (ih _).cons_cons c
    | literal =>
      rw [visible]
      split
      · exact (ih _).cons_cons c
      · split <;> exact (ih _).cons c
    | escape => exact (ih _).cons c

/-- The words of a text of ASCII, found without the tables of letters. -/
def asciiWords (cs : List Char) : List String :=
  ((Word.pieces (covered asciiRuns) (visible .code cs)).filter (!·.isEmpty)).map String.ofList

theorem words_ascii {cs : List Char} (h : cs.all (·.toNat < 0x80)) :
    words (String.ofList cs) = asciiWords cs := by
  have ascii : ∀ c ∈ cs, c.toNat < 0x80 := by simpa using h
  rw [words, runs, asciiWords, String.toList_ofList,
    Word.pieces_congr fun c hc => isContinue_ascii (ascii c ((visible_sublist _ _).subset hc))]

end Ascii

section Pieces

/-- No quote and no slash, so that nothing of the text is hidden. -/
def IsPlain (text : String) : Prop := ∀ c ∈ text.toList, c ≠ '"' ∧ c ≠ '/'

instance (text : String) : Decidable (IsPlain text) :=
  decidable_of_iff (text.toList.all fun c => c != '"' && c != '/') (by simp [IsPlain])

theorem visible_append {cs : List Char} (plain : ∀ c ∈ cs, c ≠ '"' ∧ c ≠ '/') (ds : List Char) :
    visible .code (cs ++ ds) = cs ++ visible .code ds := by
  induction cs with
  | nil => rfl
  | cons c cs ih =>
    obtain ⟨⟨notQuote, notSlash⟩, rest⟩ := List.forall_mem_cons.mp plain
    rw [List.cons_append, visible, if_neg notQuote, if_neg fun h => notSlash h.1, ih rest,
      List.cons_append]

theorem visible_of_plain {text : String} (plain : IsPlain text) :
    visible .code text.toList = text.toList := by
  have alone := visible_append plain []
  rwa [List.append_nil, visible, List.append_nil] at alone

theorem Opens.visible {ds : List Char} (h : Opens ds) : Opens (visible .code ds) := by
  cases ds with
  | nil => exact h
  | cons c ds =>
    have hc : isContinue c = false := h c rfl
    rw [Source.visible]
    split
    · simpa [Opens] using hc
    · split
      · simp [Opens]
      · simpa [Opens] using hc

theorem isPlain_append {a b : String} : IsPlain (a ++ b) ↔ IsPlain a ∧ IsPlain b := by
  simp only [IsPlain, String.toList_append, List.forall_mem_append]

theorem IsPlain.append {a b : String} (ha : IsPlain a) (hb : IsPlain b) : IsPlain (a ++ b) :=
  isPlain_append.mpr ⟨ha, hb⟩

/-- A character of ASCII that stands in no name. -/
def isBreak (c : Char) : Bool := c.toNat < 0x80 && !covered asciiRuns c

theorem isContinue_of_isBreak {c : Char} (h : isBreak c) : isContinue c = false := by
  simp only [isBreak, Bool.and_eq_true, decide_eq_true_eq, Bool.not_eq_true'] at h
  rw [isContinue_ascii h.1, h.2]

/-- No such character stands in an identifier. -/
theorem not_mem_of_isBreak {name : String} (valid : IsValid name) {c : Char} (h : isBreak c) :
    c ∉ name.toList := by
  intro inside
  have letter := List.all_eq_true.mp (all_isContinue valid) c inside
  rw [isContinue_of_isBreak h] at letter
  cases letter

/-- A fixed piece of a line that nothing hides and whose last character breaks off a word. -/
def isLead (cs : List Char) : Bool :=
  cs.all (fun c => c.toNat < 0x80 && c != '"' && c != '/') && cs.getLast?.all isBreak

theorem words_lead {cs : List Char} (h : isLead cs) (rest : String) :
    words (String.ofList cs ++ rest) = asciiWords cs ++ words rest := by
  simp only [isLead, Bool.and_eq_true, List.all_eq_true, decide_eq_true_eq, bne_iff_ne, ne_eq] at h
  obtain ⟨each, last⟩ := h
  have ascii : cs.all (·.toNat < 0x80) := by simpa using fun c hc => (each c hc).1.1
  have plain : ∀ c ∈ cs, c ≠ '"' ∧ c ≠ '/' := fun c hc => ⟨(each c hc).1.2, (each c hc).2⟩
  have split : runs (cs ++ visible .code rest.toList) =
      runs cs ++ runs (visible .code rest.toList) := by
    rcases List.eq_nil_or_concat cs with rfl | ⟨front, c, rfl⟩
    · rfl
    · have ends : isBreak c := by simpa using last
      rw [List.concat_eq_append, runs_concat (isContinue_of_isBreak ends)]
  have alone : visible .code cs = cs := by
    simpa [visible] using visible_append plain []
  rw [← words_ascii ascii, words, words, words, String.toList_append, String.toList_ofList,
    visible_append plain, alone, split, List.map_append]

/-- A piece that begins with a character that breaks off a word. -/
def isTrail (cs : List Char) : Bool := cs.head?.any isBreak

theorem words_append {text rest : String} (plain : IsPlain text) (opens : Opens rest.toList) :
    words (text ++ rest) = words text ++ words rest := by
  rw [words, words, words, String.toList_append, visible_append plain, runs_append opens.visible,
    visible_of_plain plain, List.map_append]

theorem opens_ofList {cs : List Char} (h : isTrail cs) : Opens cs := by
  intro c hc
  rw [isTrail, hc] at h
  exact isContinue_of_isBreak h

theorem words_then {text : String} {cs : List Char} (plain : IsPlain text) (h : isTrail cs) :
    words (text ++ String.ofList cs) = words text ++ words (String.ofList cs) :=
  words_append plain (by simpa using opens_ofList h)

theorem words_then_more {text : String} {cs : List Char} (plain : IsPlain text) (h : isTrail cs)
    (rest : String) :
    words (text ++ (String.ofList cs ++ rest)) =
      words text ++ words (String.ofList cs ++ rest) := by
  refine words_append plain ?_
  rw [String.toList_append, String.toList_ofList]
  cases cs with
  | nil => cases h
  | cons c cs => exact opens_ofList h

theorem words_comment {cs : List Char} (h : ∃ ds, cs = '/' :: '/' :: ds) (rest : String) :
    words (String.ofList cs ++ rest) = [] := by
  obtain ⟨ds, rfl⟩ := h
  simp [words, visible, runs_nil]

theorem plain_of_isContinue {c : Char} (h : isContinue c) : c ≠ '"' ∧ c ≠ '/' := by
  refine ⟨?_, ?_⟩
  · rintro rfl
    exact absurd h (Bool.eq_false_iff.mp (isContinue_of_isBreak (by decide)))
  · rintro rfl
    exact absurd h (Bool.eq_false_iff.mp (isContinue_of_isBreak (by decide)))

/-- A valid name is one word. -/
theorem words_valid {name : String} (valid : IsValid name) :
    IsPlain name ∧ words name = [name] := by
  have each : ∀ c ∈ name.toList, isContinue c := List.all_eq_true.mp (all_isContinue valid)
  have filled : name.toList ≠ [] := by
    intro empty
    rw [IsValid, empty] at valid
    cases valid
  have plain : IsPlain name := fun c hc => plain_of_isContinue (each c hc)
  refine ⟨plain, ?_⟩
  rw [words, visible_of_plain plain, runs_name filled each, List.map_singleton,
    String.ofList_toList]

end Pieces

section Literals

/-- Nothing of these characters is seen inside a literal. -/
def Hidden (cs : List Char) : Prop := ∀ rest, visible .literal (cs ++ rest) = visible .literal rest

theorem Hidden.append {cs ds : List Char} (hc : Hidden cs) (hd : Hidden ds) :
    Hidden (cs ++ ds) := by
  intro rest
  rw [List.append_assoc, hc, hd]

theorem Hidden.flatMap {α : Type} {f : α → List Char} (h : ∀ a, Hidden (f a)) (as : List α) :
    Hidden (as.flatMap f) := by
  induction as with
  | nil => exact fun _ => rfl
  | cons a as ih => exact (h a).append ih

theorem hidden_escape (c : Char) : Hidden ['\\', c] := fun _ => rfl

theorem hidden_char {c : Char} (notQuote : c ≠ '"') (notEscape : c ≠ '\\') : Hidden [c] := by
  intro rest
  rw [List.singleton_append, visible, if_neg notQuote, if_neg notEscape]

theorem hidden_padded (width n : Nat) : Hidden (Hex.padded width n) := by
  have digits : ∀ d < 16, Hex.digit d ≠ '"' ∧ Hex.digit d ≠ '\\' := by decide
  induction width generalizing n with
  | zero => exact fun _ => rfl
  | succ width ih =>
    obtain ⟨notQuote, notEscape⟩ := digits (n % 16) (Nat.mod_lt n (by decide))
    exact (ih _).append (hidden_char notQuote notEscape)

theorem hidden_escapeUnit (n : Nat) : Hidden (Literal.escapeUnit n) :=
  (hidden_escape 'u').append (hidden_padded 4 n)

theorem hidden_escapeChar (c : Char) : Hidden (Literal.escapeChar c) := by
  unfold Literal.escapeChar
  split
  · exact hidden_escape _
  · next simple =>
    have notEscape : c ≠ '\\' := by
      rintro rfl
      cases simple
    have notQuote : c ≠ '"' := by
      rintro rfl
      cases simple
    split
    · exact hidden_char notQuote notEscape
    · exact .flatMap hidden_escapeUnit _

theorem hidden_escapePoints (raw : Text) : Hidden (Literal.escapePoints raw) := by
  refine .flatMap (fun point => ?_) raw.points
  cases point with
  | char c => exact hidden_escapeChar c
  | half n => exact .flatMap hidden_escapeUnit _

/-- A literal has no words, whatever it quotes. -/
theorem words_quote (raw : Text) (rest : String) :
    words (Literal.quote raw ++ rest) = words rest := by
  have quote : isContinue '"' = false := isContinue_of_isBreak (by decide)
  have hidden := hidden_escapePoints raw ('"' :: rest.toList)
  have toList : (Literal.quote raw ++ rest).toList =
      '"' :: (Literal.escapePoints raw ++ '"' :: rest.toList) := by
    simp [Literal.quote, Literal.escape]
  have shown : visible .code (Literal.quote raw ++ rest).toList =
      '"' :: '"' :: visible .code rest.toList := by
    rw [toList, visible, if_pos rfl, hidden, visible, if_pos rfl]
  rw [words, words, shown, runs_cons quote, runs_cons quote]

end Literals

end Shapewright.Source
