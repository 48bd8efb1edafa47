import Shapewright.Proofs.Result
import Shapewright.Proofs.Toml.Sections

/-!
# Statements

The lines that a table of sections is written in are read one after another, each as the statement
it was written for.
-/
namespace Shapewright.Toml
open Result

theorem ne_of_isBareChar {c d : Char} (h : isBareChar c) (other : isBareChar d = false) :
    c ≠ d := by
  rintro rfl
  rw [other] at h
  cases h

theorem not_blank_of_isBareChar {c : Char} (h : isBareChar c) : isBlank c = false := by
  simp [isBlank, ne_of_isBareChar h (d := ' ') rfl, ne_of_isBareChar h (d := '\t') rfl]

theorem skipBlanks_of_not {c : Char} (h : isBlank c = false) (cs : List Char) :
    skipBlanks (c :: cs) = c :: cs :=
  List.dropWhile_cons_of_neg (by simp [h])

theorem IsBare.trimmed {key : String} (bare : IsBare key) {blanks : List Char}
    (blank : ∀ c ∈ blanks, isBlank c) :
    trimBlanks (key.toList ++ blanks) = key.toList := by
  have notBlank : ∀ c ∈ key.toList, isBlank c = false :=
    fun c inside => not_blank_of_isBareChar (bare.all c inside)
  have front : skipBlanks (key.toList ++ blanks) = key.toList ++ blanks := by
    obtain ⟨k, ks, letters⟩ := List.exists_cons_of_ne_nil bare.filled
    rw [letters, List.cons_append, skipBlanks_of_not (notBlank k (letters ▸ List.mem_cons_self))]
  have back : (key.toList.reverse).dropWhile isBlank = key.toList.reverse := by
    obtain ⟨k, ks, letters⟩ := List.exists_cons_of_ne_nil (List.reverse_ne_nil_iff.mpr bare.filled)
    have last := notBlank k (List.mem_reverse.mp (letters ▸ List.mem_cons_self))
    rw [letters, List.dropWhile_cons_of_neg (by simp [last])]
  have behind : ∀ c ∈ blanks.reverse, isBlank c :=
    fun c inside => blank c (List.mem_reverse.mp inside)
  rw [trimBlanks, front, List.reverse_append, List.dropWhile_append_of_pos behind, back,
    List.reverse_reverse]

/-- A bare key is read up to what cannot belong to one, with the blanks behind it. -/
theorem readKey_bare {key : String} (bare : IsBare key) (blanks : List Char)
    (blank : ∀ c ∈ blanks, isBlank c) {c : Char} (ends : (isBareKeyChar c || isBlank c) = false)
    (notDot : c ≠ '.') (rest : List Char) :
    readKey maxDepth (key.toList ++ blanks ++ c :: rest) = .ok ([key], c :: rest) := by
  have run : (key.toList ++ blanks ++ c :: rest).takeWhile (fun c => isBareKeyChar c || isBlank c) =
      key.toList ++ blanks := by
    rw [List.takeWhile_append_of_pos, List.takeWhile_cons_of_neg (by simp [ends]), List.append_nil]
    intro d inside
    rcases List.mem_append.mp inside with inside | inside
    · have kept : isBareKeyChar d := bare.all d inside
      simp [kept]
    · simp [blank d inside]
  have notEmpty : key.toList.isEmpty = false := List.isEmpty_eq_false_iff.mpr bare.filled
  have noBlank : key.toList.any isBlank = false := by
    simpa using fun d inside => not_blank_of_isBareChar (bare.all d inside)
  have part : readKeyPart (key.toList ++ blanks ++ c :: rest) = .ok (key, c :: rest) := by
    obtain ⟨k, ks, letters⟩ := List.exists_cons_of_ne_nil bare.filled
    have first : isBareChar k := bare.all k (letters ▸ List.mem_cons_self)
    have front : skipBlanks (key.toList ++ blanks ++ c :: rest) =
        k :: (ks ++ blanks ++ c :: rest) := by
      rw [letters, List.cons_append, List.cons_append,
        skipBlanks_of_not (not_blank_of_isBareChar first)]
    have whole : k :: (ks ++ blanks ++ c :: rest) = key.toList ++ blanks ++ c :: rest := by
      rw [letters]; rfl
    rw [readKeyPart, front]
    simp only [ne_of_isBareChar first (d := '"') rfl, ne_of_isBareChar first (d := '\'') rfl,
      decide_false, if_false, whole, run, bare.trimmed blank, notEmpty, noBlank, Bool.or_false,
      Bool.false_eq_true, String.ofList_toList, List.drop_left, pure_eq]
  change readKey (99 + 1) _ = _
  rw [readKey, part]
  simp only [ok_bind]
  split
  · next dot => exact absurd (List.cons.inj dot).1 notDot
  · rfl

theorem readPair_line {e : String × Value} (bare : IsBare e.1)
    (written : Written maxDepth (inlineText true e.2).toList e.2) (rest : List Char) :
    readPair ((lineText e).toList ++ rest) = .ok (.assign [e.1] e.2, rest) := by
  have text : (lineText e).toList ++ rest =
      e.1.toList ++ [' '] ++ '=' :: ' ' :: ((inlineText true e.2).toList ++ '\n' :: rest) := by
    simp [lineText]
  have key := readKey_bare bare [' '] (by simp [isBlank]) (c := '=') rfl (by decide)
    (' ' :: ((inlineText true e.2).toList ++ '\n' :: rest))
  have equals : readEquals ('=' :: ' ' :: ((inlineText true e.2).toList ++ '\n' :: rest)) =
      .ok ((inlineText true e.2).toList ++ '\n' :: rest) := by
    obtain ⟨c, cs, led, plain⟩ := written.led
    have notBlank : isBlank c = false := by
      simp only [List.mem_cons, List.not_mem_nil, or_false, not_or] at plain
      simp [isBlank, plain]
    rw [readEquals, skipBlanks_of_not rfl, led]
    exact congrArg Except.ok (skipBlanks_of_not notBlank _)
  have value := written.read ('\n' :: rest) ⟨'\n', rest, rfl, by decide⟩
    (2 * ((inlineText true e.2).toList ++ '\n' :: rest).length + 1) maxDepth
    (by simp only [List.length_append]; omega) (Nat.le_refl _)
  rw [text, readPair, key]
  simp only [ok_bind, equals, value]
  rfl

theorem readStatements_line {e : String × Value} (bare : IsBare e.1)
    (written : Written maxDepth (inlineText true e.2).toList e.2) (fuel : Nat) (rest : List Char) :
    readStatements (fuel + 1) ((lineText e).toList ++ rest) =
      .assign [e.1] e.2 :: readStatements fuel rest := by
  have pair := readPair_line bare written rest
  obtain ⟨k, ks, letters⟩ := List.exists_cons_of_ne_nil bare.filled
  have first : isBareChar k := bare.all k (letters ▸ List.mem_cons_self)
  have text : ∃ more, (lineText e).toList ++ rest = k :: more := by simp [lineText, letters]
  obtain ⟨more, text⟩ := text
  have kept : (k :: more).dropWhile (fun c => isBlank c || c = '\n') = k :: more := by
    refine List.dropWhile_cons_of_neg ?_
    simp [not_blank_of_isBareChar first, ne_of_isBareChar first (d := '\n') rfl]
  have notHeader : k ≠ '[' := ne_of_isBareChar first rfl
  rw [text] at pair ⊢
  rw [readStatements, kept]
  split
  · next empty => cases empty
  · next comment => exact absurd (List.cons.inj comment).1 (ne_of_isBareChar first rfl)
  · next led =>
    cases led
    rw [if_neg notHeader, readAssign, pair]

theorem readStatements_header {name : String} (bare : IsBare name) (earlier : Bool) (fuel : Nat)
    (rest : List Char) :
    readStatements (fuel + 1) ((setOff earlier ++ "[" ++ name ++ "]\n").toList ++ rest) =
      .header false [name] none :: readStatements fuel rest := by
  have key := readKey_bare bare [] nofun (c := ']') rfl (by decide) ('\n' :: rest)
  rw [List.append_nil] at key
  have skipped : ((setOff earlier ++ "[" ++ name ++ "]\n").toList ++ rest).dropWhile
      (fun c => isBlank c || c = '\n') = '[' :: (name.toList ++ ']' :: '\n' :: rest) := by
    cases earlier <;> simp [setOff, isBlank]
  obtain ⟨k, ks, letters⟩ := List.exists_cons_of_ne_nil bare.filled
  have notArray : k ≠ '[' := ne_of_isBareChar (bare.all k (letters ▸ List.mem_cons_self)) rfl
  have header : readHeader (name.toList ++ ']' :: '\n' :: rest) = (.header false [name] none,
      some rest) := by
    rw [letters, List.cons_append] at key ⊢
    unfold readHeader
    split
    next isArray cs split =>
    obtain ⟨rfl, rfl⟩ : isArray = false ∧ cs = k :: (ks ++ ']' :: '\n' :: rest) := by
      revert split
      split
      · next array => exact absurd (List.cons.inj array).1 notArray
      · rintro ⟨⟩
        exact ⟨rfl, rfl⟩
    rw [key]
    rfl
  rw [readStatements, skipped]
  simp [header]

/-- A line that says something to people alone. -/
def commentLine (note : String) : String := "#" ++ note ++ "\n"

theorem readLineEnd_comment {note : List Char} (calm : IsCalm note) (rest : List Char) :
    readLineEnd ('#' :: (note ++ '\n' :: rest)) = .ok rest := by
  have before : (note ++ '\n' :: rest).takeWhile (· ≠ '\n') = note := by
    rw [List.takeWhile_append_of_pos, List.takeWhile_cons_of_neg (by simp), List.append_nil]
    intro c inside
    have apart : c ≠ '\n' := by
      rintro rfl
      exact absurd (calm _ inside) (by decide)
    simpa using apart
  have plain : note.any isControl = false := by simpa [IsCalm] using calm
  rw [readLineEnd, skipBlanks_of_not rfl]
  simp only [before, plain, Bool.false_eq_true, if_false, List.drop_left, List.drop_one,
    List.tail_cons]

theorem readStatements_comments {notes : List String} (calm : ∀ note ∈ notes, IsCalm note.toList)
    (fuel : Nat) (rest : List Char) :
    readStatements (notes.length + fuel) ((String.join (notes.map commentLine)).toList ++ rest) =
      readStatements fuel rest := by
  induction notes with
  | nil => simp
  | cons note notes ih =>
    have others := ih fun n inside => calm n (List.mem_cons_of_mem _ inside)
    have text (more : List Char) :
        (commentLine note).toList ++ more = '#' :: (note.toList ++ '\n' :: more) := by
      simp [commentLine]
    have led (more : List Char) :
        ('#' :: more).dropWhile (fun c => isBlank c || c = '\n') = '#' :: more :=
      List.dropWhile_cons_of_neg (by decide)
    rw [List.map_cons, String.join_cons, String.toList_append, List.append_assoc, text,
      List.length_cons, Nat.add_right_comm, readStatements, led]
    simp only [readLineEnd_comment (calm note List.mem_cons_self), others]

theorem length_comments_le (notes : List String) :
    notes.length ≤ (String.join (notes.map commentLine)).toList.length := by
  induction notes with
  | nil => exact Nat.zero_le _
  | cons note notes ih =>
    have line : 0 < (commentLine note).toList.length :=
      List.length_pos_of_mem (by simp [commentLine] : '\n' ∈ (commentLine note).toList)
    simp only [List.map_cons, List.length_cons, String.join_cons, String.toList_append,
      List.length_append] at ih ⊢
    omega

def assigns (entries : Table) : List Statement := entries.map fun e => .assign [e.1] e.2

def statementsOf (sections : List (String × Table)) : List Statement :=
  sections.flatMap fun s => .header false [s.1] none :: assigns s.2

theorem readStatements_lines {entries : Table} (flat : ∀ e ∈ entries, IsBare e.1 ∧
      Written maxDepth (inlineText true e.2).toList e.2) (fuel : Nat) (rest : List Char) :
    readStatements (entries.length + fuel) ((String.join (entries.map lineText)).toList ++ rest) =
      assigns entries ++ readStatements fuel rest := by
  induction entries with
  | nil => simp [assigns]
  | cons e es ih =>
    obtain ⟨bare, written⟩ := flat e List.mem_cons_self
    have others := ih fun f inside => flat f (List.mem_cons_of_mem _ inside)
    rw [List.map_cons, String.join_cons, String.toList_append, List.append_assoc, List.length_cons,
      Nat.add_right_comm, readStatements_line bare written, others]
    rfl

/-- Every statement takes up a line. -/
theorem length_assigns_le (entries : Table) :
    (assigns entries).length ≤ (String.join (entries.map lineText)).toList.length := by
  induction entries with
  | nil => exact Nat.zero_le _
  | cons e es ih =>
    have line : 0 < (lineText e).toList.length :=
      List.length_pos_of_mem (by simp [lineText] : '\n' ∈ (lineText e).toList)
    simp only [assigns, List.map_cons, List.length_cons, String.join_cons, String.toList_append,
      List.length_append]
      at ih ⊢
    omega

theorem length_statementsOf_le (sections : List (String × Table)) (earlier : Bool) :
    (statementsOf sections).length ≤ (documentText earlier sections).toList.length := by
  induction sections generalizing earlier with
  | nil => exact Nat.zero_le _
  | cons s sections ih =>
    have lines := length_assigns_le s.2
    have others := ih true
    simp only [statementsOf, documentText, sectionText, List.flatMap_cons, List.length_append,
      List.length_cons, String.toList_append] at lines others ⊢
    have bracket : 0 < "[".toList.length := by decide
    omega

theorem readStatements_document {sections : List (String × Table)}
    (h : ∀ s ∈ sections, IsBare s.1 ∧ IsFlat s.2) (written : AllWritten sections) (earlier : Bool)
    (fuel : Nat) (enough : (statementsOf sections).length < fuel) :
    readStatements fuel (documentText earlier sections).toList = statementsOf sections := by
  induction sections generalizing earlier fuel with
  | nil =>
    obtain ⟨fuel, rfl⟩ := Nat.exists_eq_succ_of_ne_zero (Nat.ne_zero_of_lt enough)
    rfl
  | cons s sections ih =>
    obtain ⟨bare, flat⟩ := h s List.mem_cons_self
    have count : (statementsOf (s :: sections)).length =
        1 + s.2.length + (statementsOf sections).length := by
      simp only [statementsOf, assigns, List.flatMap_cons, List.length_append, List.length_cons,
        List.length_map]
      omega
    obtain ⟨left, rfl⟩ := Nat.exists_eq_add_of_lt enough
    have others := ih (fun t inside => h t (List.mem_cons_of_mem _ inside))
      (fun t inside => written t (List.mem_cons_of_mem _ inside)) true
      ((statementsOf sections).length + left + 1) (by omega)
    have lines :=
      readStatements_lines
        (fun e inside => ⟨flat.bare e inside, written s List.mem_cons_self e inside⟩)
      ((statementsOf sections).length + left + 1) (documentText true sections).toList
    have fuel : (statementsOf (s :: sections)).length + left + 1 =
        s.2.length + ((statementsOf sections).length + left + 1) + 1 := by omega
    rw [documentText, sectionText, String.toList_append, String.toList_append, List.append_assoc,
      fuel, readStatements_header bare, lines, others]
    rfl

end Shapewright.Toml
