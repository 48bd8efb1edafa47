import Shapewright.Proofs.Identifier.Word
import Shapewright.Text.Basic

/-!
# Segments of a text

The words of a text are its runs of letters and numbers, cut before the capitals that begin a word.
Nothing else is lost, and a word that is cut again stays whole: what follows a run can only take
away the reason for a cut.
-/
namespace Shapewright.Word
open Unicode

/-- The character that a code point gives to a word. -/
def wordChar? : CodePoint → Option Char
  | .char c => if isWordChar c then some c else none
  | .half _ => none

/-- The maximal runs of letters and numbers from left to right, with gaps around them. -/
inductive RunsOf : List CodePoint → List (List Char) → Prop
  | gap {gap : List CodePoint} : (∀ p ∈ gap, wordChar? p = none) → RunsOf gap []
  | run {gap rest : List CodePoint} {run : List Char} {runs : List (List Char)} :
      (∀ p ∈ gap, wordChar? p = none) → run ≠ [] → (∀ c ∈ run, isWordChar c) →
      (∀ p ∈ rest.head?, wordChar? p = none) → RunsOf rest runs →
      RunsOf (gap ++ (run.map .char ++ rest)) (run :: runs)

/-- One of the words starts where so many characters are behind it. -/
def StartsAt (words : List (List Char)) (i : Nat) : Prop :=
  ∃ front word back, words = front ++ word :: back ∧ front.flatten.length = i

/-- A capital stands there, behind a lower case character or a digit, or behind a capital and before
a lower case character. -/
def TurnsAt (run : List Char) (i : Nat) : Prop :=
  ∃ last current, run[i - 1]? = some last ∧ run[i]? = some current ∧ isUpper current ∧
    (isLower last ∨ isDigit last ∨ isUpper last ∧ ∃ next, run[i + 1]? = some next ∧ isLower next)

section Runs
variable {p : CodePoint} {points : List CodePoint} {run : List Char} {runs : List (List Char)}

theorem isWordChar_mended (p : CodePoint) : isWordChar p.mended = (wordChar? p).isSome := by
  cases p with
  | char c => cases h : isWordChar c <;> simp [CodePoint.mended, wordChar?, h]
  | half n =>
    have outside : isWordChar '\uFFFD' = false := by decide +kernel
    exact outside

theorem wordChar?_eq_some {c : Char} : wordChar? p = some c ↔ p = .char c ∧ isWordChar c := by
  cases p with
  | char d =>
    simp only [wordChar?, Option.ite_none_right_eq_some, Option.some.injEq, CodePoint.char.injEq]
    exact ⟨fun ⟨inside, same⟩ => ⟨same, same ▸ inside⟩, fun ⟨same, inside⟩ => ⟨same ▸ inside, same⟩⟩
  | half n => simp [wordChar?]

theorem RunsOf.behind (outside : wordChar? p = none) (h : RunsOf points runs) :
    RunsOf (p :: points) runs := by
  cases h with
  | gap outsideToo => exact .gap (List.forall_mem_cons.mpr ⟨outside, outsideToo⟩)
  | run outsideToo filled inside stops rest =>
    exact .run (List.forall_mem_cons.mpr ⟨outside, outsideToo⟩) filled inside stops rest

/-- The run that a text begins with comes before the other runs, if it is not empty. -/
theorem RunsOf.led (inside : ∀ c ∈ run, isWordChar c)
    (stops : ∀ p ∈ points.head?, wordChar? p = none) {others : List (List Char)}
    (h : RunsOf points (others.filter (!·.isEmpty))) :
    RunsOf (run.map .char ++ points) ((run :: others).filter (!·.isEmpty)) := by
  cases run with
  | nil => exact h
  | cons c run =>
    have nothing : ∀ p ∈ ([] : List CodePoint), wordChar? p = none := by simp
    exact .run nothing (List.cons_ne_nil c run) inside stops h

/-- The first piece of a text is what it begins with, and the other pieces hold the runs of the
rest. -/
theorem pieces_led (points : List CodePoint) :
    ∃ run rest others, pieces isWordChar (points.map CodePoint.mended) = run :: others ∧
      points = run.map .char ++ rest ∧
      (∀ c ∈ run, isWordChar c) ∧ (∀ p ∈ rest.head?, wordChar? p = none) ∧
      RunsOf rest (others.filter (!·.isEmpty)) := by
  induction points with
  | nil => exact ⟨[], [], [], rfl, rfl, by simp, by simp, .gap (by simp)⟩
  | cons p points ih =>
    obtain ⟨run, rest, others, cut, whole, inside, stops, later⟩ := ih
    rw [List.map_cons, pieces, isWordChar_mended, cut]
    cases found : wordChar? p with
    | none =>
      refine ⟨[], p :: points, run :: others, rfl, rfl, by simp, by simpa using found, ?_⟩
      rw [whole]
      exact (later.led inside stops).behind found
    | some c =>
      obtain ⟨rfl, first⟩ := wordChar?_eq_some.mp found
      exact ⟨c :: run, rest, others,
        rfl, by rw [whole]; rfl, List.forall_mem_cons.mpr ⟨first, inside⟩, stops, later⟩

theorem runsOf_runs (raw : Text) : RunsOf raw.points (Word.runs raw.mended.toList) := by
  obtain ⟨run, rest, others, cut, whole, inside, stops, later⟩ := pieces_led raw.points
  rw [Text.mended, String.toList_ofList, Word.runs, cut, whole]
  exact later.led inside stops

theorem filterMap_wordChar? (inside : ∀ c ∈ run, isWordChar c) :
    (run.map CodePoint.char).filterMap wordChar? = run := by
  induction run with
  | nil => rfl
  | cons c run ih =>
    obtain ⟨first, rest⟩ := List.forall_mem_cons.mp inside
    rw [List.map_cons, List.filterMap_cons_some (wordChar?_eq_some.mpr ⟨rfl, first⟩), ih rest]

/-- The runs hold what stands outside the gaps. -/
theorem RunsOf.flatten (h : RunsOf points runs) : runs.flatten = points.filterMap wordChar? := by
  induction h with
  | gap outside => exact (List.filterMap_eq_nil_iff.mpr outside).symm
  | @run gap rest run runs outside _ inside _ _ ih =>
    rw [List.filterMap_append, List.filterMap_append, List.filterMap_eq_nil_iff.mpr outside,
      filterMap_wordChar? inside, List.flatten_cons, ih, List.nil_append]

theorem RunsOf.ne_nil (h : RunsOf points runs) : ∀ run ∈ runs, run ≠ [] := by
  induction h with
  | gap => simp
  | run _ filled _ _ _ ih => exact List.forall_mem_cons.mpr ⟨filled, ih⟩

end Runs

section Split
variable {words : List (List Char)} {run word : List Char} {c d : Char} {rest : List Char} {i : Nat}

theorem split_ne_nil (run : List Char) : split run ≠ [] := by
  unfold split
  split
  · exact List.cons_ne_nil _ _
  · exact List.cons_ne_nil _ _
  · split
    · exact List.cons_ne_nil _ _
    · split <;> exact List.cons_ne_nil _ _

/-- A longer run is cut behind its first character, or that character goes to the first word of the
rest. -/
theorem split_cons_cons (c d : Char) (rest : List Char) :
    ∃ w ws, split (d :: rest) = w :: ws ∧
      split (c :: d :: rest) = if breaksBefore c d rest.head? then [c] :: w :: ws
        else (c :: w) :: ws := by
  obtain ⟨w, ws, cut⟩ := List.exists_cons_of_ne_nil (split_ne_nil (d :: rest))
  exact ⟨w, ws, cut, by rw [split, cut]⟩

@[simp] theorem flatten_split (run : List Char) : (split run).flatten = run := by
  induction run with
  | nil => rfl
  | cons c run ih =>
    cases run with
    | nil => rfl
    | cons d rest =>
      obtain ⟨w, ws, cut, whole⟩ := split_cons_cons c d rest
      have joined : w ++ ws.flatten = d :: rest := by rw [← List.flatten_cons, ← cut, ih]
      rw [whole]
      split <;> simp [joined]

theorem ne_nil_of_mem_split (filled : run ≠ []) (h : word ∈ split run) : word ≠ [] := by
  induction run generalizing word with
  | nil => exact absurd rfl filled
  | cons c run ih =>
    cases run with
    | nil => exact List.mem_singleton.mp h ▸ List.cons_ne_nil c []
    | cons d rest =>
      obtain ⟨w, ws, cut, whole⟩ := split_cons_cons c d rest
      rw [cut] at ih
      rw [whole] at h
      split at h
      · rcases List.mem_cons.mp h with rfl | h
        · exact List.cons_ne_nil c []
        · exact ih (List.cons_ne_nil d rest) h
      · rcases List.mem_cons.mp h with rfl | h
        · exact List.cons_ne_nil c w
        · exact ih (List.cons_ne_nil d rest) (List.mem_cons_of_mem w h)

/-- A cut that needs nothing behind it is made whatever comes there. -/
theorem breaksBefore_of_none {next : Option Char} (h : breaksBefore c d none) :
    breaksBefore c d next := by
  simp only [breaksBefore, Option.any_none, Bool.and_false, Bool.or_false, Bool.and_eq_true] at h
  simp only [breaksBefore, h, Bool.true_or, Bool.and_self]

/-- Where a longer run is not cut, neither is one that ends earlier. -/
theorem not_breaksBefore_of_append {more : List Char}
    (h : ¬ breaksBefore c d (rest ++ more).head?) :
    ¬ breaksBefore c d rest.head? := by
  cases rest with
  | nil => exact fun breaks => h (breaksBefore_of_none breaks)
  | cons e rest => exact h

/-- Inside the first word of the rest a character in front of it is looked at with less behind
it. -/
theorem split_cons_first {ws : List (List Char)} (cut : split (d :: rest) = word :: ws)
    (whole : split word = [word]) (uncut : ¬ breaksBefore c d rest.head?) :
    split (c :: word) = [c :: word] := by
  have joined : word ++ ws.flatten = d :: rest := by rw [← List.flatten_cons, ← cut, flatten_split]
  have filled : word ≠ [] :=
    ne_nil_of_mem_split (List.cons_ne_nil d rest) (cut ▸ List.mem_cons_self)
  obtain ⟨e, front, rfl⟩ := List.exists_cons_of_ne_nil filled
  obtain ⟨rfl, rfl⟩ := List.cons.inj joined
  obtain ⟨v, vs, alone, again⟩ := split_cons_cons c e front
  obtain ⟨rfl, rfl⟩ := List.cons.inj (alone.symm.trans whole)
  rw [again, if_neg (not_breaksBefore_of_append uncut)]

theorem split_of_mem_split (h : word ∈ split run) : split word = [word] := by
  induction run generalizing word with
  | nil => rw [List.mem_singleton.mp h]; rfl
  | cons c run ih =>
    cases run with
    | nil => rw [List.mem_singleton.mp h]; rfl
    | cons d rest =>
      obtain ⟨w, ws, cut, whole⟩ := split_cons_cons c d rest
      rw [cut] at ih
      rw [whole] at h
      split at h
      · rcases List.mem_cons.mp h with rfl | h
        · rfl
        · exact ih h
      · next uncut =>
        rcases List.mem_cons.mp h with rfl | h
        · exact split_cons_first cut (ih List.mem_cons_self) uncut
        · exact ih (List.mem_cons_of_mem w h)

theorem startsAt_cons :
    StartsAt (word :: words) i ↔ i = 0 ∨ ∃ j, StartsAt words j ∧ i = word.length + j := by
  constructor
  · rintro ⟨front, first, back, whole, rfl⟩
    cases front with
    | nil => exact .inl rfl
    | cons w front =>
      obtain ⟨rfl, rest⟩ := List.cons.inj whole
      exact .inr ⟨_, ⟨front, first, back, rest, rfl⟩, by simp⟩
  · rintro (rfl | ⟨j, ⟨front, first, back, rfl, rfl⟩, rfl⟩)
    · exact ⟨[], word, words, rfl, rfl⟩
    · exact ⟨word :: front, first, back, rfl, by simp⟩

theorem not_startsAt_nil : ¬ StartsAt [] i := by
  rintro ⟨front, word, back, whole, -⟩
  simp at whole

/-- Behind a word of one character the others start one place later. -/
theorem startsAt_cut : StartsAt ([c] :: words) (i + 1) ↔ StartsAt words i := by
  rw [startsAt_cons]
  constructor
  · rintro (none | ⟨j, starts, place⟩)
    · cases none
    · rw [List.length_singleton, Nat.add_comm 1 j] at place
      exact Nat.succ_inj.mp place ▸ starts
  · exact fun starts => .inr ⟨i, starts, Nat.add_comm i 1⟩

/-- A character more in the first word moves the others one place on. -/
theorem startsAt_joined (filled : word ≠ []) :
    StartsAt ((c :: word) :: words) (i + 1) ↔ 0 < i ∧ StartsAt (word :: words) i := by
  have long : 0 < word.length := List.length_pos_iff.mpr filled
  rw [startsAt_cons, startsAt_cons]
  constructor
  · rintro (none | ⟨j, starts, place⟩)
    · cases none
    · rw [List.length_cons] at place
      exact ⟨by omega, .inr ⟨j, starts, by omega⟩⟩
  · rintro ⟨later, none | ⟨j, starts, place⟩⟩
    · exact absurd none (Nat.ne_of_gt later)
    · exact .inr ⟨j, starts, by rw [List.length_cons]; omega⟩

theorem turnsAt_one : TurnsAt (c :: d :: rest) 1 ↔ breaksBefore c d rest.head? := by
  simp [TurnsAt, breaksBefore, List.head?_eq_getElem?, Option.any_eq_true, or_assoc]

theorem turnsAt_succ (behind : 0 < i) : TurnsAt (c :: run) (i + 1) ↔ TurnsAt run i := by
  obtain ⟨j, rfl⟩ := Nat.exists_eq_add_one.mpr behind
  exact Iff.rfl

/-- Behind the first character of a run a word starts exactly where the case turns. -/
theorem startsAt_split_iff (behind : 0 < i) : StartsAt (split run) i ↔ TurnsAt run i := by
  induction run generalizing i with
  | nil => simp [split, startsAt_cons, not_startsAt_nil, TurnsAt, Nat.ne_of_gt behind]
  | cons c run ih =>
    obtain ⟨j, rfl⟩ := Nat.exists_eq_add_one.mpr behind
    cases run with
    | nil => simp [split, startsAt_cons, not_startsAt_nil, TurnsAt]
    | cons d rest =>
      obtain ⟨w, ws, cut, whole⟩ := split_cons_cons c d rest
      have filled : w ≠ [] :=
        ne_nil_of_mem_split (List.cons_ne_nil d rest) (cut ▸ List.mem_cons_self)
      have first : StartsAt (w :: ws) 0 := startsAt_cons.mpr (.inl rfl)
      rw [cut] at ih
      rw [whole]
      rcases Nat.eq_zero_or_pos j with rfl | later
      · rw [turnsAt_one]
        split
        · next breaks => exact iff_of_true (startsAt_cut.mpr first) breaks
        · next uncut =>
            exact iff_of_false
              (fun starts => absurd ((startsAt_joined filled).mp starts).1 (by simp)) uncut
      · rw [turnsAt_succ later, ← ih later]
        split
        · exact startsAt_cut
        · exact (startsAt_joined filled).trans (and_iff_right later)

end Split

/-- The words of a text are its maximal runs cut exactly where the case turns. They
hold all letters and numbers in their order and nothing else, none of them is empty,
and none of them is cut again. -/
theorem words_segment (raw : Text) :
    RunsOf raw.points (runs raw.mended.toList) ∧
      words raw.mended.toList = (runs raw.mended.toList).flatMap split ∧
      (∀ run ∈ runs raw.mended.toList, ∀ i, 0 < i → (StartsAt (split run) i ↔ TurnsAt run i)) ∧
      (words raw.mended.toList).flatten = raw.points.filterMap wordChar? ∧
      ∀ word ∈ words raw.mended.toList, word ≠ [] ∧ split word = [word] := by
  have isRuns := runsOf_runs raw
  refine ⟨isRuns, rfl, fun run _ i behind => startsAt_split_iff behind, ?_, fun word inside => ?_⟩
  · rw [← isRuns.flatten, words, List.flatMap_def, List.flatten_flatten, List.map_map]
    simp [Function.comp_def]
  · obtain ⟨run, isRun, inside⟩ := List.mem_flatMap.mp inside
    exact ⟨ne_nil_of_mem_split (isRuns.ne_nil run isRun) inside, split_of_mem_split inside⟩

example : words "HTTPServer_v2Id".toList = ["HTTP", "Server", "v2", "Id"].map String.toList := by
  decide +kernel

end Shapewright.Word
