import Shapewright.Layout.Basic

/-!
# Calm operations

Operations that never give up write lines that can be told in advance: `allLines` gives them for
each level to start from. A run of calm operations writes exactly those and comes back to its level.
-/
namespace Shapewright.Layout

mutual
/-- Whether nothing inside gives up. -/
def Op.isCalm : Op → Bool
  | .block _ body => allCalm body
  | .indented body => allCalm body
  | .separated parts => partsCalm parts
  | .attempt body => allCalm body
  | .raise => false
  | .line _ | .lines _ | .blank | .level => true

def allCalm : List Op → Bool
  | [] => true
  | op :: ops => op.isCalm && allCalm ops

def partsCalm : List (List Op) → Bool
  | [] => true
  | part :: parts => allCalm part && partsCalm parts
end

/-- A line of that text; a blank one has no level. -/
def lineAt (level : Nat) (text : String) : Line := if text.isEmpty then ⟨0, ""⟩ else ⟨level, text⟩

mutual
/-- The lines of a calm operation that starts at a level. -/
def Op.linesAt (level : Nat) : Op → List Line
  | .line text => [lineAt level text]
  | .lines texts => texts.map (lineAt level)
  | .blank => [lineAt level ""]
  | .block header body => header.toList.map (lineAt level) ++ [lineAt level "\x7b"] ++
      allLines (level + 1) body ++ [lineAt level "\x7d"]
  | .indented body => allLines (level + 1) body
  | .separated parts => partsLines true level parts
  | .attempt body => allLines level body
  | .level | .raise => []

def allLines (level : Nat) : List Op → List Line
  | [] => []
  | op :: ops => op.linesAt level ++ allLines level ops

def partsLines (first : Bool) (level : Nat) : List (List Op) → List Line
  | [] => []
  | part :: parts =>
    (if first then [] else [lineAt level ""]) ++ allLines level part ++ partsLines false level parts
end

theorem allCalm_eq (ops : List Op) : allCalm ops = ops.all Op.isCalm := by
  induction ops with
  | nil => rfl
  | cons op ops ih => rw [allCalm, ih, List.all_cons]

theorem partsCalm_eq (parts : List (List Op)) : partsCalm parts = parts.all allCalm := by
  induction parts with
  | nil => rfl
  | cons part parts ih => rw [partsCalm, ih, List.all_cons]

theorem allLines_eq (level : Nat) (ops : List Op) :
    allLines level ops = ops.flatMap (Op.linesAt level) := by
  induction ops with
  | nil => rfl
  | cons op ops ih => rw [allLines, ih, List.flatMap_cons]

@[simp] theorem text_lineAt (level : Nat) (text : String) : (lineAt level text).text = text := by
  unfold lineAt
  split
  · next empty => exact (String.isEmpty_iff.mp empty).symm
  · rfl

theorem allLines_append (level : Nat) (ops more : List Op) :
    allLines level (ops ++ more) = allLines level ops ++ allLines level more := by
  simp only [allLines_eq, List.flatMap_append]

theorem map_text_lines {α : Type} (level : Nat) (text : α → String) (as : List α) :
    (allLines level (as.map fun a => .line (text a))).map (·.text) = as.map text := by
  induction as with
  | nil => rfl
  | cons a as ih => simp [allLines, Op.linesAt, ih]

/-- A line that is not blank and at least as deep as a level, or blank. -/
def Line.IsWithin (level : Nat) (l : Line) : Prop := l.text = "" ∨ level ≤ l.level

theorem lineAt_within {level deeper : Nat} (h : level ≤ deeper) (text : String) :
    (lineAt deeper text).IsWithin level := by
  unfold lineAt
  split
  · exact .inl rfl
  · exact .inr h

mutual
/-- Everything that is written from a level on stands at that level or deeper. -/
theorem Op.exists_lineAt {level : Nat} :
    ∀ (op : Op), ∀ l ∈ op.linesAt level, ∃ deeper text, level ≤ deeper ∧ l = lineAt deeper text
  | .line text, l, hl => ⟨level, text, Nat.le_refl _, List.mem_singleton.mp hl⟩
  | .lines texts, l, hl => by
    obtain ⟨text, -, rfl⟩ := List.mem_map.mp hl
    exact ⟨level, text, Nat.le_refl _, rfl⟩
  | .blank, l, hl => ⟨level, "", Nat.le_refl _, List.mem_singleton.mp hl⟩
  | .block header body, l, hl => by
    simp only [Op.linesAt, List.mem_append, List.mem_map, List.mem_singleton] at hl
    rcases hl with ((⟨text, -, rfl⟩ | rfl) | hl) | rfl
    · exact ⟨level, text, Nat.le_refl _, rfl⟩
    · exact ⟨level, "\x7b", Nat.le_refl _, rfl⟩
    · obtain ⟨deeper, text, below, rfl⟩ := exists_lineAt body l hl
      exact ⟨deeper, text, Nat.le_of_succ_le below, rfl⟩
    · exact ⟨level, "\x7d", Nat.le_refl _, rfl⟩
  | .indented body, l, hl => by
    obtain ⟨deeper, text, below, rfl⟩ := exists_lineAt body l hl
    exact ⟨deeper, text, Nat.le_of_succ_le below, rfl⟩
  | .separated parts, l, hl => parts_exists_lineAt true parts l hl
  | .attempt body, l, hl => exists_lineAt body l hl
  | .level, l, hl => by cases hl
  | .raise, l, hl => by cases hl

theorem exists_lineAt {level : Nat} :
    ∀ (ops : List Op), ∀ l ∈ allLines level ops, ∃ deeper text, level ≤ deeper ∧
      l = lineAt deeper text
  | [], l, hl => by cases hl
  | op :: ops, l, hl => by
    rcases List.mem_append.mp hl with hl | hl
    · exact Op.exists_lineAt op l hl
    · exact exists_lineAt ops l hl

theorem parts_exists_lineAt {level : Nat} (first : Bool) : ∀ (parts : List (List Op)),
    ∀ l ∈ partsLines first level parts, ∃ deeper text, level ≤ deeper ∧ l = lineAt deeper text
  | [], l, hl => by cases hl
  | part :: parts, l, hl => by
    simp only [partsLines, List.mem_append] at hl
    rcases hl with (hl | hl) | hl
    · cases first
      · exact ⟨level, "", Nat.le_refl _, List.mem_singleton.mp hl⟩
      · cases hl
    · exact exists_lineAt part l hl
    · exact parts_exists_lineAt false parts l hl
end

theorem allLines_within {level : Nat} {ops : List Op} :
    ∀ l ∈ allLines level ops, l.IsWithin level := by
  intro l hl
  obtain ⟨deeper, text, below, rfl⟩ := exists_lineAt ops l hl
  exact lineAt_within below text

/-- The lines of a block at a level: a header, and a body in braces that stays deeper. -/
structure IsBlock (level : Nat) (header : String) (body block : List Line) : Prop where
  braced : block = [⟨level, header⟩, ⟨level, "\x7b"⟩] ++ body ++ [⟨level, "\x7d"⟩]
  deeper : ∀ l ∈ body, l.IsWithin (level + 1)

theorem linesAt_block {header : String} (filled : header.isEmpty = false) (level : Nat)
    (body : List Op) :
    IsBlock level header (allLines (level + 1) body)
      ((Op.block (some header) body).linesAt level) := by
  have head : lineAt level header = ⟨level, header⟩ := by simp [lineAt, filled]
  refine ⟨?_, allLines_within⟩
  rw [Op.linesAt, Option.toList, List.map_singleton, head]
  rfl

/-- Each part stands as a whole among the lines of all parts. -/
theorem partsLines_split {part : List Op} {parts : List (List Op)} (h : part ∈ parts) (first : Bool)
    (level : Nat) :
    ∃ before after, partsLines first level parts = before ++ allLines level part ++ after := by
  induction parts generalizing first with
  | nil => cases h
  | cons other parts ih =>
    rcases List.mem_cons.mp h with rfl | h
    · exact ⟨_, _, rfl⟩
    · obtain ⟨before, after, rest⟩ := ih h false
      rw [partsLines, rest]
      exact ⟨_, after, by rw [← List.append_assoc, ← List.append_assoc]⟩

variable {w v : Writer} {ls more : List Line} {level : Nat}

@[simp] theorem Writer.lines_line (w : Writer) (text : String) :
    (w.line text).lines = w.lines ++ [lineAt w.level text] := by
  simp [line, lines, lineAt]

/-- `v` has gone on from `w` at the same level and has written these lines. -/
structure Wrote (w : Writer) (ls : List Line) (v : Writer) : Prop where
  level : v.level = w.level
  lines : v.lines = w.lines ++ ls

theorem Wrote.refl (w : Writer) : Wrote w [] w := ⟨rfl, (List.append_nil _).symm⟩

theorem Wrote.trans {u : Writer} (first : Wrote w ls v) (second : Wrote v more u) :
    Wrote w (ls ++ more) u :=
  ⟨second.level.trans first.level, by rw [second.lines, first.lines, List.append_assoc]⟩

theorem wrote_line (w : Writer) (text : String) : Wrote w [lineAt w.level text] (w.line text) :=
  ⟨rfl, w.lines_line text⟩

theorem wrote_lines (w : Writer) (texts : List String) :
    Wrote w (texts.map (lineAt w.level)) (texts.foldl Writer.line w) := by
  induction texts generalizing w with
  | nil => exact .refl w
  | cons text texts ih => exact (wrote_line w text).trans (ih (w.line text))

/-- What is written one level deeper is written, and the level comes back. -/
theorem Wrote.dedent (h : Wrote w.indent ls v) : Wrote w ls v.dedent :=
  ⟨by simp [Writer.dedent, h.level, Writer.indent], h.lines⟩

theorem Wrote.note (h : Wrote w ls v) (n : Note) : Wrote w ls (v.note n) := ⟨h.level, h.lines⟩

/-- The writer at the brace that opens a block. -/
def Writer.opened (w : Writer) (header : Option String) : Writer :=
  match header with
  | some text => (w.line text).line "\x7b"
  | none => w.line "\x7b"

theorem wrote_opened (w : Writer) (header : Option String) :
    Wrote w (header.toList.map (lineAt w.level) ++ [lineAt w.level "\x7b"]) (w.opened header) := by
  cases header with
  | none => exact wrote_line w "\x7b"
  | some text => exact (wrote_line w text).trans (wrote_line (w.line text) "\x7b")

theorem Op.run_block (header : Option String) (body : List Op) (w : Writer) :
    (Op.block header body).run w =
      match runAll (w.opened header).indent body with
      | (v, .done) => (v.dedent.line "\x7d", .done)
      | (v, .raised) => (v.dedent, .raised) := by
  cases header <;> rfl

mutual
theorem Op.run_calm : ∀ (op : Op) (w : Writer), op.isCalm →
    ∃ v, op.run w = (v, .done) ∧ Wrote w (op.linesAt w.level) v
  | .line text, w, _ => ⟨_, rfl, wrote_line w text⟩
  | .lines texts, w, _ => ⟨_, rfl, wrote_lines w texts⟩
  | .blank, w, _ => ⟨_, rfl, wrote_line w ""⟩
  | .block header body, w, calm => by
    have opened := wrote_opened w header
    obtain ⟨v, inner, wrote⟩ := runAll_calm body (w.opened header).indent calm
    have inside : Wrote (w.opened header) (allLines (w.level + 1) body) v.dedent := by
      rw [← opened.level]
      exact wrote.dedent
    have closed := opened.trans inside
    have last := wrote_line v.dedent "\x7d"
    rw [closed.level] at last
    exact ⟨_, by rw [Op.run_block, inner], closed.trans last⟩
  | .indented body, w, calm => by
    obtain ⟨v, inner, wrote⟩ := runAll_calm body w.indent calm
    exact ⟨v.dedent, by simp only [Op.run, inner], wrote.dedent⟩
  | .separated parts, w, calm => runParts_calm true parts w calm
  | .level, w, _ => ⟨_, rfl, (Wrote.refl w).note _⟩
  | .attempt body, w, calm => by
    obtain ⟨v, inner, wrote⟩ := runAll_calm body w calm
    exact ⟨v, by simp only [Op.run, inner], wrote⟩
  | .raise, _, calm => by cases calm

theorem runAll_calm : ∀ (ops : List Op) (w : Writer), allCalm ops →
    ∃ v, runAll w ops = (v, .done) ∧ Wrote w (allLines w.level ops) v
  | [], w, _ => ⟨w, rfl, .refl w⟩
  | op :: ops, w, calm => by
    obtain ⟨calmOp, calmOps⟩ := Bool.and_eq_true_iff.mp calm
    obtain ⟨v, ran, first⟩ := Op.run_calm op w calmOp
    obtain ⟨u, rest, second⟩ := runAll_calm ops v calmOps
    refine ⟨u, by simp only [runAll, ran, rest], ?_⟩
    rw [first.level] at second
    exact first.trans second

theorem runParts_calm (first : Bool) : ∀ (parts : List (List Op)) (w : Writer), partsCalm parts →
    ∃ v, runParts first w parts = (v, .done) ∧ Wrote w (partsLines first w.level parts) v
  | [], w, _ => ⟨w, rfl, .refl w⟩
  | part :: parts, w, calm => by
    obtain ⟨calmPart, calmParts⟩ := Bool.and_eq_true_iff.mp calm
    have gap : Wrote w (if first then [] else [lineAt w.level ""])
        (if first then w else w.line "") := by
      cases first
      · exact wrote_line w ""
      · exact .refl w
    obtain ⟨v, ran, here⟩ := runAll_calm part (if first then w else w.line "") calmPart
    obtain ⟨u, rest, after⟩ := runParts_calm false parts v calmParts
    refine ⟨u, by simp only [runParts, ran, rest], ?_⟩
    rw [here.level, gap.level] at after
    rw [gap.level] at here
    exact (gap.trans here).trans after
end

/-- Calm operations write from level zero exactly the lines that can be told in advance. -/
theorem linesOf_calm {ops : List Op} (calm : allCalm ops) : linesOf ops = allLines 0 ops := by
  obtain ⟨v, ran, wrote⟩ := runAll_calm ops {} calm
  rw [linesOf, ran, wrote.lines]
  rfl

end Shapewright.Layout
