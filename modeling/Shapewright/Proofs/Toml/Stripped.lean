import Mathlib.Data.List.Basic
import Shapewright.Toml.Value

/-!
# Values without gaps

Something absent can stand anywhere in a value, and stripping leaves it out there with the key that
it stood under. `marks` is a value in writing, one mark after another, and tells every value from
every other. The marks of a stripped value are those of the value without the absent ones: nothing
else is lost, moved or changed.
-/
namespace Shapewright.Toml.Value

@[elab_as_elim, induction_eliminator]
theorem inductOn {P : Value → Prop} (absent : P .absent) (string : ∀ s, P (.string s))
    (integer : ∀ n, P (.integer n)) (float : ∀ x, P (.float x)) (boolean : ∀ b, P (.boolean b))
    (moment : ∀ kind text, P (.moment kind text))
    (array : ∀ items, (∀ v ∈ items, P v) → P (.array items))
    (table : ∀ entries, (∀ e ∈ entries, P e.2) → P (.table entries)) : ∀ v, P v
  | .absent => absent
  | .string s => string s
  | .integer n => integer n
  | .float x => float x
  | .boolean b => boolean b
  | .moment kind text => moment kind text
  | .array items =>
    array items fun v _ => inductOn absent string integer float boolean moment array table v
  | .table entries =>
    table entries fun e _ => inductOn absent string integer float boolean moment array table e.2
decreasing_by
  · decreasing_tactic
  · next inside =>
    have entry_lt := List.sizeOf_lt_of_mem inside
    obtain ⟨key, v⟩ := e
    simp only [Prod.mk.sizeOf_spec, Value.table.sizeOf_spec] at entry_lt ⊢
    omega

/-- `w` is the value `v` or stands in it, at any depth. -/
inductive Within : Value → Value → Prop
  | itself (v : Value) : Within v v
  | item {w v : Value} {items : List Value} : v ∈ items → Within w v → Within w (.array items)
  | entry {w v : Value} {key : String} {entries : List (String × Value)} :
      (key, v) ∈ entries → Within w v →
      Within w (.table entries)

/-- Nothing is absent, at any depth. -/
def IsWhole (v : Value) : Prop := ∀ w, Within w v → w ≠ .absent

/-- A mark of a value in writing. What stands in a table has its key in front. -/
inductive Mark where
  | leaf (key : Option String) (v : Value)
  | array (key : Option String)
  | table (key : Option String)
  | close

def Mark.isAbsent : Mark → Bool
  | .leaf _ v => v.isAbsent
  | _ => false

mutual
def marks (key : Option String) : Value → List Mark
  | .array items => .array key :: (itemMarks items ++ [.close])
  | .table entries => .table key :: (entryMarks entries ++ [.close])
  | v => [.leaf key v]

def itemMarks : List Value → List Mark
  | [] => []
  | v :: vs => v.marks none ++ itemMarks vs

def entryMarks : List (String × Value) → List Mark
  | [] => []
  | (key, v) :: es => v.marks (some key) ++ entryMarks es
end

section Values
variable {v w : Value} {items : List Value} {entries : List (String × Value)}

@[simp] theorem isAbsent_eq_true : v.isAbsent = true ↔ v = .absent := by
  cases v <;> simp [isAbsent]

@[simp] theorem isAbsent_eq_false : v.isAbsent = false ↔ v ≠ .absent := by
  rw [← Bool.not_eq_true, isAbsent_eq_true]

theorem stripItems_eq (items : List Value) :
    stripItems items = (items.filter (!·.isAbsent)).map strip := by
  induction items with
  | nil => rfl
  | cons v vs ih => cases gone : v.isAbsent <;> simp [stripItems, gone, ih]

theorem stripEntries_eq (entries : List (String × Value)) :
    stripEntries entries = (entries.filter (!·.2.isAbsent)).map fun e => (e.1, e.2.strip) := by
  induction entries with
  | nil => rfl
  | cons e es ih =>
    obtain ⟨key, v⟩ := e
    cases gone : v.isAbsent <;> simp [stripEntries, gone, ih]

/-- The items of a stripped array are the stripped items, in their order. -/
theorem strip_array (items : List Value) :
    (Value.array items).strip = .array ((items.filter (!·.isAbsent)).map strip) := by
  rw [strip, stripItems_eq]

/-- The entries of a stripped table are the stripped entries, in their order and under their
keys. -/
theorem strip_table (entries : List (String × Value)) :
    (Value.table entries).strip =
      .table ((entries.filter (!·.2.isAbsent)).map fun e => (e.1, e.2.strip)) := by
  rw [strip, stripEntries_eq]

theorem isWhole_array : (Value.array items).IsWhole ↔ ∀ v ∈ items, v.IsWhole := by
  constructor
  · intro h v inside w deeper
    exact h w (.item inside deeper)
  · intro h w deeper
    cases deeper with
    | itself => exact Value.noConfusion
    | item inside deeper => exact h _ inside w deeper

theorem isWhole_table : (Value.table entries).IsWhole ↔ ∀ e ∈ entries, e.2.IsWhole := by
  constructor
  · intro h e inside w deeper
    exact h w (.entry inside deeper)
  · intro h w deeper
    cases deeper with
    | itself => exact Value.noConfusion
    | entry inside deeper => exact h _ inside w deeper

theorem IsWhole.present (h : v.IsWhole) : v ≠ .absent := h v (.itself v)

theorem isWhole_strip (present : v ≠ .absent) : v.strip.IsWhole := by
  induction v with
  | absent => exact absurd rfl present
  | array items ih =>
    rw [strip_array, isWhole_array, List.forall_mem_map]
    intro v kept
    obtain ⟨inside, there⟩ := List.mem_filter.mp kept
    exact ih v inside (by simpa using there)
  | table entries ih =>
    rw [strip_table, isWhole_table, List.forall_mem_map]
    intro e kept
    obtain ⟨inside, there⟩ := List.mem_filter.mp kept
    exact ih e inside (by simpa using there)
  | _ =>
    intro w deeper
    cases deeper
    exact Value.noConfusion

/-- Where nothing is absent, nothing is left out. -/
theorem IsWhole.strip_eq (h : v.IsWhole) : v.strip = v := by
  induction v with
  | array items ih =>
    rw [isWhole_array] at h
    have all : items.filter (!·.isAbsent) = items :=
      List.filter_eq_self.mpr fun v inside => by simpa using (h v inside).present
    rw [strip_array, all, List.map_congr_left fun v inside => ih v inside (h v inside),
      List.map_id']
  | table entries ih =>
    rw [isWhole_table] at h
    have all : entries.filter (!·.2.isAbsent) = entries :=
      List.filter_eq_self.mpr fun e inside => by simpa using (h e inside).present
    have same : ∀ e ∈ entries, (e.1, e.2.strip) = e :=
      fun e inside => by rw [ih e inside (h e inside)]
    rw [strip_table, all, List.map_congr_left same, List.map_id']
  | _ => rfl

theorem itemMarks_eq (items : List Value) : itemMarks items = items.flatMap (marks none) := by
  induction items with
  | nil => rfl
  | cons v vs ih => rw [itemMarks, ih, List.flatMap_cons]

theorem entryMarks_eq (entries : List (String × Value)) :
    entryMarks entries = entries.flatMap fun e => e.2.marks (some e.1) := by
  induction entries with
  | nil => rfl
  | cons e es ih => rw [entryMarks, ih, List.flatMap_cons]

/-- Elements that give nothing in the end can be left out beforehand. -/
theorem flatMap_kept {α β : Type} {keep : α → Bool} {f g : α → List β} {as : List α}
    (gone : ∀ a ∈ as, keep a = false → g a = []) (kept : ∀ a ∈ as, keep a = true → f a = g a) :
    (as.filter keep).flatMap f = as.flatMap g := by
  induction as with
  | nil => rfl
  | cons a as ih =>
    have rest := ih (fun b hb => gone b (List.mem_cons_of_mem a hb)) fun b hb =>
      kept b (List.mem_cons_of_mem a hb)
    cases here : keep a with
    | false => simp [here, rest, gone a List.mem_cons_self here]
    | true => simp [here, rest, kept a List.mem_cons_self here]

/-- Stripping strikes out the marks of what is absent and no others. -/
theorem marks_strip (present : v ≠ .absent) (key : Option String) :
    v.strip.marks key = (v.marks key).filter (!·.isAbsent) := by
  induction v generalizing key with
  | absent => exact absurd rfl present
  | array items ih =>
    have inside : (items.filter (!·.isAbsent)).flatMap (fun v => v.strip.marks none) =
        items.flatMap fun v => (v.marks none).filter (!·.isAbsent) := by
      refine flatMap_kept (fun v _ gone => ?_) fun v inside there =>
        ih v inside (by simpa using there) none
      obtain rfl : v = .absent := by simpa using gone
      rfl
    rw [strip_array]
    simp [marks, itemMarks_eq, List.flatMap_map, inside, List.filter_flatMap, Mark.isAbsent]
  | table entries ih =>
    have inside : (entries.filter (!·.2.isAbsent)).flatMap (fun e => e.2.strip.marks (some e.1)) =
        entries.flatMap fun e => (e.2.marks (some e.1)).filter (!·.isAbsent) := by
      refine flatMap_kept (fun e _ gone => ?_) fun e inside there =>
        ih e inside (by simpa using there) (some e.1)
      obtain ⟨key, v⟩ := e
      obtain rfl : v = .absent := by simpa using gone
      rfl
    rw [strip_table]
    simp [marks, entryMarks_eq, List.flatMap_map, inside, List.filter_flatMap, Mark.isAbsent]
  | _ => rfl

/-- Elements that are marked one after another up to a close are told apart if each of them is. No
element begins with a close, so two lists of them end at the same place. -/
theorem flatMap_close_inj {α : Type} {f : α → List Mark} {as bs : List α} {r r' : List Mark}
    (opens : ∀ b r r', .close :: r ≠ f b ++ r')
    (apart : ∀ a ∈ as, ∀ b r r', f a ++ r = f b ++ r' → a = b ∧ r = r')
    (h : as.flatMap f ++ .close :: r = bs.flatMap f ++ .close :: r') : as = bs ∧ r = r' := by
  induction as generalizing bs with
  | nil =>
    cases bs with
    | nil => exact ⟨rfl, (List.cons.inj h).2⟩
    | cons b bs =>
      rw [List.flatMap_cons, List.append_assoc] at h
      exact absurd h (opens b r _)
  | cons a as ih =>
    cases bs with
    | nil =>
      rw [List.flatMap_cons, List.append_assoc] at h
      exact absurd h.symm (opens a r' _)
    | cons b bs =>
      simp only [List.flatMap_cons, List.append_assoc] at h
      obtain ⟨rfl, rest⟩ := apart a List.mem_cons_self b _ _ h
      obtain ⟨rfl, same⟩ := ih (fun c inside => apart c (List.mem_cons_of_mem a inside)) rest
      exact ⟨rfl, same⟩

theorem marks_cases (v : Value) :
    (∀ key, v.marks key = [.leaf key v]) ∨ (∃ items, v = .array items) ∨
      ∃ entries, v = .table entries := by
  cases v with
  | array items => exact .inr (.inl ⟨items, rfl⟩)
  | table entries => exact .inr (.inr ⟨entries, rfl⟩)
  | _ => exact .inl fun _ => rfl

theorem close_ne_marks (v : Value) (key : Option String) (r r' : List Mark) :
    .close :: r ≠ v.marks key ++ r' := by
  rcases marks_cases v with leaf | ⟨items, rfl⟩ | ⟨entries, rfl⟩
  · simp [leaf]
  · simp [marks]
  · simp [marks]

/-- Marks tell where a value ends, so what follows them does not matter. -/
theorem marks_append_inj {key key' : Option String} {r r' : List Mark}
    (h : v.marks key ++ r = w.marks key' ++ r') :
    v = w ∧ key = key' ∧ r = r' := by
  induction v generalizing w key key' r r' with
  | array items ih =>
    rcases marks_cases w with leaf | ⟨others, rfl⟩ | ⟨entries, rfl⟩
    · simp [marks, leaf] at h
    · simp only [marks, itemMarks_eq, List.cons_append, List.append_assoc, List.nil_append,
        List.cons.injEq, Mark.array.injEq] at h
      obtain ⟨rfl, inside⟩ := h
      obtain ⟨rfl, same⟩ := flatMap_close_inj (fun v => close_ne_marks v none)
        (fun v inside w r r' same => (ih v inside same).imp_right And.right) inside
      exact ⟨rfl, rfl, same⟩
    · simp [marks] at h
  | table entries ih =>
    rcases marks_cases w with leaf | ⟨items, rfl⟩ | ⟨others, rfl⟩
    · simp [marks, leaf] at h
    · simp [marks] at h
    · simp only [marks, entryMarks_eq, List.cons_append, List.append_assoc, List.nil_append,
        List.cons.injEq, Mark.table.injEq] at h
      obtain ⟨rfl, inside⟩ := h
      have apart : ∀ e ∈ entries, ∀ e' r r',
          e.2.marks (some e.1) ++ r = e'.2.marks (some e'.1) ++ r' →
          e = e' ∧ r = r' := by
        intro e inside e' r r' same
        obtain ⟨value, key, rest⟩ := ih e inside same
        exact ⟨Prod.ext (Option.some.inj key) value, rest⟩
      obtain ⟨rfl, same⟩ :=
        flatMap_close_inj (fun e : String × Value => close_ne_marks e.2 (some e.1)) apart inside
      exact ⟨rfl, rfl, same⟩
  | _ =>
    rcases marks_cases w with leaf | ⟨items, rfl⟩ | ⟨entries, rfl⟩
    · simp only [marks, leaf, List.cons_append, List.nil_append, List.cons.injEq, Mark.leaf.injEq]
        at h
      obtain ⟨⟨rfl, rfl⟩, rfl⟩ := h
      exact ⟨rfl, rfl, rfl⟩
    · simp [marks] at h
    · simp [marks] at h

theorem marks_inj {key : Option String} : v.marks key = w.marks key ↔ v = w := by
  constructor
  · intro same
    exact (marks_append_inj (congrArg (· ++ []) same)).1
  · rintro rfl
    rfl

/-- Stripping a value that is there leaves nothing absent in it and loses nothing else.
Items and entries that are there stay in their order, stripped, and of all values only the
stripped one has the marks that are left. Only a value with gaps is changed, and stripping
it again changes nothing. -/
theorem strip_exact (present : v ≠ .absent) :
    v.strip.IsWhole ∧
      (∀ items, (Value.array items).strip = .array ((items.filter (!·.isAbsent)).map strip)) ∧
      (∀ entries, (Value.table entries).strip =
        .table ((entries.filter (!·.2.isAbsent)).map fun e => (e.1, e.2.strip))) ∧
      (∀ w, w.marks none = (v.marks none).filter (!·.isAbsent) ↔ w = v.strip) ∧
      (v.strip = v ↔ v.IsWhole) ∧ v.strip.strip = v.strip := by
  have whole := isWhole_strip present
  refine ⟨whole, strip_array, strip_table, fun w => ?_,
    ⟨fun same => same ▸ whole, IsWhole.strip_eq⟩, whole.strip_eq⟩
  rw [← marks_strip present, marks_inj]

end Values

/-- A table in which something is absent directly, in an array, and in a table of an array. -/
def sampleGaps : Value := .table [
  ("name", .absent),
  ("parts", .array [
    .absent, .table [("sizes", .array [.absent]), ("colour", .absent)], .string "x", .table []])]

theorem sample_strip_exact :
    sampleGaps ≠ .absent ∧ sampleGaps.strip.IsWhole ∧ ¬ sampleGaps.IsWhole ∧
      sampleGaps.strip =
        .table [("parts", .array [.table [("sizes", .array [])], .string "x", .table []])] := by
  have present : sampleGaps ≠ .absent := Value.noConfusion
  have stripped : sampleGaps.strip =
      .table [("parts", .array [.table [("sizes", .array [])], .string "x", .table []])] := rfl
  obtain ⟨whole, -, -, -, unchanged, -⟩ := strip_exact present
  refine ⟨present, whole, fun nothing => ?_, stripped⟩
  have same := stripped.symm.trans (unchanged.mpr nothing)
  simp [sampleGaps] at same

end Shapewright.Toml.Value
