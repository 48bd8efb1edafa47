import Shapewright.Entries
import Shapewright.Ordered

/-!
# Ordered lists and entries

Sorting keeps the elements, the list of first occurrences has each element once, and entries built
from a list have each key once.
-/
namespace Shapewright.Ordered

variable {α : Type}

theorem insert_perm (le : α → α → Bool) (a : α) (bs : List α) :
    (insert le a bs).Perm (a :: bs) := by
  induction bs with
  | nil => exact .refl _
  | cons b bs ih =>
    simp only [insert]
    split
    · exact .refl _
    · exact (ih.cons b).trans (.swap a b bs)

theorem sort_perm (le : α → α → Bool) (as : List α) : (sort le as).Perm as := by
  induction as with
  | nil => exact .refl _
  | cons a as ih => exact (insert_perm le a (sort le as)).trans (ih.cons a)

@[simp] theorem mem_sort {le : α → α → Bool} {as : List α} {a : α} : a ∈ sort le as ↔ a ∈ as :=
  (sort_perm le as).mem_iff

section Sorted
variable {le : α → α → Bool} (total : ∀ a b, le a b ∨ le b a)
  (trans : ∀ {a b c}, le a b → le b c → le a c)
include total trans

theorem insert_pairwise (a : α) {bs : List α} (h : bs.Pairwise (le · ·)) :
    (insert le a bs).Pairwise (le · ·) := by
  induction bs with
  | nil => simp [insert]
  | cons b bs ih =>
    obtain ⟨first, rest⟩ := List.pairwise_cons.mp h
    simp only [insert]
    split
    · next before =>
      refine List.pairwise_cons.mpr ⟨fun c hc => ?_, h⟩
      rcases List.mem_cons.mp hc with rfl | hc
      · exact before
      · exact trans before (first c hc)
    · next after =>
      refine List.pairwise_cons.mpr ⟨fun c hc => ?_, ih rest⟩
      rcases List.mem_cons.mp ((insert_perm le a bs).mem_iff.mp hc) with rfl | hc
      · exact (total b c).resolve_right after
      · exact first c hc

theorem sort_pairwise (as : List α) : (sort le as).Pairwise (le · ·) := by
  induction as with
  | nil => exact .nil
  | cons a as ih => exact insert_pairwise total trans a ih

/-- Sorting forgets the order in which the elements came, unless two of them share a place. -/
theorem sort_eq_of_perm {as bs : List α} (perm : as.Perm bs)
    (apart : ∀ a ∈ as, ∀ b ∈ as, le a b → le b a → a = b) : sort le as = sort le bs := by
  have sorted : (sort le as).Perm (sort le bs) :=
    (sort_perm le as).trans (perm.trans (sort_perm le bs).symm)
  refine sorted.eq_of_pairwise (fun a b ha hb => ?_) (sort_pairwise total trans as)
    (sort_pairwise total trans bs)
  exact apart a (mem_sort.mp ha) b (perm.mem_iff.mpr (mem_sort.mp hb))

end Sorted

/-- A list in order is sorted already. -/
theorem sort_eq_self {le : α → α → Bool} {as : List α} (h : as.Pairwise (le · ·)) :
    sort le as = as := by
  induction as with
  | nil => rfl
  | cons a as ih =>
    obtain ⟨first, rest⟩ := List.pairwise_cons.mp h
    change insert le a (sort le as) = a :: as
    rw [ih rest]
    cases as with
    | nil => rfl
    | cons b bs => rw [insert, if_pos (first b List.mem_cons_self)]

variable [DecidableEq α]

@[simp] theorem mem_firstSeen {as : List α} {a : α} : a ∈ firstSeen as ↔ a ∈ as := by
  induction as with
  | nil => simp [firstSeen]
  | cons b as ih =>
    simp only [firstSeen, List.mem_cons, List.mem_filter, decide_eq_true_eq, ih]
    by_cases h : a = b <;> simp [h]

theorem firstSeen_nodup (as : List α) : (firstSeen as).Nodup := by
  induction as with
  | nil => simp [firstSeen]
  | cons a as ih =>
    refine List.nodup_cons.mpr ⟨by simp, ih.filter _⟩

/-- A list without repetitions keeps all its elements. -/
theorem firstSeen_of_nodup {as : List α} (h : as.Nodup) : firstSeen as = as := by
  induction as with
  | nil => rfl
  | cons a as ih =>
    obtain ⟨apart, rest⟩ := List.nodup_cons.mp h
    have others : as.filter (· ≠ a) = as := List.filter_eq_self.mpr fun b inside => by
      simpa using fun same : b = a => apart (same ▸ inside)
    rw [firstSeen, ih rest, others]

theorem firstSeen_filter (keep : α → Bool) (as : List α) :
    firstSeen (as.filter keep) = (firstSeen as).filter keep := by
  induction as with
  | nil => rfl
  | cons a as ih =>
    by_cases kept : keep a
    · rw [List.filter_cons_of_pos kept, firstSeen, firstSeen, List.filter_cons_of_pos kept, ih,
        List.filter_filter, List.filter_filter]
      simp only [Bool.and_comm]
    · rw [List.filter_cons_of_neg kept, firstSeen, List.filter_cons_of_neg kept, ih,
        List.filter_filter]
      refine List.filter_congr fun b _ => ?_
      by_cases same : b = a
      · simp [same, kept]
      · simp [same]

theorem firstSeen_eq_eraseDups (as : List α) : firstSeen as = as.eraseDups := by
  induction h : as.length using Nat.strongRecOn generalizing as with
  | _ n ih =>
    cases as with
    | nil => rfl
    | cons a as =>
      have others : as.filter (· ≠ a) = as.filter fun b => !b == a :=
        List.filter_congr fun b _ => by
        by_cases same : b = a <;> simp [same]
      have shorter : (as.filter (· ≠ a)).length < n := by
        have := List.length_filter_le (· ≠ a) as
        simp only [List.length_cons] at h
        omega
      rw [firstSeen, ← firstSeen_filter, ih _ shorter _ rfl, others, List.eraseDups_cons]

theorem idxOf_cons_of_ne {a b : α} {as : List α} (h : b ≠ a) :
    (a :: as).idxOf b = as.idxOf b + 1 := by
  have other : (a == b) = false := beq_eq_false_iff_ne.mpr (Ne.symm h)
  rw [List.idxOf_cons, other, cond_false]

theorem idxOf_cons_lt {a b c : α} {as : List α} (hb : b ≠ a) (hc : c ≠ a)
    (h : as.idxOf b < as.idxOf c) :
    (a :: as).idxOf b < (a :: as).idxOf c := by
  rw [idxOf_cons_of_ne hb, idxOf_cons_of_ne hc]
  exact Nat.succ_lt_succ h

/-- The kept elements come in the order of their first occurrences among all. -/
theorem firstSeen_filter_pairwise (keep : α → Bool) (as : List α) :
    (firstSeen (as.filter keep)).Pairwise fun a b => as.idxOf a < as.idxOf b := by
  induction as with
  | nil => exact .nil
  | cons a as ih =>
    by_cases kept : keep a
    · rw [List.filter_cons_of_pos kept, firstSeen, List.pairwise_cons]
      have others : ∀ b ∈ (firstSeen (as.filter keep)).filter (· ≠ a), b ≠ a := fun b hb => by
        simpa using (List.mem_filter.mp hb).2
      refine ⟨fun b hb => ?_, ?_⟩
      · rw [List.idxOf_cons_self, idxOf_cons_of_ne (others b hb)]
        exact Nat.succ_pos _
      · refine (ih.filter _).imp_of_mem fun hb hc before => ?_
        exact idxOf_cons_lt (others _ hb) (others _ hc) before
    · rw [List.filter_cons_of_neg kept]
      have others : ∀ b ∈ firstSeen (as.filter keep), b ≠ a := by
        rintro b hb rfl
        exact kept (List.mem_filter.mp (mem_firstSeen.mp hb)).2
      exact ih.imp_of_mem fun hb hc before => idxOf_cons_lt (others _ hb) (others _ hc) before

section FirstKey
variable {κ : Type} {R : κ → κ → Prop} {es : List (κ × α)} {a b : α} {j k : κ}

/-- Under that key the value stands first. -/
def IsFirstKey (R : κ → κ → Prop) (es : List (κ × α)) (a : α) (k : κ) : Prop :=
  (k, a) ∈ es ∧ ∀ j, (j, a) ∈ es → j = k ∨ R k j

omit [DecidableEq α] in
theorem IsFirstKey.unique (asymm : ∀ {j k}, R j k → ¬ R k j) (h : IsFirstKey R es a j)
    (same : IsFirstKey R es a k) :
    j = k := by
  rcases h.2 k same.1 with equal | before
  · exact equal.symm
  · exact (same.2 j h.1).resolve_right (asymm before)

/-- Among entries with increasing keys the first occurrence of a value stands under its first
key. -/
theorem exists_firstKey (sorted : es.Pairwise fun e f => R e.1 f.1) (ha : a ∈ es.map (·.2)) :
    ∃ k, es[(es.map (·.2)).idxOf a]? = some (k, a) ∧ IsFirstKey R es a k := by
  induction es with
  | nil => cases ha
  | cons e es ih =>
    obtain ⟨first, rest⟩ := List.pairwise_cons.mp sorted
    by_cases here : e.2 = a
    · subst here
      refine ⟨e.1, by simp, List.mem_cons_self, fun j inside => ?_⟩
      rcases List.mem_cons.mp inside with same | later
      · exact .inl (Prod.mk.inj same).1
      · exact .inr (first _ later)
    · have later : a ∈ es.map (·.2) := (List.mem_cons.mp ha).resolve_left (Ne.symm here)
      obtain ⟨k, found, inside, least⟩ := ih rest later
      refine ⟨k, ?_, List.mem_cons_of_mem e inside, fun j hj => ?_⟩
      · rw [List.map_cons, idxOf_cons_of_ne (Ne.symm here), List.getElem?_cons_succ]
        exact found
      · rcases List.mem_cons.mp hj with same | hj
        · exact absurd (congrArg Prod.snd same).symm here
        · exact least j hj

/-- Values come in the order of their first keys. -/
theorem idxOf_lt_iff_firstKey (asymm : ∀ {j k}, R j k → ¬ R k j)
    (sorted : es.Pairwise fun e f => R e.1 f.1) (ha : a ∈ es.map (·.2)) (hb : b ∈ es.map (·.2)) :
    (es.map (·.2)).idxOf a < (es.map (·.2)).idxOf b ↔
      ∃ j k, IsFirstKey R es a j ∧ IsFirstKey R es b k ∧ R j k := by
  obtain ⟨j, foundA, firstA⟩ := exists_firstKey sorted ha
  obtain ⟨k, foundB, firstB⟩ := exists_firstKey sorted hb
  have apart {m n : Nat} {e f : κ × α} (he : es[m]? = some e) (hf : es[n]? = some f)
      (less : m < n) : R e.1 f.1 := by
    obtain ⟨hm, rfl⟩ := List.getElem?_eq_some_iff.mp he
    obtain ⟨hn, rfl⟩ := List.getElem?_eq_some_iff.mp hf
    exact List.pairwise_iff_getElem.mp sorted m n hm hn less
  constructor
  · exact fun less => ⟨j, k, firstA, firstB, apart foundA foundB less⟩
  · rintro ⟨j', k', firstA', firstB', before⟩
    obtain rfl := firstA.unique asymm firstA'
    obtain rfl := firstB.unique asymm firstB'
    rcases Nat.lt_trichotomy ((es.map (·.2)).idxOf a) ((es.map (·.2)).idxOf b)
      with less | same | more
    · exact less
    · rw [same, foundB] at foundA
      obtain ⟨rfl, -⟩ := Prod.mk.inj (Option.some.inj foundA)
      exact absurd before (asymm before)
    · exact absurd before (asymm (apart foundB foundA more))

/-- A list that increases has smaller elements first: every element is its own key. -/
theorem idxOf_lt_iff_of_pairwise {S : α → α → Prop} {as : List α} (asymm : ∀ {a b}, S a b → ¬ S b a)
    (sorted : as.Pairwise S) (ha : a ∈ as) (hb : b ∈ as) : as.idxOf a < as.idxOf b ↔ S a b := by
  have keyed : (as.map fun c => (c, c)).map (·.2) = as := by
    rw [List.map_map]
    exact List.map_id as
  have first {c : α} (hc : c ∈ as) : IsFirstKey S (as.map fun c => (c, c)) c c :=
    ⟨List.mem_map.mpr ⟨c, hc, rfl⟩, by simp +contextual⟩
  have inOrder := idxOf_lt_iff_firstKey (R := S) (a := a) (b := b) asymm
    (List.pairwise_map.mpr sorted : (as.map fun c => (c, c)).Pairwise fun e f => S e.1 f.1)
  rw [keyed] at inOrder
  rw [inOrder ha hb]
  constructor
  · rintro ⟨j, k, firstA, firstB, before⟩
    obtain rfl := firstA.unique asymm (first ha)
    obtain rfl := firstB.unique asymm (first hb)
    exact before
  · exact fun before => ⟨a, b, first ha, first hb, before⟩

end FirstKey

end Shapewright.Ordered

namespace Shapewright.Entries

variable {κ α : Type} [DecidableEq κ]

/-- Setting a key keeps the other entries and adds at most the new one. -/
theorem mem_set {key : κ} {a : α} {es : Entries κ α} {e : κ × α} (h : e ∈ set key a es) :
    e = (key, a) ∨ e ∈ es := by
  induction es with
  | nil => simpa [set] using h
  | cons f es ih =>
    simp only [set] at h
    split at h
    · rcases List.mem_cons.mp h with rfl | h
      · exact .inl rfl
      · exact .inr (List.mem_cons_of_mem _ h)
    · rcases List.mem_cons.mp h with rfl | h
      · exact .inr List.mem_cons_self
      · exact (ih h).imp_right (List.mem_cons_of_mem _)

theorem mem_keys_set {key k : κ} {a : α} {es : Entries κ α} :
    k ∈ keys (set key a es) ↔ k = key ∨ k ∈ keys es := by
  induction es with
  | nil => simp [set, keys]
  | cons f es ih =>
    simp only [set]
    split
    · next same => simp [keys, same]
    · simp only [keys, List.map_cons, List.mem_cons] at ih ⊢
      rw [ih]
      exact or_left_comm

theorem keys_set_nodup {key : κ} {a : α} {es : Entries κ α} (h : (keys es).Nodup) :
    (keys (set key a es)).Nodup := by
  induction es with
  | nil => simp [set, keys]
  | cons f es ih =>
    have hf := List.nodup_cons.mp h
    simp only [set]
    split
    · next same => exact same ▸ h
    · next other =>
      refine List.nodup_cons.mpr ⟨fun hm => ?_, ih hf.2⟩
      rcases mem_keys_set.mp hm with same | hm
      · exact other same
      · exact hf.1 hm

/-- Every entry of the result was given. -/
theorem mem_ofList {es : List (κ × α)} {e : κ × α} (h : e ∈ ofList es) : e ∈ es := by
  have key : ∀ (es acc : List (κ × α)),
      e ∈ es.foldl (fun acc e => set e.1 e.2 acc) acc → e ∈ acc ∨ e ∈ es := by
    intro es
    induction es with
    | nil => intro acc h; exact .inl h
    | cons f es ih =>
      intro acc h
      rcases ih _ h with h | h
      · rcases mem_set h with rfl | h
        · exact .inr List.mem_cons_self
        · exact .inl h
      · exact .inr (List.mem_cons_of_mem _ h)
  simpa using key es [] h

theorem keys_ofList_nodup (es : List (κ × α)) : (keys (ofList es)).Nodup := by
  have key : ∀ (es acc : List (κ × α)), (keys acc).Nodup →
      (keys (es.foldl (fun acc e => set e.1 e.2 acc) acc)).Nodup := by
    intro es
    induction es with
    | nil => intro acc h; exact h
    | cons f es ih => intro acc h; exact ih _ (keys_set_nodup h)
  exact key es [] (by simp [keys])

theorem set_of_not_mem {key : κ} {a : α} {es : Entries κ α} (h : key ∉ keys es) :
    set key a es = es ++ [(key, a)] := by
  induction es with
  | nil => rfl
  | cons e es ih =>
    obtain ⟨other, rest⟩ := not_or.mp (mt List.mem_cons.mpr h)
    rw [set, if_neg (Ne.symm other), ih rest, List.cons_append]

/-- Entries that have each key once are built as they are given. -/
theorem ofList_of_nodup {es : List (κ × α)} (h : (keys es).Nodup) : ofList es = es := by
  have key : ∀ (es acc : List (κ × α)), (keys (acc ++ es)).Nodup →
      es.foldl (fun acc e => set e.1 e.2 acc) acc = acc ++ es := by
    intro es
    induction es with
    | nil => simp
    | cons e es ih =>
      intro acc nodup
      have apart : e.1 ∉ keys acc := by
        intro inside
        rw [keys, List.map_append, List.nodup_append] at nodup
        exact nodup.2.2 e.1 inside e.1 List.mem_cons_self rfl
      rw [List.foldl_cons, set_of_not_mem apart, ih _ (by simpa using nodup), List.append_assoc]
      rfl
  exact key es [] h

end Shapewright.Entries
