import Mathlib.Data.Finset.Card
import Mathlib.Order.Bounds.Basic
import Shapewright.Proofs.Registry.Scope

/-!
# The search for a free name

The search goes from candidate to candidate for as long as they are taken, and nothing in it counts
the retries. `Search` is this loop with the number of its retries. If every retry makes a name
longer, fewer and fewer taken names are long enough to be met, so the search ends after no more
retries than there are taken names. It ends with `firstFree`.
-/
namespace Shapewright.Registry

/-- The search that is at `name` ends with `found`, after `n` retries from there. -/
inductive Search (retry : String → String) (taken : List String) : String → Nat → String → Prop
  | free {name : String} : name ∉ taken → Search retry taken name 0 name
  | retried {name found : String} {n : Nat} :
      name ∈ taken → Search retry taken (retry name) n found →
      Search retry taken name (n + 1) found

/-- The taken names that are at least as long as a candidate. -/
def ahead (taken : List String) (name : String) : Finset String :=
  taken.toFinset.filter fun other => name.length ≤ other.length

section Search
variable {retry : String → String} {taken : List String} {name found : String} {n : Nat}

theorem isLeast_retried (occupied : name ∈ taken) :
    IsLeast {k | retry^[k] name ∉ taken} (n + 1) ↔
      IsLeast {k | retry^[k] (retry name) ∉ taken} n := by
  constructor
  · rintro ⟨free, least⟩
    refine ⟨free, fun k hk => ?_⟩
    have least : n + 1 ≤ k + 1 := least hk
    omega
  · rintro ⟨free, least⟩
    refine ⟨free, fun k hk => ?_⟩
    cases k with
    | zero => exact absurd occupied hk
    | succ k => exact Nat.succ_le_succ (least hk)

/-- A search ends after the least number of retries that leads to a free name, and with this
name. -/
theorem search_iff :
    Search retry taken name n found ↔
      found = retry^[n] name ∧ IsLeast {k | retry^[k] name ∉ taken} n := by
  constructor
  · intro h
    induction h with
    | free free => exact ⟨rfl, free, fun k _ => Nat.zero_le k⟩
    | retried occupied _ ih => exact ⟨ih.1, (isLeast_retried occupied).mpr ih.2⟩
  · rintro ⟨rfl, least⟩
    induction n generalizing name with
    | zero => exact .free least.1
    | succ n ih =>
      have occupied : name ∈ taken := by
        by_contra free
        have least : n + 1 ≤ 0 := least.2 free
        omega
      exact .retried occupied (ih ((isLeast_retried occupied).mp least))

/-- A longer candidate has fewer names ahead: the one that was refused is behind it now. -/
theorem Lengthening.ahead_ssubset (longer : Lengthening retry) (occupied : name ∈ taken) :
    ahead taken (retry name) ⊂ ahead taken name := by
  have more := longer name
  rw [Finset.ssubset_iff_of_subset]
  · refine ⟨name, ?_, ?_⟩
    · simpa [ahead] using occupied
    · simp only [ahead, Finset.mem_filter, not_and, Nat.not_le]
      exact fun _ => more
  · intro other inside
    simp only [ahead, Finset.mem_filter] at inside ⊢
    exact ⟨inside.1, by omega⟩

/-- The candidates have no end of their own, but with each retry there are fewer names ahead. -/
theorem Lengthening.exists_search (longer : Lengthening retry) (taken : List String)
    (name : String) :
    ∃ n ≤ (ahead taken name).card, ∃ found, Search retry taken name n found := by
  induction count : (ahead taken name).card using Nat.strong_induction_on generalizing name with
  | _ count ih =>
    subst count
    by_cases occupied : name ∈ taken
    · have fewer := Finset.card_lt_card (longer.ahead_ssubset occupied)
      obtain ⟨n, few, found, search⟩ := ih _ fewer (retry name) rfl
      exact ⟨n + 1, by omega, found, .retried occupied search⟩
    · exact ⟨0, Nat.zero_le _, name, .free occupied⟩

theorem Search.firstFree_eq (h : Search retry taken name n found) :
    firstFree retry taken name = found := by
  obtain ⟨rfl, least⟩ := search_iff.mp h
  obtain ⟨k, result, free, before⟩ := firstFree_chain ⟨n, least.1⟩
  have leastToo : IsLeast {k | retry^[k] name ∉ taken} k :=
    ⟨free, fun j hj => Nat.not_lt.mp fun less => hj (before j less)⟩
  rw [result, leastToo.unique least]

end Search

/-- With a retry that makes names longer, as the usual one does, the search ends after no more
retries than there are different taken names. It ends at the first candidate of the chain that is
free, which is the result. -/
theorem search_ends :
    Lengthening otherwise ∧
      ∀ {retry : String → String}, Lengthening retry → ∀ (taken : List String) (candidate : String),
        ∃ n ≤ taken.toFinset.card, IsLeast {k | retry^[k] candidate ∉ taken} n ∧
          firstFree retry taken candidate = retry^[n] candidate ∧
          ∀ m found, Search retry taken candidate m found ↔
            m = n ∧ found = retry^[n] candidate := by
  refine ⟨otherwise_lengthening, fun {retry} longer taken candidate => ?_⟩
  obtain ⟨n, few, found, search⟩ := longer.exists_search taken candidate
  obtain ⟨rfl, least⟩ := search_iff.mp search
  refine ⟨n, few.trans (Finset.card_filter_le _ _), least, search.firstFree_eq, fun m found => ?_⟩
  constructor
  · intro other
    obtain ⟨rfl, leastToo⟩ := search_iff.mp other
    obtain rfl := leastToo.unique least
    exact ⟨rfl, rfl⟩
  · rintro ⟨rfl, rfl⟩
    exact search

/-- A way on that adds a line at the end. -/
def underlined (name : String) : String := name ++ "_"

theorem underlined_lengthening : Lengthening underlined := by
  intro name
  have one : "_".length = 1 := by decide
  simp only [underlined, String.length_append, one]
  omega

/-- Two of the names are met, one of them listed twice. -/
theorem sample_search_ends :
    Lengthening underlined ∧ ["Foo", "Foo_", "Foo"].toFinset.card = 2 ∧
      IsLeast {k | underlined^[k] "Foo" ∉ ["Foo", "Foo_", "Foo"]} 2 ∧
      firstFree underlined ["Foo", "Foo_", "Foo"] "Foo" = "Foo__" := by
  have longer := underlined_lengthening
  obtain ⟨n, -, least, result, ends⟩ := search_ends.2 longer ["Foo", "Foo_", "Foo"] "Foo"
  have search : Search underlined ["Foo", "Foo_", "Foo"] "Foo" 2 "Foo__" :=
    .retried (by decide) (.retried (by decide) (.free (by decide)))
  obtain ⟨rfl, same⟩ := (ends 2 "Foo__").mp search
  exact ⟨longer, by decide, least, result.trans same.symm⟩

end Shapewright.Registry
