import Mathlib.Algebra.Order.BigOperators.Group.List
import Mathlib.Algebra.Order.Group.Nat
import Mathlib.Data.List.Nodup
import Mathlib.Dynamics.PeriodicPts.Defs
import Shapewright.Registry.Scope

/-!
# Scopes hand out unique names

`firstFree` follows the chain of candidates to the first one that is free. `Scope.Sound` is what
every allocation keeps: keys and names of a scope correspond one to one, and no name is forbidden.
`grant` is an allocation in an open scope, where nothing is refused.
-/
namespace Shapewright.Registry

/-- Each retry is longer than the name it replaces, so the chain of candidates never comes back. -/
def Lengthening (retry : String → String) : Prop := ∀ name, name.length < (retry name).length

theorem otherwise_lengthening : Lengthening otherwise := by
  intro name
  have five : "Other".length = 5 := by decide
  simp only [otherwise, String.length_append, five]
  omega

theorem Lengthening.le_iterate {retry : String → String} (longer : Lengthening retry)
    (name : String) (k : Nat) : name.length + k ≤ (retry^[k] name).length := by
  induction k generalizing name with
  | zero => exact Nat.le_refl _
  | succ k ih =>
    have := longer name
    have := ih (retry name)
    simp only [Function.iterate_succ_apply]
    omega

/-- Some candidate of the chain is free. -/
def Settles (retry : String → String) (taken : List String) (candidate : String) : Prop :=
  ∃ k, retry^[k] candidate ∉ taken

/-- After as many retries as the taken names have characters, the candidate is longer than each. -/
theorem Lengthening.settles {retry : String → String} (longer : Lengthening retry)
    (taken : List String) (candidate : String) : Settles retry taken candidate := by
  refine ⟨(taken.map String.length).sum + 1, fun again => ?_⟩
  have short := List.le_sum_of_mem (List.mem_map_of_mem (f := String.length) again)
  have long := longer.le_iterate candidate ((taken.map String.length).sum + 1)
  omega

theorem mem_without {name other : String} {taken : List String} :
    other ∈ without name taken ↔ other ∈ taken ∧ other ≠ name := by
  simp [without]

/-- What is left of a chain once its first candidate was refused still settles. -/
theorem Settles.without {retry : String → String} {taken : List String} {candidate : String}
    (settles : Settles retry taken candidate) (occupied : candidate ∈ taken) :
    Settles retry (without candidate taken) (retry candidate) := by
  obtain ⟨k, free⟩ := settles
  cases k with
  | zero => exact absurd occupied free
  | succ k => exact ⟨k, fun again => free (mem_without.mp again).1⟩

/-- A chain that comes back to its start goes round for ever, so a chain that settles does not. -/
theorem Settles.not_back {retry : String → String} {taken : List String} {candidate : String}
    {k : Nat} (settles : Settles retry taken candidate)
    (round : ∀ j ≤ k, retry^[j] candidate ∈ taken) :
    retry^[k + 1] candidate ≠ candidate := by
  intro back
  obtain ⟨n, free⟩ := settles
  have periodic : Function.IsPeriodicPt retry (k + 1) candidate := back
  have inside : n % (k + 1) ≤ k := Nat.le_of_lt_succ (Nat.mod_lt n k.succ_pos)
  exact free (periodic.iterate_mod_apply n ▸ round _ inside)

/-- The result is the first candidate of the chain that is not taken. -/
theorem firstFree_chain {retry : String → String} {taken : List String} {candidate : String}
    (settles : Settles retry taken candidate) :
    ∃ k, firstFree retry taken candidate = retry^[k] candidate ∧ retry^[k] candidate ∉ taken ∧
      ∀ j < k, retry^[j] candidate ∈ taken := by
  fun_induction firstFree retry taken candidate with
  | case1 taken candidate occupied ih =>
    obtain ⟨k, result, free, before⟩ := ih (settles.without occupied)
    have round : ∀ j ≤ k, retry^[j] candidate ∈ taken := by
      intro j hj
      cases j with
      | zero => exact occupied
      | succ j => exact (mem_without.mp (before j hj)).1
    have apart := settles.not_back round
    refine ⟨k + 1, result, fun again => free (mem_without.mpr ⟨again, apart⟩), fun j hj => ?_⟩
    exact round j (Nat.le_of_lt_succ hj)
  | case2 taken candidate free =>
    exact ⟨0, rfl, free, fun j hj => absurd hj (Nat.not_lt_zero j)⟩

theorem firstFree_not_mem {retry : String → String} {taken : List String} {candidate : String}
    (settles : Settles retry taken candidate) : firstFree retry taken candidate ∉ taken := by
  obtain ⟨k, result, free, -⟩ := firstFree_chain settles
  exact result ▸ free

/-- What holds of the candidate and is kept by each retry holds of the result. -/
theorem firstFree_induct {retry : String → String} {P : String → Prop}
    (step : ∀ name, P name → P (retry name)) {taken : List String} {candidate : String}
    (h : P candidate) : P (firstFree retry taken candidate) := by
  fun_induction firstFree retry taken candidate with
  | case1 taken candidate occupied ih => exact ih (step candidate h)
  | case2 taken candidate free => exact h

namespace Scope

variable {σ κ : Type} [DecidableEq κ] {s : Scope κ}

theorem mem_names_of_name? {key : κ} {name : String} (h : s.name? key = some name) :
    (key, name) ∈ s.names := by
  obtain ⟨before, after, split, -⟩ := List.lookup_eq_some_iff.mp h
  exact split ▸ List.mem_append_right _ List.mem_cons_self

theorem name?_eq_none_iff {key : κ} : s.name? key = none ↔ key ∉ s.names.map (·.1) := by
  simp only [name?, List.lookup_eq_none_iff, List.mem_map, not_exists, not_and]
  constructor
  · intro h e he same
    simpa [same] using h e he
  · intro h e he
    simpa using fun same => h e he same.symm

/-- Keys and names correspond one to one; what is taken is what was forbidden or handed
out, and nothing is both. -/
structure Sound (s : Scope κ) (forbidden : List String) : Prop where
  keys_nodup : (s.names.map (·.1)).Nodup
  names_nodup : (s.names.map (·.2)).Nodup
  mem_taken : ∀ name, name ∈ s.taken ↔ name ∈ forbidden ∨ name ∈ s.names.map (·.2)
  allowed : ∀ name ∈ s.names.map (·.2), name ∉ forbidden

omit [DecidableEq κ] in
theorem new_sound (label : String) (forbidden : List String) :
    (new label forbidden : Scope κ).Sound forbidden := by
  refine ⟨?_, ?_, ?_, ?_⟩ <;> simp [new]

theorem Sound.key_unique {forbidden : List String} (h : s.Sound forbidden) {key other : κ}
    {name : String} (hk : s.name? key = some name) (ho : s.name? other = some name) : key = other :=
  congrArg Prod.fst (List.inj_on_of_nodup_map h.names_nodup (mem_names_of_name? hk)
    (mem_names_of_name? ho) rfl)

theorem Sound.not_forbidden {forbidden : List String} (h : s.Sound forbidden) {key : κ}
    {name : String} (hk : s.name? key = some name) : name ∉ forbidden :=
  h.allowed name (List.mem_map.mpr ⟨(key, name), mem_names_of_name? hk, rfl⟩)

/-- The scope after a new key got a name. -/
def give (s : Scope κ) (key : κ) (name : String) : Scope κ :=
  { s with taken := name :: s.taken, names := s.names ++ [(key, name)] }

theorem name?_give_self {key : κ} (unnamed : s.name? key = none) (name : String) :
    (s.give key name).name? key = some name := by
  simp only [name?] at unnamed
  simp only [name?, give, List.lookup_append, unnamed, Option.none_or, List.lookup_cons_self]

theorem name?_give_of_some {key : κ} {name : String} (h : s.name? key = some name) (other : κ)
    (next : String) : (s.give other next).name? key = some name := by
  simp only [name?] at h
  simp only [name?, give, List.lookup_append, h, Option.some_or]

theorem name?_give_of_ne {key other : κ} (apart : key ≠ other) (name : String) :
    (s.give other name).name? key = s.name? key := by
  have there : (key == other) = false := by simpa using apart
  simp only [name?, give, List.lookup_append, List.lookup_cons, there, List.lookup_nil,
    Option.or_none]

/-- A scope that gives a new key a name that is not taken stays sound. -/
theorem Sound.give {forbidden : List String} (h : s.Sound forbidden) {key : κ} {name : String}
    (unnamed : s.name? key = none) (free : name ∉ s.taken) : (s.give key name).Sound forbidden := by
  obtain ⟨notForbidden, notGiven⟩ := not_or.mp ((h.mem_taken name).not.mp free)
  refine ⟨?_, ?_, fun other => ?_, fun other ho => ?_⟩
  · have apart := name?_eq_none_iff.mp unnamed
    simpa [Scope.give, List.nodup_append, h.keys_nodup] using fun k n hn same => apart
      (List.mem_map.mpr ⟨(k, n), hn, same⟩)
  · simpa [Scope.give, List.nodup_append, h.names_nodup] using fun n k hn same => notGiven
      (List.mem_map.mpr ⟨(k, n), hn, same⟩)
  · simp only [Scope.give, List.mem_cons, h.mem_taken other, List.map_append, List.mem_append,
      List.map_cons, List.map_nil, List.not_mem_nil, or_false]
    rw [or_comm, or_assoc]
  · simp only [Scope.give, List.map_append, List.mem_append, List.map_cons, List.map_nil,
      List.mem_singleton] at ho
    rcases ho with ho | rfl
    · exact h.allowed other ho
    · exact notForbidden

omit [DecidableEq κ] in
theorem Sound.freeze {forbidden : List String} (h : s.Sound forbidden) : s.freeze.Sound forbidden :=
  ⟨h.keys_nodup, h.names_nodup, h.mem_taken, h.allowed⟩

section Allocate

variable {key : κ} {preferred : String} {extra : List String} {retry : String → String}

theorem allocate_named {name : String} (named : s.name? key = some name) :
    (s.allocate key preferred extra retry : Except (NamingError σ κ) _) = .ok (name, s) := by
  simp only [allocate, named]

theorem allocate_frozen (unnamed : s.name? key = none) (frozen : s.frozen = true) :
    (s.allocate key preferred extra retry : Except (NamingError σ κ) _) =
      .error (.scopeFrozen preferred s.label) := by
  simp only [allocate, unnamed, frozen, if_true]

theorem allocate_open (unnamed : s.name? key = none) (opened : s.frozen = false) :
    (s.allocate key preferred extra retry : Except (NamingError σ κ) _) =
      .ok (firstFree retry (s.taken ++ extra) preferred,
        s.give key (firstFree retry (s.taken ++ extra) preferred)) := by
  simp only [allocate, unnamed, opened, Bool.false_eq_true, if_false, give]

/-- The name that is given is the name of the key. -/
theorem name?_of_allocate {next : Scope κ} {name : String}
    (h : (s.allocate key preferred extra retry : Except (NamingError σ κ) _) = .ok (name, next)) :
    next.name? key = some name := by
  cases named : s.name? key with
  | some old =>
    rw [allocate_named named] at h
    cases h
    exact named
  | none =>
    cases opened : s.frozen with
    | true =>
      rw [allocate_frozen named opened] at h
      cases h
    | false =>
      rw [allocate_open named opened] at h
      cases h
      exact name?_give_self named _

end Allocate

/-- The scope after a key asked for a name, with the name that it would like. -/
def grant (s : Scope κ) (request : κ × String) : Scope κ :=
  match s.name? request.1 with
  | some _ => s
  | none =>
    let name := firstFree otherwise s.taken request.2
    { s with taken := name :: s.taken, names := s.names ++ [(request.1, name)] }

/-- The scope after several requests, served one after another. -/
def grantAll (s : Scope κ) (requests : List (κ × String)) : Scope κ := requests.foldl grant s

theorem allocate_eq_grant (opened : s.frozen = false) (request : κ × String) :
    ∃ name, (s.allocate request.1 request.2 : Except (NamingError σ κ) _) =
      .ok (name, s.grant request) := by
  unfold allocate grant
  cases s.name? request.1 with
  | some name => exact ⟨name, rfl⟩
  | none => exact ⟨firstFree otherwise s.taken request.2, by simp [opened]⟩

@[simp] theorem grant_frozen (s : Scope κ) (request : κ × String) :
    (s.grant request).frozen = s.frozen := by
  unfold grant
  split <;> rfl

@[simp] theorem grantAll_frozen (s : Scope κ) (requests : List (κ × String)) :
    (s.grantAll requests).frozen = s.frozen := by
  induction requests generalizing s with
  | nil => rfl
  | cons request requests ih => exact (ih (s.grant request)).trans (grant_frozen s request)

theorem grantAll_append (s : Scope κ) (requests more : List (κ × String)) :
    s.grantAll (requests ++ more) = (s.grantAll requests).grantAll more :=
  List.foldl_append

theorem grant_sound {forbidden : List String} (h : s.Sound forbidden) (request : κ × String) :
    (s.grant request).Sound forbidden := by
  unfold grant
  split
  · exact h
  · next unnamed => exact h.give unnamed (firstFree_not_mem (otherwise_lengthening.settles _ _))

theorem grantAll_sound {forbidden : List String} (h : s.Sound forbidden)
    (requests : List (κ × String)) : (s.grantAll requests).Sound forbidden := by
  induction requests generalizing s with
  | nil => exact h
  | cons request requests ih => exact ih (grant_sound h request)

/-- A key keeps the name it has. -/
theorem name?_grant {key : κ} {name : String} (h : s.name? key = some name) (request : κ × String) :
    (s.grant request).name? key = some name := by
  unfold grant
  split
  · exact h
  · exact name?_give_of_some h _ _

theorem name?_grantAll {key : κ} {name : String} (h : s.name? key = some name)
    (requests : List (κ × String)) : (s.grantAll requests).name? key = some name := by
  induction requests generalizing s with
  | nil => exact h
  | cons request requests ih => exact ih (name?_grant h request)

theorem exists_name?_grant (s : Scope κ) (request : κ × String) :
    ∃ name, (s.grant request).name? request.1 = some name := by
  unfold grant
  split
  · next name named => exact ⟨name, named⟩
  · next unnamed => exact ⟨_, name?_give_self unnamed _⟩

/-- Every key that asked has a name. -/
theorem exists_name?_grantAll {request : κ × String} {requests : List (κ × String)}
    (h : request ∈ requests) (s : Scope κ) :
    ∃ name, (s.grantAll requests).name? request.1 = some name := by
  induction requests generalizing s with
  | nil => cases h
  | cons first requests ih =>
    rcases List.mem_cons.mp h with rfl | h
    · obtain ⟨name, named⟩ := exists_name?_grant s request
      exact ⟨name, name?_grantAll named requests⟩
    · exact ih h (s.grant first)

/-- What holds of every name and every wish, and is kept by a retry, holds of every name handed
out. -/
theorem grantAll_induct {P : String → Prop} (step : ∀ name, P name → P (otherwise name))
    {requests : List (κ × String)} (hr : ∀ request ∈ requests, P request.2) {s : Scope κ}
    (hs : ∀ e ∈ s.names, P e.2) : ∀ e ∈ (s.grantAll requests).names, P e.2 := by
  induction requests generalizing s with
  | nil => exact hs
  | cons request requests ih =>
    refine ih (fun r h => hr r (List.mem_cons_of_mem _ h)) fun e he => ?_
    unfold grant at he
    split at he
    · exact hs e he
    · rcases List.mem_append.mp he with he | he
      · exact hs e he
      · obtain rfl := List.mem_singleton.mp he
        exact firstFree_induct step (hr request List.mem_cons_self)

end Scope
end Shapewright.Registry
