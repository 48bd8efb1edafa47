import Shapewright.Proofs.Registry.Scope
import Shapewright.Proofs.Result
import Shapewright.Registry.Basic

/-!
# Registries change one scope at a time

`Updates` says that one scope of a registry is new and nothing else has changed. Every operation
that succeeds is such an update, and freezing leaves all names as they are.
-/
namespace Shapewright.Registry
open Result

variable {σ κ : Type} [DecidableEq σ] [DecidableEq κ] [KeyText σ] {r t : Registry σ κ} {scope : σ}
  {s : Scope κ}

omit [DecidableEq κ] [KeyText σ] in
theorem scope?_put_same {old : Scope κ} (h : r.scope? scope = some old) :
    (r.put scope s).scope? scope = some s := by
  obtain ⟨scopes, frozen⟩ := r
  simp only [scope?, put] at h ⊢
  induction scopes with
  | nil => simp at h
  | cons p scopes ih =>
    obtain ⟨key, held⟩ := p
    by_cases same : key = scope
    · simp [same]
    · have other : (scope == key) = false := by simpa using Ne.symm same
      simp only [List.lookup_cons, other, List.map_cons, if_neg same] at h ⊢
      exact ih h

omit [DecidableEq κ] [KeyText σ] in
theorem scope?_put_other {other : σ} (apart : other ≠ scope) :
    (r.put scope s).scope? other = r.scope? other := by
  obtain ⟨scopes, frozen⟩ := r
  simp only [scope?, put]
  induction scopes with
  | nil => rfl
  | cons p scopes ih =>
    obtain ⟨key, held⟩ := p
    by_cases same : key = scope
    · subst same
      have here : (other == key) = false := by simpa using apart
      simp only [List.map_cons, if_true, List.lookup_cons, here, ih]
    · simp only [List.map_cons, if_neg same, List.lookup_cons, ih]

/-- `t` is `r` but for one scope, which is `s` now. -/
structure Updates (r : Registry σ κ) (scope : σ) (s : Scope κ) (t : Registry σ κ) : Prop where
  changed : t.scope? scope = some s
  kept : ∀ other, other ≠ scope → t.scope? other = r.scope? other
  frozen : t.frozen = r.frozen

omit [DecidableEq κ] [KeyText σ] in
theorem Updates.trans {next : Scope κ} {u : Registry σ κ} (first : Updates r scope s t)
    (second : Updates t scope next u) : Updates r scope next u :=
  ⟨second.changed, fun other apart => (second.kept other apart).trans (first.kept other apart),
    second.frozen.trans first.frozen⟩

omit [DecidableEq κ] [KeyText σ] in
theorem put_updates {old : Scope κ} (h : r.scope? scope = some old) :
    Updates r scope s (r.put scope s) :=
  ⟨scope?_put_same h, fun _ apart => scope?_put_other apart, rfl⟩

omit [DecidableEq κ] in
theorem enter_existing (h : r.scope? scope = some s) (label : String) (forbidden : List String) :
    r.enter scope label forbidden = .ok (s, r) := by
  simp only [enter, h]

/-- The label of a scope that is made under a key. -/
def labelFor (scope : σ) (label : String) : String :=
  if label.isEmpty then KeyText.label scope else label

omit [DecidableEq κ] in
/-- Entering a scope that is not there yet makes it, with its forbidden names. -/
theorem enter_absent (absent : r.scope? scope = none) (opened : r.frozen = false) (label : String)
    (forbidden : List String) :
    ∃ t, r.enter scope label forbidden = .ok (.new (labelFor scope label) forbidden, t) ∧
      Updates r scope (.new (labelFor scope label) forbidden) t := by
  refine ⟨{ r with scopes := r.scopes ++ [(scope, .new (labelFor scope label) forbidden)] }, ?_, ?_,
    ?_, rfl⟩
  · simp [enter, absent, opened, labelFor]
  · simp only [scope?] at absent ⊢
    rw [List.lookup_append, absent, Option.none_or, List.lookup_cons_self]
  · intro other apart
    have there : (other == scope) = false := by simpa using apart
    simp [scope?, List.lookup_append, List.lookup_cons, there]

omit [DecidableEq κ] in
theorem enter_new (absent : r.scope? scope = none) (opened : r.frozen = false) {label : String}
    (labelled : label.isEmpty = false) (forbidden : List String) :
    ∃ t, r.enter scope label forbidden = .ok (.new label forbidden, t) ∧
      Updates r scope (.new label forbidden) t := by
  have made := enter_absent (κ := κ) absent opened label forbidden
  simpa only [labelFor, labelled, Bool.false_eq_true, if_false] using made

omit [DecidableEq κ] in
/-- A frozen registry makes no scope. -/
theorem enter_frozen (absent : r.scope? scope = none) (frozen : r.frozen = true) (label : String)
    (forbidden : List String) : r.enter scope label forbidden = .error (.registryFrozen scope) := by
  simp [enter, absent, frozen]

theorem allocate_updates (h : r.scope? scope = some s) (opened : s.frozen = false)
    (request : κ × String) :
    ∃ name t, r.allocate scope request.1 request.2 = .ok (name, t) ∧
      Updates r scope (s.grant request) t := by
  obtain ⟨name, granted⟩ := s.allocate_eq_grant (σ := σ) opened request
  refine ⟨name, r.put scope (s.grant request), ?_, put_updates h⟩
  simp only [allocate, enter_existing h, ok_bind, granted, pure_eq]

omit [DecidableEq κ] [KeyText σ] in
@[simp] theorem scope?_freeze (r : Registry σ κ) (scope : σ) :
    r.freeze.scope? scope = (r.scope? scope).map Scope.freeze := by
  obtain ⟨scopes, frozen⟩ := r
  simp only [scope?, freeze]
  induction scopes with
  | nil => rfl
  | cons p scopes ih =>
    obtain ⟨key, held⟩ := p
    simp only [List.map_cons, List.lookup_cons, ih]
    split <;> rfl

omit [KeyText σ] in
theorem find_of_scope? (h : r.scope? scope = some s) (key : κ) : r.find scope key = s.find key := by
  simp only [find, h]

omit [KeyText σ] in
/-- A name is found exactly when the scope has it. -/
theorem find_eq_ok (h : r.scope? scope = some s) {key : κ} {name : String} :
    r.find scope key = .ok name ↔ s.name? key = some name := by
  rw [find_of_scope? h, Scope.find]
  cases s.name? key <;> simp

omit [KeyText σ] in
theorem exists_scope_of_find {key : κ} {name : String} (h : r.find scope key = .ok name) :
    ∃ s, r.scope? scope = some s ∧ s.name? key = some name := by
  cases there : r.scope? scope with
  | none => simp [find, there] at h
  | some s => exact ⟨s, rfl, (find_eq_ok there).mp h⟩

end Shapewright.Registry
