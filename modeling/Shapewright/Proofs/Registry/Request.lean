import Shapewright.Proofs.Registry.Frame

/-!
# Requests to a registry

What can be asked of a registry, with the reply and with all that a request leaves behind. A request
that is refused leaves no trace, no request touches a scope that it is not about, and `Outcome`
lists what may become of one scope.
-/
namespace Shapewright.Registry
open Result

/-- What can be asked of a registry; `freezeScope` is for a scope that is there. -/
inductive Request (σ κ : Type) where
  | enter (scope : σ) (label : String) (forbidden : List String)
  | allocate (scope : σ) (key : κ) (preferred : String) (forbidden : List String)
      (retry : String → String)
  | find (scope : σ) (key : κ)
  | freezeScope (scope : σ)
  | freeze

variable {σ κ : Type}

namespace Request

/-- The scope that a request is about. -/
def scope? : Request σ κ → Option σ
  | .enter scope _ _ => some scope
  | .allocate scope _ _ _ _ => some scope
  | .find scope _ => some scope
  | .freezeScope scope => some scope
  | .freeze => none

/-- The forbidden names of a scope that the request makes. -/
def reserved : Request σ κ → List String
  | .enter _ _ forbidden => forbidden
  | _ => []

variable [DecidableEq σ] [DecidableEq κ] [KeyText σ]

/-- The reply, which holds a name if one was asked for, and the registry after it. A scope that was
made on the way stays even when the request is refused then. -/
def serve (r : Registry σ κ) : Request σ κ → Except (NamingError σ κ) (Option String) × Registry σ κ
  | .enter scope label forbidden =>
    match r.enter scope label forbidden with
    | .ok (_, t) => (.ok none, t)
    | .error e => (.error e, r)
  | .allocate scope key preferred forbidden retry =>
    match r.enter scope with
    | .error e => (.error e, r)
    | .ok (s, t) =>
      match s.allocate key preferred forbidden retry with
      | .ok (name, s) => (.ok (some name), t.put scope s)
      | .error e => (.error e, t)
  | .find scope key => ((r.find scope key).map some, r)
  | .freezeScope scope =>
    match r.scope? scope with
    | some s => (.ok none, r.put scope s.freeze)
    | none => (.error (.noScope scope), r)
  | .freeze => (.ok none, r.freeze)

/-- If the request has to look for a free name, it finds one. -/
def Settles (r : Registry σ κ) : Request σ κ → Prop
  | .allocate scope key preferred forbidden retry =>
    ∀ s t, r.enter scope = .ok (s, t) → s.name? key = none → s.frozen = false →
      Registry.Settles retry (s.taken ++ forbidden) preferred
  | _ => True

/-- If the request has to look for a free name, its candidates get longer and longer. -/
def Lengthens : Request σ κ → Prop
  | .allocate _ _ _ _ retry => Lengthening retry
  | _ => True

theorem Lengthens.settles {request : Request σ κ} (longer : request.Lengthens) (r : Registry σ κ) :
    request.Settles r := by
  cases request with
  | allocate scope key preferred forbidden retry =>
    intro s t entered unnamed opened
    exact Lengthening.settles longer _ _
  | _ => trivial

end Request

variable [DecidableEq σ] [DecidableEq κ] [KeyText σ] {r t start : Registry σ κ} {scope : σ}
  {request : Request σ κ} {s : Scope κ}

/-- What a request may make of one scope. -/
inductive Outcome (r : Registry σ κ) (request : Request σ κ) (scope : σ) : Option (Scope κ) → Prop
  | same : Outcome r request scope (r.scope? scope)
  | frozen (s : Scope κ) (there : r.scope? scope = some s) : Outcome r request scope (some s.freeze)
  | created (label : String) (forbidden : List String)
      (asked : request = .enter scope label forbidden)
      (absent : r.scope? scope = none) (opened : r.frozen = false) :
      Outcome r request scope (some (.new (labelFor scope label) forbidden))
  | named (s : Scope κ) (t : Registry σ κ) (key : κ) (preferred : String) (forbidden : List String)
      (retry : String → String) (asked : request = .allocate scope key preferred forbidden retry)
      (entered : r.enter scope = .ok (s, t)) (unnamed : s.name? key = none)
      (opened : s.frozen = false)
      (reply : (request.serve r).1 = .ok
        (some (firstFree retry (s.taken ++ forbidden) preferred))) :
      Outcome r request scope (some (s.give key (firstFree retry (s.taken ++ forbidden) preferred)))

/-- What a request may make of a registry: nothing, or one scope is new, or everything is frozen. -/
inductive Effect (r : Registry σ κ) (request : Request σ κ) : Prop
  | unchanged (same : (request.serve r).2 = r)
  | updated (scope : σ) (s : Scope κ) (reply : Option String) (asked : request.scope? = some scope)
      (done : (request.serve r).1 = .ok reply) (updates : Updates r scope s (request.serve r).2)
      (outcome : Outcome r request scope (some s))
  | frozen (asked : request = .freeze)

theorem effect_enter (r : Registry σ κ) (scope : σ) (label : String) (forbidden : List String) :
    Effect r (.enter scope label forbidden) := by
  cases there : r.scope? scope with
  | some s =>
    have entered := enter_existing there label forbidden
    exact .unchanged (by simp only [Request.serve, entered])
  | none =>
    cases opened : r.frozen with
    | true =>
      have refused := enter_frozen there opened label forbidden
      exact .unchanged (by simp only [Request.serve, refused])
    | false =>
      obtain ⟨t, entered, updates⟩ := enter_absent there opened label forbidden
      have served : (Request.enter scope label forbidden : Request σ κ).serve r =
          (.ok none, t) := by
        simp only [Request.serve, entered]
      exact .updated _ _ _ rfl (by rw [served]) (by rw [served]; exact updates)
        (.created _ _ rfl there opened)

section Allocate

variable {key : κ} {preferred : String} {forbidden : List String} {retry : String → String}

/-- A key that has a name keeps it. -/
theorem serve_allocate_named (there : r.scope? scope = some s) {name : String}
    (named : s.name? key = some name) :
    (Request.allocate scope key preferred forbidden retry).serve r =
      (.ok (some name), r.put scope s) := by
  simp only [Request.serve, enter_existing there, Scope.allocate_named named]

/-- A new key of an open scope gets the first name that is free. -/
theorem serve_allocate_open (entered : r.enter scope = .ok (s, t)) (unnamed : s.name? key = none)
    (opened : s.frozen = false) :
    (Request.allocate scope key preferred forbidden retry).serve r =
      (.ok (some (firstFree retry (s.taken ++ forbidden) preferred)),
        t.put scope (s.give key (firstFree retry (s.taken ++ forbidden) preferred))) := by
  simp only [Request.serve, entered, Scope.allocate_open unnamed opened]

theorem effect_allocate_existing (there : r.scope? scope = some s) :
    Effect r (.allocate scope key preferred forbidden retry) := by
  have entered := enter_existing there "" []
  cases named : s.name? key with
  | some name =>
    have served : (Request.allocate scope key preferred forbidden retry).serve r = _ :=
      serve_allocate_named there named
    have outcome : Outcome r (.allocate scope key preferred forbidden retry) scope (some s) :=
      there ▸ .same
    exact .updated _ _ _ rfl (by rw [served]) (by rw [served]; exact put_updates there) outcome
  | none =>
    cases opened : s.frozen with
    | true =>
      exact .unchanged (by simp only [Request.serve, entered, Scope.allocate_frozen named opened])
    | false =>
      have served : (Request.allocate scope key preferred forbidden retry).serve r = _ :=
        serve_allocate_open entered named opened
      exact .updated _ _ _ rfl (by rw [served]) (by rw [served]; exact put_updates there)
        (.named _ _ _ _ _ _ rfl entered named opened (by rw [served]))

/-- A scope that is made on the way is open and has no names, so the request is not refused after
that. -/
theorem effect_allocate (r : Registry σ κ) (scope : σ) (key : κ) (preferred : String)
    (forbidden : List String) (retry : String → String) :
    Effect r (.allocate scope key preferred forbidden retry) := by
  cases there : r.scope? scope with
  | some s => exact effect_allocate_existing there
  | none =>
    cases opened : r.frozen with
    | true =>
      have refused := enter_frozen there opened "" []
      exact .unchanged (by simp only [Request.serve, refused])
    | false =>
      obtain ⟨t, entered, updates⟩ := enter_absent there opened "" []
      have served : (Request.allocate scope key preferred forbidden retry).serve r = _ :=
        serve_allocate_open entered rfl rfl
      exact .updated _ _ _ rfl (by rw [served])
        (by rw [served]; exact updates.trans (put_updates updates.changed))
        (.named _ _ _ _ _ _ rfl entered rfl rfl (by rw [served]))

end Allocate

theorem effect_freezeScope (r : Registry σ κ) (scope : σ) : Effect r (.freezeScope scope) := by
  cases there : r.scope? scope with
  | none => exact .unchanged (by simp only [Request.serve, there])
  | some s =>
    have served : (Request.freezeScope scope : Request σ κ).serve r =
        (.ok none, r.put scope s.freeze) := by
      simp only [Request.serve, there]
    exact .updated _ _ _ rfl (by rw [served]) (by rw [served]; exact put_updates there)
      (.frozen _ there)

/-- All that a request can do. -/
theorem effect (r : Registry σ κ) (request : Request σ κ) : Effect r request := by
  cases request with
  | enter scope label forbidden => exact effect_enter r scope label forbidden
  | allocate scope key preferred forbidden retry =>
    exact effect_allocate r scope key preferred forbidden retry
  | find scope key => exact .unchanged rfl
  | freezeScope scope => exact effect_freezeScope r scope
  | freeze => exact .frozen rfl

/-- A request that is refused leaves the registry as it was. -/
theorem serve_refused {e : NamingError σ κ} (refused : (request.serve r).1 = .error e) :
    (request.serve r).2 = r := by
  cases effect r request with
  | unchanged same => exact same
  | updated _ _ _ asked done updates outcome =>
    rw [refused] at done
    cases done
  | frozen asked =>
    subst asked
    cases refused

/-- The two steps of an allocation may be taken as one: after the first of them nothing is refused
any more where the scope is new. -/
theorem serve_allocate (r : Registry σ κ) (scope : σ) (key : κ) (preferred : String)
    (forbidden : List String) (retry : String → String) :
    (Request.allocate scope key preferred forbidden retry).serve r =
      match r.allocate scope key preferred forbidden retry with
      | .ok (name, t) => (.ok (some name), t)
      | .error e => (.error e, r) := by
  cases entered : r.enter scope with
  | error e => simp only [Request.serve, Registry.allocate, entered, error_bind]
  | ok made =>
    obtain ⟨s, t⟩ := made
    cases given : (s.allocate key preferred forbidden retry : Except (NamingError σ κ) _) with
    | ok granted => simp only [Request.serve, Registry.allocate, entered, given, ok_bind, pure_eq]
    | error e =>
      have served : (Request.allocate scope key preferred forbidden retry).serve r =
          (.error e, t) := by
        simp only [Request.serve, entered, given]
      obtain rfl : t = r := by
        have same := serve_refused (congrArg Prod.fst served)
        rwa [served] at same
      simp only [served, Registry.allocate, entered, given, ok_bind, error_bind]

/-- A request leaves all scopes alone but the one that it is about. -/
theorem serve_framed {other : σ} (asked : request.scope? = some scope) (apart : other ≠ scope) :
    (request.serve r).2.scope? other = r.scope? other := by
  cases effect r request with
  | unchanged same => rw [same]
  | updated _ _ _ about done updates outcome =>
    obtain rfl := Option.some.inj (asked.symm.trans about)
    exact updates.kept other apart
  | frozen about =>
    subst about
    cases asked

theorem serve_outcome (request : Request σ κ) (r : Registry σ κ) (scope : σ) :
    Outcome r request scope ((request.serve r).2.scope? scope) := by
  cases effect r request with
  | unchanged same =>
    rw [same]
    exact .same
  | updated about s reply asked done updates outcome =>
    by_cases here : scope = about
    · subst here
      rw [updates.changed]
      exact outcome
    · rw [updates.kept scope here]
      exact .same
  | frozen asked =>
    subst asked
    rw [show (Request.freeze.serve r).2 = r.freeze from rfl, scope?_freeze]
    cases there : r.scope? scope with
    | none =>
      have absent : Outcome r .freeze scope none := there ▸ .same
      exact absent
    | some s => exact .frozen _ there

omit [DecidableEq κ] in
/-- The scope that an allocation works in is the one that is there, or a new one without forbidden
names. -/
theorem entered_cases (entered : r.enter scope = .ok (s, t)) :
    r.scope? scope = some s ∨
      r.scope? scope = none ∧ r.frozen = false ∧ s = .new (labelFor scope "") [] := by
  cases there : r.scope? scope with
  | some old =>
    rw [enter_existing there] at entered
    cases entered
    exact .inl rfl
  | none =>
    cases opened : r.frozen with
    | true =>
      rw [enter_frozen there opened] at entered
      cases entered
    | false =>
      obtain ⟨u, made, -⟩ := enter_absent there opened "" []
      rw [made] at entered
      cases entered
      exact .inr ⟨rfl, rfl, rfl⟩

/-- A scope stays, keeps its names and stays sound. -/
theorem Outcome.kept {o : Option (Scope κ)} (outcome : Outcome r request scope o)
    (there : r.scope? scope = some s) :
    ∃ next, o = some next ∧ (∀ key name, s.name? key = some name → next.name? key = some name) ∧
      (request.Settles r → ∀ forbidden, s.Sound forbidden → next.Sound forbidden) := by
  cases outcome with
  | same => exact ⟨s, there, fun _ _ named => named, fun _ _ sound => sound⟩
  | frozen _ here =>
    obtain rfl := Option.some.inj (there.symm.trans here)
    exact ⟨s.freeze, rfl, fun _ _ named => named, fun _ _ sound => sound.freeze⟩
  | created _ _ asked absent opened =>
    rw [there] at absent
    cases absent
  | named _ _ _ _ _ _ asked entered unnamed opened reply =>
    rw [enter_existing there] at entered
    cases entered
    refine ⟨_, rfl, fun key name named => Scope.name?_give_of_some named _ _,
      fun settles forbidden sound => ?_⟩
    subst asked
    have free := firstFree_not_mem (settles s r (enter_existing there "" []) unnamed opened)
    exact sound.give unnamed fun taken => free (List.mem_append_left _ taken)

/-- A scope that a request makes avoids what the request reserves. -/
theorem Outcome.sound_of_absent (outcome : Outcome r request scope (some s))
    (absent : r.scope? scope = none) (settles : request.Settles r) : s.Sound request.reserved := by
  generalize made : some s = o at outcome
  cases outcome with
  | same =>
    rw [absent] at made
    cases made
  | frozen _ there =>
    rw [absent] at there
    cases there
  | created _ _ asked _ opened =>
    cases made
    subst asked
    exact Scope.new_sound _ _
  | named _ _ _ _ _ _ asked entered unnamed opened reply =>
    cases made
    subst asked
    rcases entered_cases entered with there | ⟨-, -, rfl⟩
    · rw [absent] at there
      cases there
    · have free := firstFree_not_mem (settles _ _ entered unnamed opened)
      exact (Scope.new_sound _ _).give unnamed fun taken => free (List.mem_append_left _ taken)

/-- A key that has a name is found under it after every request. -/
theorem find_serve {key : κ} {name : String} (found : r.find scope key = .ok name)
    (request : Request σ κ) : (request.serve r).2.find scope key = .ok name := by
  obtain ⟨s, there, named⟩ := exists_scope_of_find found
  obtain ⟨next, here, keeps, -⟩ := (serve_outcome request r scope).kept there
  exact (find_eq_ok here).mpr (keeps key name named)

/-- A key that has a name gets it again, whatever it asks for. -/
theorem serve_allocate_again {key : κ} {name : String} (found : r.find scope key = .ok name)
    (preferred : String) (forbidden : List String) (retry : String → String) :
    ((Request.allocate scope key preferred forbidden retry).serve r).1 = .ok (some name) := by
  obtain ⟨s, there, named⟩ := exists_scope_of_find found
  rw [serve_allocate_named there named]

omit [DecidableEq κ] in
theorem scope?_of_enter (entered : r.enter scope = .ok (s, t)) : t.scope? scope = some s := by
  cases there : r.scope? scope with
  | some old =>
    rw [enter_existing there] at entered
    cases entered
    exact there
  | none =>
    cases opened : r.frozen with
    | true =>
      rw [enter_frozen there opened] at entered
      cases entered
    | false =>
      obtain ⟨u, made, updates⟩ := enter_absent there opened "" []
      rw [made] at entered
      cases entered
      exact updates.changed

/-- A name that is given is found. -/
theorem find_of_reply {key : κ} {preferred name : String} {forbidden : List String}
    {retry : String → String}
    (reply : ((Request.allocate scope key preferred forbidden retry).serve r).1 = .ok (some name)) :
    ((Request.allocate scope key preferred forbidden retry).serve r).2.find scope key =
      .ok name := by
  cases entered : r.enter scope with
  | error e => simp [Request.serve, entered] at reply
  | ok made =>
    obtain ⟨s, t⟩ := made
    cases given : (s.allocate key preferred forbidden retry : Except (NamingError σ κ) _) with
    | error e => simp [Request.serve, entered, given] at reply
    | ok granted =>
      obtain ⟨other, next⟩ := granted
      have served : (Request.allocate scope key preferred forbidden retry).serve r =
          (.ok (some other), t.put scope next) := by simp only [Request.serve, entered, given]
      rw [served] at reply ⊢
      cases reply
      exact (find_eq_ok (scope?_put_same (scope?_of_enter entered))).mpr
        (Scope.name?_of_allocate given)

/-- A key without a name in the scope that an allocation works in is not found. -/
theorem find_ne_ok_of_enter (entered : r.enter scope = .ok (s, t)) {key : κ}
    (unnamed : s.name? key = none) (name : String) : r.find scope key ≠ .ok name := by
  intro found
  obtain ⟨old, there, named⟩ := exists_scope_of_find found
  rw [enter_existing there] at entered
  cases entered
  rw [unnamed] at named
  cases named

/-- A new name avoids what the request was to avoid. -/
theorem serve_avoids {key : κ} {preferred name : String} {avoided : List String}
    {retry : String → String}
    (settles : (Request.allocate scope key preferred avoided retry).Settles r)
    (unnamed : ∀ old, r.find scope key ≠ .ok old)
    (reply : ((Request.allocate scope key preferred avoided retry).serve r).1 = .ok (some name)) :
    name ∉ avoided := by
  cases entered : r.enter scope with
  | error e => simp [Request.serve, entered] at reply
  | ok made =>
    obtain ⟨s, t⟩ := made
    have new : s.name? key = none := by
      refine Option.eq_none_iff_forall_ne_some.mpr fun old named => ?_
      rcases entered_cases entered with there | ⟨-, -, rfl⟩
      · exact unnamed old ((find_eq_ok there).mpr named)
      · cases named
    cases opened : s.frozen with
    | true => simp [Request.serve, entered, Scope.allocate_frozen new opened] at reply
    | false =>
      rw [serve_allocate_open entered new opened] at reply
      cases reply
      have free := firstFree_not_mem (settles s t entered new opened)
      exact fun inside => free (List.mem_append_right _ inside)

/-- A name in a scope was there before, or the request was to give it. -/
theorem Outcome.name_cases (outcome : Outcome r request scope (some s)) {key : κ} {name : String}
    (named : s.name? key = some name) :
    r.find scope key = .ok name ∨
      ∃ preferred forbidden retry, request = .allocate scope key preferred forbidden retry ∧
        (∀ old, r.find scope key ≠ .ok old) ∧ (request.serve r).1 = .ok (some name) := by
  generalize made : some s = o at outcome
  cases outcome with
  | same => exact .inl ((find_eq_ok made.symm).mpr named)
  | frozen old there =>
    cases made
    exact .inl ((find_eq_ok there).mpr named)
  | created label forbidden asked absent opened =>
    cases made
    cases named
  | named old u other preferred forbidden retry asked entered unnamed opened reply =>
    cases made
    by_cases same : key = other
    · subst same
      rw [Scope.name?_give_self unnamed] at named
      cases named
      exact .inr ⟨preferred, forbidden, retry, asked, find_ne_ok_of_enter entered unnamed, reply⟩
    · rw [Scope.name?_give_of_ne same] at named
      rcases entered_cases entered with there | ⟨-, -, rfl⟩
      · exact .inl ((find_eq_ok there).mpr named)
      · cases named

/-- The registry is frozen with all its scopes. -/
structure IsClosed (r : Registry σ κ) : Prop where
  frozen : r.frozen = true
  scopes : ∀ scope s, r.scope? scope = some s → s.frozen = true

omit [DecidableEq κ] [KeyText σ] in
theorem freeze_isClosed (r : Registry σ κ) : r.freeze.IsClosed := by
  refine ⟨rfl, fun scope s there => ?_⟩
  rw [scope?_freeze] at there
  obtain ⟨old, -, rfl⟩ := Option.map_eq_some_iff.mp there
  rfl

/-- In a closed registry no scope changes and none is made. -/
theorem IsClosed.scope?_serve (closed : r.IsClosed) (request : Request σ κ) (scope : σ) :
    (request.serve r).2.scope? scope = r.scope? scope := by
  have outcome := serve_outcome request r scope
  generalize (request.serve r).2.scope? scope = o at outcome
  cases outcome with
  | same => rfl
  | frozen s there =>
    have again : s.freeze = s := by rw [Scope.freeze, ← closed.scopes scope s there]
    rw [there, again]
  | created label forbidden asked absent opened =>
    rw [closed.frozen] at opened
    cases opened
  | named s t key preferred forbidden retry asked entered unnamed opened reply =>
    rcases entered_cases entered with there | ⟨-, loose, -⟩
    · rw [closed.scopes scope s there] at opened
      cases opened
    · rw [closed.frozen] at loose
      cases loose

theorem IsClosed.serve (closed : r.IsClosed) (request : Request σ κ) :
    (request.serve r).2.IsClosed := by
  have frozen : (request.serve r).2.frozen = true := by
    cases effect r request with
    | unchanged same => rw [same, closed.frozen]
    | updated scope s reply asked done updates outcome => rw [updates.frozen, closed.frozen]
    | frozen asked =>
      subst asked
      rfl
  refine ⟨frozen, fun scope s there => ?_⟩
  rw [closed.scope?_serve request scope] at there
  exact closed.scopes scope s there

end Shapewright.Registry
