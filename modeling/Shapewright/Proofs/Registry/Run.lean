import Shapewright.Proofs.Registry.Request
import Shapewright.Registry.Session

/-!
# Runs of a registry

A run serves requests one after another and remembers each of them with the registry that it met. At
the end of every run the names of a scope are unique and avoid what was forbidden, every name is
found again from then on, and a request changes no scope but its own, or nothing at all where it is
refused.
-/
namespace Shapewright.Registry

variable {σ κ : Type} [DecidableEq σ] [DecidableEq κ] [KeyText σ] {r start : Registry σ κ}
  {scope : σ} {s : Scope κ}

/-- The requests of a run, latest first, each with the registry that it met. -/
abbrev Past (σ κ : Type) := List (Registry σ κ × Request σ κ)

/-- A run serves requests one after another; every search for a free name comes to an end. -/
inductive Run (start : Registry σ κ) : Past σ κ → Registry σ κ → Prop
  | start : Run start [] start
  | serve {past : Past σ κ} {r : Registry σ κ} (run : Run start past r) (request : Request σ κ)
      (settles : request.Settles r) : Run start ((r, request) :: past) (request.serve r).2

/-- The past and the registry after some more requests. -/
def serveAll (past : Past σ κ) (r : Registry σ κ) : List (Request σ κ) → Past σ κ × Registry σ κ
  | [] => (past, r)
  | request :: requests => serveAll ((r, request) :: past) (request.serve r).2 requests

/-- Any requests can go on a run, as long as the candidates of each get longer. -/
theorem Run.serveAll {past : Past σ κ} (run : Run start past r) {requests : List (Request σ κ)}
    (longer : ∀ request ∈ requests, request.Lengthens) :
    Run start (serveAll past r requests).1 (serveAll past r requests).2 := by
  induction requests generalizing past r with
  | nil => exact run
  | cons request requests ih =>
    obtain ⟨here, rest⟩ := List.forall_mem_cons.mp longer
    exact ih (run.serve request (here.settles r)) rest

/-- The scope was made with these forbidden names, at the start or by a request of the run. -/
inductive Created (first : σ) (forbidden : List String) (past : Past σ κ) (scope : σ) :
    List String → Prop
  | first (same : scope = first) : Created first forbidden past scope forbidden
  | served (r : Registry σ κ) (request : Request σ κ) (met : (r, request) ∈ past)
      (absent : r.scope? scope = none) (there : ((request.serve r).2.scope? scope).isSome) :
      Created first forbidden past scope request.reserved

/-- The key got its name by a request of the run that was to avoid these names. -/
inductive Granted (past : Past σ κ) (scope : σ) (key : κ) (name : String) : List String → Prop
  | served (r : Registry σ κ) (preferred : String) (avoided : List String) (retry : String → String)
      (met : (r, .allocate scope key preferred avoided retry) ∈ past)
      (unnamed : ∀ old, r.find scope key ≠ .ok old)
      (reply : ((Request.allocate scope key preferred avoided retry).serve r).1 = .ok (some name)) :
      Granted past scope key name avoided

/-- A request of the run asked for a name of the key and was not refused. -/
def Allocated (past : Past σ κ) (scope : σ) (key : κ) : Prop :=
  ∃ r preferred avoided retry name, (r, Request.allocate scope key preferred avoided retry) ∈ past ∧
    ((Request.allocate scope key preferred avoided retry).serve r).1 = .ok (some name)

/-- What holds at the end of a run that began with one scope and its forbidden names. -/
structure KeepsPromises (first : σ) (forbidden : List String) (past : Past σ κ) (r : Registry σ κ) :
    Prop where
  apart : ∀ scope key other name, r.find scope key = .ok name → r.find scope other = .ok name →
    key = other
  created : ∀ scope s, r.scope? scope = some s →
    ∃ reserved, Created first forbidden past scope reserved
  /-- The names avoid those that the scope was made with, and with them they are what is taken. -/
  sound : ∀ scope s reserved, r.scope? scope = some s →
    Created first forbidden past scope reserved →
    s.Sound reserved
  granted : ∀ scope key name, r.find scope key = .ok name →
    ∃ avoided, Granted past scope key name avoided
  avoided : ∀ scope key name avoided, Granted past scope key name avoided → name ∉ avoided
  found : ∀ scope key, (∃ name, r.find scope key = .ok name) ↔ Allocated past scope key
  stable : ∀ scope key name, r.find scope key = .ok name → ∀ later t, Run r later t →
    t.find scope key = .ok name ∧ ∀ preferred forbidden retry,
      ((Request.allocate scope key preferred forbidden retry).serve t).1 = .ok (some name)
  framed : ∀ (request : Request σ κ) scope, request.scope? = some scope → ∀ other, other ≠ scope →
    (request.serve r).2.scope? other = r.scope? other
  refused : ∀ (request : Request σ κ) e, (request.serve r).1 = .error e → (request.serve r).2 = r
  closed : ∀ later t, Run r.freeze later t → ∀ scope, t.scope? scope = r.freeze.scope? scope

section Runs

variable {past later : Past σ κ} {first : σ} {forbidden : List String}

theorem Created.mono {reserved : List String} (h : Created first forbidden past scope reserved)
    (met : Registry σ κ × Request σ κ) : Created first forbidden (met :: past) scope reserved := by
  cases h with
  | first same => exact .first same
  | served r request old absent there =>
    exact .served r request (List.mem_cons_of_mem _ old) absent there

theorem Granted.mono {key : κ} {name : String} {avoided : List String}
    (h : Granted past scope key name avoided) (met : Registry σ κ × Request σ κ) :
    Granted (met :: past) scope key name avoided := by
  cases h with
  | served r preferred avoided retry old unnamed reply =>
    exact .served r preferred avoided retry (List.mem_cons_of_mem _ old) unnamed reply

theorem Run.settles (run : Run start past r) : ∀ e ∈ past, e.2.Settles e.1 := by
  induction run with
  | start => simp
  | serve run request settles ih => exact List.forall_mem_cons.mpr ⟨settles, ih⟩

/-- A name that is found once is found at the end of the run. -/
theorem Run.find_kept (run : Run start past r) {key : κ} {name : String}
    (found : start.find scope key = .ok name) : r.find scope key = .ok name := by
  induction run with
  | start => exact found
  | serve run request settles ih => exact find_serve ih request

/-- A scope that was made is there at the end, and it is sound. -/
theorem Run.sound_of_created (run : Run (Registry.new first forbidden) past r)
    {reserved : List String} (created : Created first forbidden past scope reserved) :
    ∃ s, r.scope? scope = some s ∧ s.Sound reserved := by
  induction run with
  | start =>
    cases created with
    | first same =>
      subst same
      exact ⟨_, List.lookup_cons_self, Scope.new_sound _ _⟩
    | served r request met => cases met
  | @serve past r run request settles ih =>
    have older : Created first forbidden past scope reserved →
        ∃ s, (request.serve r).2.scope? scope = some s ∧ s.Sound reserved := by
      intro before
      obtain ⟨s, there, sound⟩ := ih before
      obtain ⟨next, here, -, keeps⟩ := (serve_outcome request r scope).kept there
      exact ⟨next, here, keeps settles _ sound⟩
    cases created with
    | first same => exact older (.first same)
    | served q asked met absent there =>
      rcases List.mem_cons.mp met with same | met
      · cases same
        obtain ⟨s, here⟩ := Option.isSome_iff_exists.mp there
        have outcome := serve_outcome request r scope
        rw [here] at outcome
        exact ⟨s, here, outcome.sound_of_absent absent settles⟩
      · exact older (.served q asked met absent there)

/-- Every scope was made at some point. -/
theorem Run.exists_created (run : Run (Registry.new first forbidden) past r)
    (there : r.scope? scope = some s) :
    ∃ reserved, Created first forbidden past scope reserved := by
  induction run generalizing s with
  | start =>
    by_cases same : scope = first
    · exact ⟨forbidden, .first same⟩
    · have other : (scope == first) = false := by simpa using same
      simp [Registry.new, scope?, List.lookup_cons, other] at there
  | @serve past r run request settles ih =>
    cases before : r.scope? scope with
    | some old =>
      obtain ⟨reserved, created⟩ := ih before
      exact ⟨reserved, created.mono _⟩
    | none =>
      exact ⟨_,
        .served r request List.mem_cons_self before (Option.isSome_iff_exists.mpr ⟨s, there⟩)⟩

/-- Every name was given by a request. -/
theorem Run.exists_granted (run : Run (Registry.new first forbidden) past r) {key : κ}
    {name : String} (found : r.find scope key = .ok name) :
    ∃ avoided, Granted past scope key name avoided := by
  induction run with
  | start =>
    obtain ⟨s, there, named⟩ := exists_scope_of_find found
    by_cases same : scope = first
    · subst same
      obtain rfl : Scope.new (KeyText.label scope) forbidden = s :=
        Option.some.inj (List.lookup_cons_self.symm.trans there)
      cases named
    · have other : (scope == first) = false := by simpa using same
      simp [Registry.new, scope?, List.lookup_cons, other] at there
  | @serve past r run request settles ih =>
    obtain ⟨s, there, named⟩ := exists_scope_of_find found
    have outcome := serve_outcome request r scope
    rw [there] at outcome
    rcases outcome.name_cases named with before | ⟨preferred, avoided, retry, rfl, unnamed, reply⟩
    · obtain ⟨avoided, granted⟩ := ih before
      exact ⟨avoided, granted.mono _⟩
    · exact ⟨avoided, .served r preferred avoided retry List.mem_cons_self unnamed reply⟩

/-- A name avoids what the request that gave it was to avoid. -/
theorem Run.not_mem_of_granted (run : Run start past r) {key : κ} {name : String}
    {avoided : List String} (granted : Granted past scope key name avoided) : name ∉ avoided := by
  cases granted with
  | served q preferred avoided retry met unnamed reply =>
    exact serve_avoids (run.settles _ met) unnamed reply

theorem Run.find_of_allocated (run : Run start past r) {key : κ}
    (allocated : Allocated past scope key) :
    ∃ name, r.find scope key = .ok name := by
  induction run with
  | start =>
    obtain ⟨q, preferred, avoided, retry, name, met, reply⟩ := allocated
    cases met
  | @serve past r run request settles ih =>
    obtain ⟨q, preferred, avoided, retry, name, met, reply⟩ := allocated
    rcases List.mem_cons.mp met with same | met
    · cases same
      exact ⟨name, find_of_reply reply⟩
    · obtain ⟨old, found⟩ := ih ⟨q, preferred, avoided, retry, name, met, reply⟩
      exact ⟨old, find_serve found request⟩

theorem Granted.allocated {key : κ} {name : String} {avoided : List String}
    (granted : Granted past scope key name avoided) : Allocated past scope key := by
  cases granted with
  | served r preferred avoided retry met unnamed reply =>
    exact ⟨r, preferred, avoided, retry, name, met, reply⟩

theorem Run.closed (run : Run start past r) (closed : start.IsClosed) :
    r.IsClosed ∧ ∀ scope, r.scope? scope = start.scope? scope := by
  induction run with
  | start => exact ⟨closed, fun _ => rfl⟩
  | serve run request settles ih =>
    obtain ⟨here, same⟩ := ih
    exact ⟨here.serve request, fun scope => (here.scope?_serve request scope).trans (same scope)⟩

/-- Every run from a new registry keeps all promises. -/
theorem run_keepsPromises (run : Run (Registry.new first forbidden) past r) :
    KeepsPromises first forbidden past r where
  apart scope key other name found also := by
    obtain ⟨s, there, named⟩ := exists_scope_of_find found
    obtain ⟨reserved, created⟩ := run.exists_created there
    obtain ⟨t, here, sound⟩ := run.sound_of_created created
    obtain rfl := Option.some.inj (there.symm.trans here)
    exact sound.key_unique named ((find_eq_ok there).mp also)
  created scope s there := run.exists_created there
  sound scope s reserved there created := by
    obtain ⟨t, here, sound⟩ := run.sound_of_created created
    obtain rfl := Option.some.inj (there.symm.trans here)
    exact sound
  granted scope key name found := run.exists_granted found
  avoided scope key name avoided granted := run.not_mem_of_granted granted
  found scope key := by
    refine ⟨fun ⟨name, found⟩ => ?_, run.find_of_allocated⟩
    obtain ⟨avoided, granted⟩ := run.exists_granted found
    exact granted.allocated
  stable scope key name found later t next := by
    have still := next.find_kept found
    exact ⟨still, serve_allocate_again still⟩
  framed request scope asked other apart := serve_framed asked apart
  refused request e refused := serve_refused refused
  closed later t next := (next.closed (freeze_isClosed r)).2

end Runs

/-- The requests that a step of a session makes to its registry. -/
def Step.requests : Step → List (Request Label Label)
  | .allocate scope key preferred forbidden retry => [.allocate scope key preferred forbidden retry]
  | .find scope key => [.find scope key]
  | .enter scope label forbidden => [.enter scope label forbidden]
  | .freeze => [.freeze]
  | .isFrozen => []
  | .inScope none _ => []
  | .inScope (some scope) step => .enter scope "" [] ::
    match step with
    | .allocate key preferred forbidden retry => [.allocate scope key preferred forbidden retry]
    | .find key => [.find scope key]
    | .freeze => [.freezeScope scope]
    | .contains _ | .isTaken _ | .names => []

omit [DecidableEq κ] [KeyText σ] in
/-- A scope that is put back as it was changes nothing. -/
theorem scope?_put_back (there : r.scope? scope = some s) (other : σ) :
    (r.put scope s).scope? other = r.scope? other := by
  by_cases same : other = scope
  · rw [same, scope?_put_same there, there]
  · exact scope?_put_other same

/-- A step in a scope that was entered. -/
theorem Session.inScope_registry {session : Session} {scope : Label} {s : Scope Label}
    {t : Registry Label Label} (entered : session.registry.enter scope = .ok (s, t))
    (step : ScopeStep) (other : Label) :
    (session.step (.inScope (some scope) step)).2.registry.scope? other =
      (serveAll [] session.registry (Step.inScope (some scope) step).requests).2.scope? other := by
  have there := scope?_of_enter entered
  have again := enter_existing there "" []
  cases step with
  | allocate key preferred forbidden retry =>
    cases given : (s.allocate key preferred forbidden retry : Except Refusal _) <;>
      simp [Session.step, ScopeStep.run, serveAll, Step.requests, Request.serve, entered, again,
        given]
  | find key =>
    cases named : (s.find key : Except Refusal _) <;>
      simp [Session.step, ScopeStep.run, serveAll, Step.requests, Request.serve, entered, named,
        scope?_put_back there]
  | freeze =>
    simp [Session.step, ScopeStep.run, serveAll, Step.requests, Request.serve, entered, there]
  | contains key | isTaken name | names =>
    simp [Session.step, ScopeStep.run, serveAll, Step.requests, Request.serve, entered,
      scope?_put_back there]

/-- A step of a session leaves the registry as its requests do. -/
theorem Session.step_registry (session : Session) (step : Step) (other : Label) :
    (session.step step).2.registry.scope? other =
      (serveAll [] session.registry step.requests).2.scope? other := by
  cases step with
  | allocate scope key preferred forbidden retry =>
    have served := serve_allocate session.registry scope key preferred forbidden retry
    cases given : session.registry.allocate scope key preferred forbidden retry <;>
      simp [Session.step, serveAll, Step.requests, served, given]
  | find scope key => rfl
  | enter scope label forbidden =>
    cases entered : session.registry.enter scope label forbidden <;>
      simp [Session.step, serveAll, Step.requests, Request.serve, entered]
  | freeze => rfl
  | isFrozen => rfl
  | inScope place step =>
    cases place with
    | none => cases ran : step.run session.own <;> simp [Session.step, serveAll, Step.requests, ran]
    | some scope =>
      cases entered : session.registry.enter scope with
      | ok made => exact Session.inScope_registry entered step other
      | error e =>
        have absent : session.registry.scope? scope = none := by
          cases there : session.registry.scope? scope with
          | none => rfl
          | some s =>
            rw [enter_existing there] at entered
            cases entered
        cases step <;> simp [Session.step, serveAll, Step.requests, Request.serve, entered, absent]

/-- Three requests in one scope, the second for a name that is taken, then a frozen
registry and a request after it. -/
def sampleRequests : List (Request Label Label) :=
  let properties : Label := .group ["properties", "Pet"]
  [.enter properties "properties of Pet" ["Pet"],
   .allocate properties (.word "pet") "Pet" ["OtherPet"] otherwise,
   .allocate properties (.word "PET") "Pet" [] otherwise,
   .freeze,
   .allocate properties (.word "pet") "Dog" [] otherwise]

theorem sample_keepsPromises :
    let start : Registry Label Label := .new (.word "types") ["Convert"]
    let (past, r) := serveAll [] start sampleRequests
    Run start past r ∧ KeepsPromises (.word "types") ["Convert"] past r := by
  intro start
  have longer : ∀ request ∈ sampleRequests, request.Lengthens := by
    simp [sampleRequests, Request.Lengthens, otherwise_lengthening]
  have begun : Run start [] start := .start
  have run := begun.serveAll longer
  exact ⟨run, run_keepsPromises run⟩

end Shapewright.Registry
