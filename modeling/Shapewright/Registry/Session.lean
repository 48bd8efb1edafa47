import Shapewright.Registry.Basic
import Shapewright.Text.Quoted

/-!
# Sessions

A session drives one registry, and one scope of its own beside it, step by step. Each step gives a
reply or is refused.
-/
namespace Shapewright.Registry

/-- Keys of a session: a word or a group of words. -/
inductive Label where
  | word (s : String)
  | group (parts : List String)
  deriving DecidableEq, Repr

def quotedGroup (parts : List String) : String :=
  Quoted.group (parts.map fun s : String => Quoted.quote s)

instance : KeyText Label where
  quoted
    | .word s => Quoted.quote s
    | .group parts => quotedGroup parts
  label
    | .word s => s
    | .group parts => quotedGroup parts

/-- What can be asked of one scope. -/
inductive ScopeStep where
  | allocate (key : Label) (preferred : String) (forbidden : List String) (retry : String → String)
  | find (key : Label)
  | contains (key : Label)
  | isTaken (name : String)
  | freeze
  | names

inductive Step where
  | allocate (scope key : Label) (preferred : String) (forbidden : List String)
      (retry : String → String)
  | find (scope key : Label)
  | enter (scope : Label) (label : String) (forbidden : List String)
  | freeze
  | isFrozen
  /-- A step in the given scope of the registry, or in the session's own scope. -/
  | inScope (scope : Option Label) (step : ScopeStep)

inductive Reply where
  | name (s : String)
  | flag (b : Bool)
  | done
  | names (entries : List (Label × String))
  | scope (label : String) (entries : List (Label × String))

structure Session where
  registry : Registry Label Label
  own : Scope Label

abbrev Refusal := NamingError Label Label

def Session.new (label : String) (registryForbidden ownForbidden : List String) : Session :=
  ⟨.new (.word "types") registryForbidden, .new label ownForbidden⟩

/-- How a scope describes itself. -/
def Scope.description (label : String) (size : Nat) : String :=
  "NameScope(" ++ Quoted.quote label ++ s!", names={size})"

def ScopeStep.run (s : Scope Label) : ScopeStep → Except Refusal (Reply × Scope Label)
  | .allocate key preferred forbidden retry => do
    let (name, s) ← s.allocate key preferred forbidden retry
    return (.name name, s)
  | .find key => return (.name (← s.find key), s)
  | .contains key => return (.flag (s.name? key).isSome, s)
  | .isTaken name => return (.flag (s.isTaken name), s)
  | .freeze => return (.done, s.freeze)
  | .names => return (.names s.names, s)

/-- Entering a scope counts even when the step inside it is refused. -/
def Session.step (session : Session) : Step → Except Refusal Reply × Session
  | .allocate scope key preferred forbidden retry =>
    match session.registry.allocate scope key preferred forbidden retry with
    | .ok (name, r) => (.ok (.name name), { session with registry := r })
    | .error e => (.error e, session)
  | .find scope key => ((session.registry.find scope key).map .name, session)
  | .enter scope label forbidden =>
    match session.registry.enter scope label forbidden with
    | .ok (s, r) => (.ok (.scope s.label s.names), { session with registry := r })
    | .error e => (.error e, session)
  | .freeze => (.ok (.flag true), { session with registry := session.registry.freeze })
  | .isFrozen => (.ok (.flag session.registry.frozen), session)
  | .inScope none step =>
    match step.run session.own with
    | .ok (reply, s) => (.ok reply, { session with own := s })
    | .error e => (.error e, session)
  | .inScope (some scope) step =>
    match session.registry.enter scope with
    | .error e => (.error e, session)
    | .ok (s, r) =>
      match step.run s with
      | .ok (reply, s) => (.ok reply, { session with registry := r.put scope s })
      | .error e => (.error e, { session with registry := r })

def Session.run (session : Session) : List Step → List (Except Refusal Reply)
  | [] => []
  | step :: steps =>
    let (reply, next) := session.step step
    reply :: next.run steps

end Shapewright.Registry
