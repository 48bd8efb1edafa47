import Shapewright.Proofs.Plan.Complete
import Shapewright.Proofs.Plan.Names
import Shapewright.Settings.Basic

/-!
# Types of a plan

The names of all types that the source declares for a graph. They are capital, each is there once,
and none of them is a name that the source uses itself.
-/
namespace Shapewright.Plan
open Identifier Result
open Shape (nonNull)

variable {p : Plan}

def typeNames (p : Plan) : List String := p.graph.classes.map p.classFor ++ p.unions.map p.unionFor

/-- What is known of the plan of an accepted document. -/
structure Planned (p : Plan) : Prop where
  wf : p.graph.WellFormed
  unions : p.unions = p.graph.unions
  complete : Complete p
  capital : AllCapital p
  once : p.typeNames.Nodup
  fresh : ∀ name ∈ p.typeNames, name ∉ Settings.builtinNames

theorem Settled.typeNames_eq {g : Graph} {forbidden : List String} (h : Settled p g forbidden) :
    p.typeNames = (typesOf g).map fun t => valueOr "" (p.nameOfType t) := by
  rw [typeNames, h.graph, h.unions, typesOf, List.map_append, List.map_map, List.map_map]
  rfl

theorem NamesApart.eq_ok {κ : Type} {keys : List κ} {name : κ → Except EmitError String}
    {avoid : List String} (h : NamesApart keys name avoid) {k : κ} (hk : k ∈ keys) :
    name k = .ok (valueOr "" (name k)) := by
  obtain ⟨n, named, -⟩ := h.named k hk
  exact eq_ok_valueOr "" ⟨n, named⟩

theorem Settled.planned {g : Graph} {s : Settings} (h : Settled p g s.effectiveNames)
    (wf : g.WellFormed) :
    Planned p := by
  have apart := h.types_apart wf
  have names := h.typeNames_eq
  refine ⟨h.graph ▸ wf, h.unions.trans (congrArg Graph.unions h.graph.symm), h.complete wf,
    h.allCapital wf, ?_, ?_⟩
  · rw [names]
    refine (typesOf_nodup wf).map_on fun a ha b hb same => ?_
    by_contra different
    refine apart.apart a ha b hb different ?_
    rw [apart.eq_ok ha, apart.eq_ok hb, same]
  · intro name inside builtin
    rw [names] at inside
    obtain ⟨t, ht, rfl⟩ := List.mem_map.mp inside
    obtain ⟨n, named, avoided, -⟩ := apart.named t ht
    rw [named, valueOr_ok] at builtin
    exact avoided (List.mem_append_left _ builtin)

namespace Planned
variable (h : Planned p)
include h

theorem classFor_capital {c : RecordClass} (hc : c ∈ p.graph.classes) : IsCapital (p.classFor c) :=
  h.capital.className (h.complete.className_eq hc)

theorem unionFor_capital {u : Shape} (hu : u ∈ p.unions) : IsCapital (p.unionFor u) :=
  h.capital.unionName (h.complete.unionName_eq hu)

theorem propertyFor_capital {c : RecordClass} (hc : c ∈ p.graph.classes) {e : Text × Shape}
    (he : e ∈ c.properties) : IsCapital (p.propertyFor c e.1) :=
  h.capital.propertyName hc (h.complete.propertyName_eq hc he)

theorem fieldFor_capital {u m : Shape} (hu : u ∈ p.unions) (hm : m ∈ nonNull (membersOf u)) :
    IsCapital (p.fieldFor u m) :=
  h.capital.fieldName hu (h.complete.fieldName_eq hu hm)

theorem typeNames_capital : ∀ name ∈ p.typeNames, IsCapital name := by
  intro name inside
  rcases List.mem_append.mp inside with inside | inside
  · obtain ⟨c, hc, rfl⟩ := List.mem_map.mp inside
    exact h.classFor_capital hc
  · obtain ⟨u, hu, rfl⟩ := List.mem_map.mp inside
    exact h.unionFor_capital hu

end Planned
end Shapewright.Plan
