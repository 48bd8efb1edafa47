import Shapewright.Proofs.Ordered
import Shapewright.Proofs.Result
import Shapewright.Toml.Node

/-!
# Tables in one part

Where every key of a table comes once, nothing has to be put together: a node under a new key is
added behind the others, and the table as a whole has the values of its nodes.
-/
namespace Shapewright.Toml.Nodes
open Result

variable {es : Nodes}

theorem under_of_not_mem {key : String} (fresh : key ∉ es.map (·.1)) : es.under key = [] := by
  have none : es.filter (·.1 == key) = [] := List.filter_eq_nil_iff.mpr fun e inside same =>
    fresh (List.mem_map.mpr ⟨e, inside, beq_iff_eq.mp same⟩)
  rw [under, none, List.map_nil]

theorem under_of_nodup (nodup : (es.map (·.1)).Nodup) {e : String × Node} (inside : e ∈ es) :
    es.under e.1 = [e.2] := by
  induction es with
  | nil => cases inside
  | cons f es ih =>
    obtain ⟨apart, rest⟩ := List.nodup_cons.mp nodup
    rcases List.mem_cons.mp inside with rfl | inside
    · have none := under_of_not_mem apart
      rw [under, List.filter_cons_of_pos (by simp), List.map_cons, ← under, none]
    · have other : ¬ f.1 = e.1 := fun same => apart (List.mem_map.mpr ⟨e, inside, same.symm⟩)
      rw [under, List.filter_cons_of_neg (by simpa using other), ← under, ih rest inside]

theorem under_concat {key : String} (fresh : key ∉ es.map (·.1)) (node : Node) :
    (es ++ [(key, node)]).under key = [node] := by
  have none := under_of_not_mem fresh
  rw [under] at none ⊢
  rw [List.filter_append, List.map_append, none]
  simp

theorem add_fresh (checked : Bool) (fuel : Nat) {key : String} (fresh : key ∉ es.map (·.1))
    (node : Node) :
    es.add checked (fuel + 1) key node = .ok (es ++ [(key, node)]) := by
  have none : es.last? key = none := by rw [last?, under_of_not_mem fresh, List.getLast?_nil]
  simp only [add, none]

theorem put_fresh (checked : Bool) (fuel : Nat) {key : String} (fresh : key ∉ es.map (·.1))
    (node : Node) :
    es.put checked (fuel + 2) (key, node) = .ok (es ++ [(key, node)]) := by
  rw [put, add_fresh checked fuel fresh, ok_bind]
  simp only [under_concat fresh]
  rfl

theorem keys_of_nodup (nodup : (es.map (·.1)).Nodup) : es.keys = es.map (·.1) :=
  Ordered.firstSeen_of_nodup nodup

theorem agreeAll_of_nodup (fuel : Nat) (es : Nodes) (nodup : (es.map (·.1)).Nodup) :
    es.agreeAll (fuel + 1) = .ok () := by
  have each : ∀ e ∈ es, agree (fuel + 1) es e.1 = .ok () := fun e inside => by
    rw [agree, under_of_nodup nodup inside]
  have all : ∀ entries : Nodes, (∀ e ∈ entries, agree (fuel + 1) es e.1 = .ok ()) →
      (entries.map (·.1)).forM (agree (fuel + 1) es) = .ok () := by
    intro entries
    induction entries with
    | nil => exact fun _ => rfl
    | cons e entries ih =>
      intro each
      have rest := ih fun f inside => each f (List.mem_cons_of_mem _ inside)
      simp only [List.forM_eq_forM] at rest
      simp only [List.forM_eq_forM, List.map_cons, List.forM_cons, each e List.mem_cons_self,
        ok_bind, rest]
  rw [agreeAll, keys_of_nodup nodup, all es each]

/-- A table is put together from the values under its keys. -/
theorem whole_of_nodup {ι : Type} {is : List ι} {key : ι → String} {node : ι → Node} {v : ι → Value}
    {fuel : Nat} (nodup : (is.map key).Nodup) (values : ∀ i ∈ is, value fuel [node i] = .ok (v i)) :
    whole (fuel + 1) (is.map fun i => (key i, node i)) = .ok (is.map fun i => (key i, v i)) := by
  have keys : (is.map fun i => (key i, node i)).map (·.1) = is.map key := by simp
  have under : ∀ i ∈ is, Nodes.under (is.map fun i => (key i, node i)) (key i) = [node i] :=
    fun i inside =>
    under_of_nodup (keys ▸ nodup) (List.mem_map_of_mem (f := fun i => (key i, node i)) inside)
  rw [whole, keys_of_nodup (keys ▸ nodup), keys, List.mapM_map]
  have gathers (one : ι → Except Clash (String × Value)) : Gathers one (List.mapM one) :=
    ⟨rfl, fun i is => List.mapM_cons⟩
  refine (gathers _).eq_ok fun i inside => ?_
  rw [Function.comp_apply, under i inside, values i inside]
  rfl

end Shapewright.Toml.Nodes
