/-!
# Results

Computations that may be refused. `valueOr` reads a result as if it were there, so that a
computation of many steps can be written out once it is known that every step succeeds.
-/
namespace Shapewright.Result

variable {ε α β : Type}

@[simp] theorem ok_bind (a : α) (f : α → Except ε β) : (Except.ok a >>= f) = f a := rfl

@[simp] theorem error_bind (e : ε) (f : α → Except ε β) :
    ((Except.error e : Except ε α) >>= f) = .error e := rfl

@[simp] theorem pure_eq (a : α) : (pure a : Except ε α) = .ok a := rfl

/-- A chain succeeds only when its first step does and the rest does after it. -/
theorem bind_eq_ok {x : Except ε α} {f : α → Except ε β} {b : β} :
    (x >>= f) = .ok b ↔ ∃ a, x = .ok a ∧ f a = .ok b := by
  cases x <;> simp

/-- It fails where its first failing step does. -/
theorem bind_eq_error {x : Except ε α} {f : α → Except ε β} {e : ε} :
    (x >>= f) = .error e ↔ x = .error e ∨ ∃ a, x = .ok a ∧ f a = .error e := by
  cases x <;> simp

theorem map_eq_ok {x : Except ε α} {f : α → β} {b : β} :
    x.map f = .ok b ↔ ∃ a, x = .ok a ∧ f a = b := by
  cases x <;> simp [Except.map]

theorem map_eq_error {x : Except ε α} {f : α → β} {e : ε} : x.map f = .error e ↔ x = .error e := by
  cases x <;> simp [Except.map]

/-- The value of a result, or another one where there is none. -/
def valueOr (other : α) : Except ε α → α
  | .ok a => a
  | .error _ => other

@[simp] theorem valueOr_ok (other a : α) : valueOr other (.ok a : Except ε α) = a := rfl

theorem eq_ok_valueOr {x : Except ε α} (other : α) (h : ∃ a, x = .ok a) :
    x = .ok (valueOr other x) := by
  obtain ⟨a, rfl⟩ := h
  rfl

/-- A function on lists that takes the results of the elements one after another. -/
structure Gathers (one : α → Except ε β) (all : List α → Except ε (List β)) : Prop where
  nil : all [] = .ok []
  cons : ∀ a as, all (a :: as) = do
    let b ← one a
    return b :: (← all as)

theorem Gathers.eq_ok {one : α → Except ε β} {all : List α → Except ε (List β)}
    (h : Gathers one all) {result : α → β} {as : List α} (ok : ∀ a ∈ as, one a = .ok (result a)) :
    all as = .ok (as.map result) := by
  induction as with
  | nil => exact h.nil
  | cons a as ih =>
    rw [h.cons, ok a List.mem_cons_self, ok_bind, ih fun b hb => ok b (List.mem_cons_of_mem _ hb),
      ok_bind, pure_eq, List.map_cons]

end Shapewright.Result
