/-
# Computations that fail and keep their state

What a computation has done to its state stays done when it fails.  A relation between the state
before and the state after that every step keeps is kept by the whole computation, whether it fails
or not.

Nothing here refers to a particular program.
-/

import Mathlib.Order.Defs.Unbundled

namespace HermesClaude.Library

universe u

/-- A computation that may fail; its state outlives the failure. -/
abbrev Stateful (ε σ α : Type u) := ExceptT ε (StateM σ) α

namespace Stateful

variable {ε σ α β : Type u} {R : σ → σ → Prop} {s t : σ}

/-- What a computation comes to, and the state it leaves behind. -/
def exec (x : Stateful ε σ α) (s : σ) : Except ε α × σ := x.run.run s

/-- A result that is there already. -/
def fromExcept (x : Except ε α) : Stateful ε σ α := ExceptT.mk (pure x)

/-- Answer from the state, and go on with another one. -/
def stepping (f : σ → α × σ) : Stateful ε σ α := ExceptT.mk fun s => (.ok (f s).1, (f s).2)

@[simp]
theorem exec_pure (a : α) : exec (pure a : Stateful ε σ α) s = (.ok a, s) := rfl

@[simp]
theorem exec_throw (e : ε) : exec (throw e : Stateful ε σ α) s = (.error e, s) := rfl

@[simp]
theorem exec_get : exec (get : Stateful ε σ σ) s = (.ok s, s) := rfl

@[simp]
theorem exec_modify (f : σ → σ) : exec (modify f : Stateful ε σ PUnit) s = (.ok ⟨⟩, f s) := rfl

@[simp]
theorem exec_fromExcept (x : Except ε α) : exec (fromExcept x : Stateful ε σ α) s = (x, s) := rfl

/-- A result that is there already leaves the state as it is. -/
theorem of_exec_fromExcept {x result : Except ε α} (h : exec (fromExcept x) s = (result, t)) :
    x = result ∧ s = t := Prod.mk.inj h

/-- What fails does not succeed. -/
theorem not_ok_of_error {e : ε} : ¬∃ a : α, (.error e : Except ε α) = .ok a := by
  rintro ⟨a, ha⟩
  cases ha

/-! ## One computation after the other -/

section Bind

variable {x : Stateful ε σ α} {f : α → Stateful ε σ β}

theorem exec_bind_of_ok {a : α} (h : exec x s = (.ok a, t)) : exec (x >>= f) s = exec (f a) t := by
  have hrun : x.run.run s = (.ok a, t) := h
  rw [exec, ExceptT.run_bind, StateT.run_bind, hrun]
  rfl

theorem exec_bind_of_error {e : ε} (h : exec x s = (.error e, t)) :
    exec (x >>= f) s = (.error e, t) := by
  have hrun : x.run.run s = (.error e, t) := h
  rw [exec, ExceptT.run_bind, StateT.run_bind, hrun]
  rfl

/-- Of two computations in a row the first fails, or the second goes on where the first ends. -/
theorem exec_bind_cases {result : Except ε β} (h : exec (x >>= f) s = (result, t)) :
    (∃ e, exec x s = (.error e, t) ∧ result = .error e) ∨
      ∃ a middle, exec x s = (.ok a, middle) ∧ exec (f a) middle = (result, t) := by
  rcases hx : exec x s with ⟨first, middle⟩
  cases first with
  | ok a =>
    rw [exec_bind_of_ok hx] at h
    exact .inr ⟨a, middle, rfl, h⟩
  | error e =>
    rw [exec_bind_of_error hx] at h
    cases h
    exact .inl ⟨e, rfl, rfl⟩

/-- Where two computations in a row succeed, both do. -/
theorem exec_bind_eq_ok {b : β} (h : exec (x >>= f) s = (.ok b, t)) :
    ∃ a middle, exec x s = (.ok a, middle) ∧ exec (f a) middle = (.ok b, t) := by
  rcases exec_bind_cases h with ⟨e, -, he⟩ | hsecond
  · cases he
  · exact hsecond

end Bind

section Catch

variable {x : Stateful ε σ α} {handler : ε → Stateful ε σ α}

theorem exec_tryCatch_of_ok {a : α} (h : exec x s = (.ok a, t)) :
    exec (tryCatch x handler) s = (.ok a, t) := by
  have hrun : x.run.run s = (.ok a, t) := h
  rw [exec, ExceptT.run_tryCatch, StateT.run_bind, hrun]
  rfl

theorem exec_tryCatch_of_error {e : ε} (h : exec x s = (.error e, t)) :
    exec (tryCatch x handler) s = exec (handler e) t := by
  have hrun : x.run.run s = (.error e, t) := h
  rw [exec, ExceptT.run_tryCatch, StateT.run_bind, hrun]
  rfl

end Catch

/-! ## What a computation keeps -/

/-- A computation keeps a relation between the states before and after it. -/
def Keeps (R : σ → σ → Prop) (x : Stateful ε σ α) : Prop := ∀ s, R s (exec x s).2

namespace Keeps

theorem pure [Std.Refl R] (a : α) : Keeps R (pure a : Stateful ε σ α) := fun s => refl_of R s

theorem throw [Std.Refl R] (e : ε) : Keeps R (throw e : Stateful ε σ α) := fun s => refl_of R s

theorem get [Std.Refl R] : Keeps R (get : Stateful ε σ σ) := fun s => refl_of R s

theorem fromExcept [Std.Refl R] (x : Except ε α) : Keeps R (fromExcept x : Stateful ε σ α) :=
  fun s => refl_of R s

/-- What keeps a relation keeps a weaker one. -/
theorem mono {R' : σ → σ → Prop} (hR : ∀ s t, R s t → R' s t) {x : Stateful ε σ α} (h : Keeps R x) :
    Keeps R' x := fun s => hR s (exec x s).2 (h s)

theorem modify {f : σ → σ} (h : ∀ s, R s (f s)) : Keeps R (modify f : Stateful ε σ PUnit) := h

theorem stepping {f : σ → α × σ} (h : ∀ s, R s (f s).2) : Keeps R (stepping f : Stateful ε σ α) := h

/-- **What every step keeps, the whole keeps.** -/
theorem bind [IsTrans σ R] {x : Stateful ε σ α} {f : α → Stateful ε σ β} (hx : Keeps R x)
    (hf : ∀ a, Keeps R (f a)) : Keeps R (x >>= f) := by
  intro s
  have hfirst := hx s
  rcases hexec : exec x s with ⟨result, t⟩
  rw [hexec] at hfirst
  cases result with
  | ok a =>
    rw [exec_bind_of_ok hexec]
    exact trans_of R hfirst (hf a t)
  | error e =>
    rw [exec_bind_of_error hexec]
    exact hfirst

/-- What a computation and its handler keep, they keep together. -/
theorem tryCatch [IsTrans σ R] {x : Stateful ε σ α} {handler : ε → Stateful ε σ α} (hx : Keeps R x)
    (hhandler : ∀ e, Keeps R (handler e)) : Keeps R (tryCatch x handler) := by
  intro s
  have hfirst := hx s
  rcases hexec : exec x s with ⟨result, t⟩
  rw [hexec] at hfirst
  cases result with
  | ok a =>
    rw [exec_tryCatch_of_ok hexec]
    exact hfirst
  | error e =>
    rw [exec_tryCatch_of_error hexec]
    exact trans_of R hfirst (hhandler e t)

/-- What both branches keep, their choice keeps. -/
theorem ite {c : Prop} [Decidable c] {x y : Stateful ε σ α} (hx : Keeps R x) (hy : Keeps R y) :
    Keeps R (if c then x else y) := by
  by_cases hc : c
  · rw [if_pos hc]
    exact hx
  · rw [if_neg hc]
    exact hy

/-- What a successful run leaves behind is related to where it began. -/
theorem of_exec {x : Stateful ε σ α} (h : Keeps R x) {result : Except ε α}
    (hexec : exec x s = (result, t)) : R s t := by
  have hrelated := h s
  rw [hexec] at hrelated
  exact hrelated

end Keeps

end Stateful

end HermesClaude.Library
