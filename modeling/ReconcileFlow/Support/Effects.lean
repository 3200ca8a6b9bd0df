import Mathlib.Init

/-!
# Support — Effects

Computations on a state that may raise, and that take nothing back: what was done before the
exception stays done, and only a handler or a finalizer can clean it up.
-/

namespace Support

open EStateM (Result)

variable {ε σ α β : Type} {x : EStateM ε σ α} {s t : σ} {a : α} {e : ε}

/-- The computation returns or raises as it is told, and leaves the state as it is. -/
def answer (result : Except ε α) : EStateM ε σ α := fun s =>
  match result with
  | .ok a => .ok a s
  | .error e => .error e s

@[simp] theorem run_answer_ok : (answer (.ok a : Except ε α)).run s = .ok a s := rfl

@[simp] theorem run_answer_error : (answer (.error e : Except ε α)).run s = .error e s := rfl

theorem run_bind_ok (h : x.run s = .ok a t) (f : α → EStateM ε σ β) :
    (x >>= f).run s = (f a).run t := by
  rw [EStateM.run_bind, h]

theorem run_bind_error (h : x.run s = .error e t) (f : α → EStateM ε σ β) :
    (x >>= f).run s = .error e t := by
  rw [EStateM.run_bind, h]

theorem run_bind_eq_ok {f : α → EStateM ε σ β} {b : β} {u : σ} (h : (x >>= f).run s = .ok b u) :
    ∃ a t, x.run s = .ok a t ∧ (f a).run t = .ok b u := by
  rw [EStateM.run_bind] at h
  cases hx : x.run s with
  | ok a t =>
    rw [hx] at h
    exact ⟨a, t, rfl, h⟩
  | error e t =>
    rw [hx] at h
    cases h

/-! ### Handlers -/

theorem run_tryCatch_ok (h : x.run s = .ok a t) (handle : ε → EStateM ε σ α) :
    (tryCatch x handle).run s = .ok a t := by
  have hx : x s = .ok a t := h
  show EStateM.tryCatch x handle s = .ok a t
  delta EStateM.tryCatch
  simp only [hx]

theorem run_tryCatch_error (h : x.run s = .error e t) (handle : ε → EStateM ε σ α) :
    (tryCatch x handle).run s = (handle e).run t := by
  have hx : x s = .error e t := h
  show EStateM.tryCatch x handle s = (handle e).run t
  delta EStateM.tryCatch
  simp only [hx]
  rfl

/-! ### Finalizers -/

/-- What is left of `result` after a finalizer that has ended with `final`, whose exception takes its
place. -/
def finalized (result : Result ε σ α) (final : Result ε σ β) : Result ε σ α :=
  match result, final with
  | .ok a _, .ok _ t => .ok a t
  | .error e _, .ok _ t => .error e t
  | _, .error e t => .error e t

theorem run_tryFinally_ok (h : x.run s = .ok a t) (finalizer : EStateM ε σ β) :
    (tryFinally x finalizer).run s = finalized (.ok a t) (finalizer.run t) := by
  have hx : x s = .ok a t := h
  cases hfinal : finalizer t with
  | ok => simp [tryFinally, tryFinally', Functor.map, EStateM.map, EStateM.run, hx, hfinal, finalized]
  | error =>
    simp [tryFinally, tryFinally', Functor.map, EStateM.map, EStateM.run, hx, hfinal, finalized]

theorem run_tryFinally_error (h : x.run s = .error e t) (finalizer : EStateM ε σ β) :
    (tryFinally x finalizer).run s = finalized (.error e t) (finalizer.run t) := by
  have hx : x s = .error e t := h
  cases hfinal : finalizer t with
  | ok => simp [tryFinally, tryFinally', Functor.map, EStateM.map, EStateM.run, hx, hfinal, finalized]
  | error =>
    simp [tryFinally, tryFinally', Functor.map, EStateM.map, EStateM.run, hx, hfinal, finalized]

end Support
