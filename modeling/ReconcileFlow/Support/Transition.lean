import Mathlib.Logic.Basic

/-!
# Support — Transition

Systems that take one step after another: `step s a` is the state after the action `a`, if `a` is
possible in `s`.  `Reaches step ok s t` says that a run leads from `s` to `t` each of whose steps
meets `ok` in the state before it.  What every such step keeps holds in every state reached
(`Reaches.invariant`).
-/

namespace Support

variable {σ α : Type*} {step : σ → α → Option σ} {ok : σ → α → Prop}

inductive Reaches (step : σ → α → Option σ) (ok : σ → α → Prop) (s : σ) : σ → Prop
  | refl : Reaches step ok s s
  | tail {t u : σ} {a : α} :
      Reaches step ok s t → ok t a → step t a = some u → Reaches step ok s u

/-- No condition on the steps. -/
def Always : σ → α → Prop := fun _ _ => True

instance (s : σ) (a : α) : Decidable (Always s a) := .isTrue trivial

namespace Reaches

theorem invariant {P : σ → Prop} (hstep : ∀ t a u, P t → ok t a → step t a = some u → P u)
    {s t : σ} (hs : P s) (h : Reaches step ok s t) : P t := by
  induction h with
  | refl => exact hs
  | tail _ hok ha ih => exact hstep _ _ _ ih hok ha

theorem mono {ok' : σ → α → Prop} (hsub : ∀ s a, ok s a → ok' s a) {s t : σ}
    (h : Reaches step ok s t) : Reaches step ok' s t := by
  induction h with
  | refl => exact .refl
  | tail _ hok ha ih => exact .tail ih (hsub _ _ hok) ha

theorem always {s t : σ} (h : Reaches step ok s t) : Reaches step Always s t :=
  h.mono fun _ _ _ => trivial

theorem trans {s t u : σ} (h : Reaches step ok s t) (h' : Reaches step ok t u) :
    Reaches step ok s u := by
  induction h' with
  | refl => exact h
  | tail _ hok ha ih => exact .tail ih hok ha

end Reaches

/-- The state after a list of actions, if each is possible and meets `ok`. -/
def exec (step : σ → α → Option σ) (ok : σ → α → Prop) [∀ s a, Decidable (ok s a)] :
    List α → σ → Option σ
  | [], s => some s
  | a :: actions, s => if ok s a then (step s a).bind (exec step ok actions) else none

theorem reaches_of_exec [∀ s a, Decidable (ok s a)] :
    ∀ {actions : List α} {s t : σ}, exec step ok actions s = some t → Reaches step ok s t
  | [], s, t, h => by
    cases h
    exact .refl
  | a :: actions, s, t, h => by
    unfold exec at h
    split at h
    · next hok =>
      obtain ⟨u, hu, ht⟩ := Option.bind_eq_some_iff.mp h
      exact (Reaches.tail .refl hok hu).trans (reaches_of_exec ht)
    · simp at h

end Support
