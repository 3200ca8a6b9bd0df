import Mathlib.Data.List.Range
import Mathlib.Data.Nat.Notation
import Mathlib.Tactic.Common

/-!
# Support — Retry

A request to a partner with a state of its own, which is repeated as long as what comes of it is
transient, with a pause before each repetition.  What the partner sees of it is recorded on its own
side (`Retry.recorded`), which changes nothing (`recorded_run`).

`run_history`: all replies but the last are transient, each is followed by its pause, and what is
returned is told by the last one, unless a pause has raised.
-/

namespace Support

structure Retry (σ ρ ε α : Type) where
  request : σ → ρ × σ
  /-- The pause after an attempt, which may be interrupted. -/
  pause : ℕ → σ → Except ε Unit × σ
  isTransient : ρ → Bool
  settle : ρ → Except ε α
  exhausted : ε

namespace Retry

variable {σ ρ ε α κ : Type}

/-- The attempts of these numbers, up to the number `limit`. -/
def run (self : Retry σ ρ ε α) (limit : ℕ) : List ℕ → σ → Except ε α × σ
  | [], state => (.error self.exhausted, state)
  | attempt :: attempts, state =>
    let (reply, state) := self.request state
    if self.isTransient reply then
      if attempt < limit then
        match self.pause attempt state with
        | (.ok _, state) => self.run limit attempts state
        | (.error e, state) => (.error e, state)
      else (.error self.exhausted, state)
    else (self.settle reply, state)

/-- What the partner sees. -/
inductive Event (ρ ε : Type)
  | requested (reply : ρ)
  | paused (attempt : ℕ) (result : Except ε Unit)

/-- The partner records what it sees, each event in its own words. -/
def recorded (self : Retry σ ρ ε α) (note : Event ρ ε → κ) : Retry (σ × List κ) ρ ε α where
  request state :=
    let (reply, next) := self.request state.1
    (reply, next, state.2 ++ [note (.requested reply)])
  pause attempt state :=
    let (result, next) := self.pause attempt state.1
    (result, next, state.2 ++ [note (.paused attempt result)])
  isTransient := self.isTransient
  settle := self.settle
  exhausted := self.exhausted

section

variable (self : Retry σ ρ ε α) (note : Event ρ ε → κ)

@[simp] theorem recorded_request (state : σ) (notes : List κ) :
    (self.recorded note).request (state, notes) =
      ((self.request state).1, (self.request state).2,
        notes ++ [note (.requested (self.request state).1)]) := rfl

@[simp] theorem recorded_pause (attempt : ℕ) (state : σ) (notes : List κ) :
    (self.recorded note).pause attempt (state, notes) =
      ((self.pause attempt state).1, (self.pause attempt state).2,
        notes ++ [note (.paused attempt (self.pause attempt state).1)]) := rfl

@[simp] theorem recorded_isTransient : (self.recorded note).isTransient = self.isTransient := rfl

@[simp] theorem recorded_settle : (self.recorded note).settle = self.settle := rfl

@[simp] theorem recorded_exhausted : (self.recorded note).exhausted = self.exhausted := rfl

end

/-! ### One attempt -/

section

variable (self : Retry σ ρ ε α) {limit attempt : ℕ} {attempts : List ℕ} (state : σ) {next : σ}

theorem run_settled (hreply : self.isTransient (self.request state).1 = false) :
    self.run limit (attempt :: attempts) state =
      (self.settle (self.request state).1, (self.request state).2) := by
  simp [run, hreply]

theorem run_exhausted (hreply : self.isTransient (self.request state).1 = true)
    (hlast : ¬ attempt < limit) :
    self.run limit (attempt :: attempts) state =
      (.error self.exhausted, (self.request state).2) := by
  simp [run, hreply, hlast]

theorem run_interrupted {e : ε} (hreply : self.isTransient (self.request state).1 = true)
    (hlimit : attempt < limit)
    (hpause : self.pause attempt (self.request state).2 = (.error e, next)) :
    self.run limit (attempt :: attempts) state = (.error e, next) := by
  simp [run, hreply, hlimit, hpause]

theorem run_again {u : Unit} (hreply : self.isTransient (self.request state).1 = true)
    (hlimit : attempt < limit)
    (hpause : self.pause attempt (self.request state).2 = (.ok u, next)) :
    self.run limit (attempt :: attempts) state = self.run limit attempts next := by
  simp [run, hreply, hlimit, hpause]

end

variable {self : Retry σ ρ ε α} {note : Event ρ ε → κ} {limit attempt : ℕ} {attempts : List ℕ}
  {state : σ} {notes : List κ}

theorem recorded_attempt {result : Except ε Unit} {next : σ}
    (hpause : self.pause attempt (self.request state).2 = (result, next)) :
    (self.recorded note).pause attempt ((self.recorded note).request (state, notes)).2 =
      (result, next, notes ++ [note (.requested (self.request state).1),
        note (.paused attempt result)]) := by
  simp [hpause]

/-- The record changes nothing. -/
theorem recorded_run : ((self.recorded note).run limit attempts (state, notes)).1 =
    (self.run limit attempts state).1 := by
  induction attempts generalizing state notes with
  | nil => rfl
  | cons attempt attempts ih =>
    by_cases hreply : self.isTransient (self.request state).1 = true
    · by_cases hlimit : attempt < limit
      · rcases hpause : self.pause attempt (self.request state).2 with ⟨e | u, next⟩
        · rw [self.run_interrupted state hreply hlimit hpause,
            (self.recorded note).run_interrupted (state, notes) hreply hlimit
              (recorded_attempt hpause)]
        · rw [self.run_again state hreply hlimit hpause,
            (self.recorded note).run_again (state, notes) hreply hlimit (recorded_attempt hpause)]
          exact ih
      · rw [self.run_exhausted state hreply hlimit,
          (self.recorded note).run_exhausted (state, notes) hreply hlimit]
        rfl
    · rw [Bool.not_eq_true] at hreply
      rw [self.run_settled state hreply, (self.recorded note).run_settled (state, notes) hreply]
      rfl

/-! ### All attempts -/

/-- Attempts that have failed, from the number `attempt` on. -/
def failures : ℕ → List ρ → List (Event ρ ε)
  | _, [] => []
  | attempt, reply :: replies =>
    .requested reply :: .paused attempt (.ok ()) :: failures (attempt + 1) replies

variable (self) in
/-- What came of attempts from the number `attempt` on, of which `left` were allowed after the
first, with what the partner saw. -/
inductive History (attempt left : ℕ) : List (Event ρ ε) → Except ε α → Prop
  | settled (failed : List ρ) (reply : ρ) (hlength : failed.length ≤ left)
      (hfailed : ∀ r ∈ failed, self.isTransient r = true)
      (hreply : self.isTransient reply = false) :
      History attempt left (failures attempt failed ++ [.requested reply]) (self.settle reply)
  | exhausted (failed : List ρ) (reply : ρ) (hlength : failed.length = left)
      (hfailed : ∀ r ∈ failed, self.isTransient r = true)
      (hreply : self.isTransient reply = true) :
      History attempt left (failures attempt failed ++ [.requested reply]) (.error self.exhausted)
  | interrupted (failed : List ρ) (reply : ρ) (e : ε) (hlength : failed.length < left)
      (hfailed : ∀ r ∈ failed, self.isTransient r = true)
      (hreply : self.isTransient reply = true) :
      History attempt left (failures attempt failed ++
        [.requested reply, .paused (attempt + failed.length) (.error e)]) (.error e)

/-- One more failed attempt in front. -/
theorem History.cons {left : ℕ} {events : List (Event ρ ε)} {result : Except ε α} {first : ρ}
    (hfirst : self.isTransient first = true) (h : self.History (attempt + 1) left events result) :
    self.History attempt (left + 1) (.requested first :: .paused attempt (.ok ()) :: events)
      result := by
  have hall {failed : List ρ} (hfailed : ∀ r ∈ failed, self.isTransient r = true) :
      ∀ r ∈ first :: failed, self.isTransient r = true :=
    List.forall_mem_cons.mpr ⟨hfirst, hfailed⟩
  cases h with
  | settled failed reply hlength hfailed hreply =>
    exact .settled (first :: failed) reply (Nat.succ_le_succ hlength) (hall hfailed) hreply
  | exhausted failed reply hlength hfailed hreply =>
    exact .exhausted (first :: failed) reply (congrArg Nat.succ hlength) (hall hfailed) hreply
  | interrupted failed reply e hlength hfailed hreply =>
    have hrest : self.History attempt (left + 1) _ (.error e) :=
      .interrupted (first :: failed) reply e (Nat.succ_lt_succ hlength) (hall hfailed) hreply
    rwa [List.length_cons, Nat.add_comm failed.length, ← Nat.add_assoc] at hrest

/-- **What comes of a request that is repeated.** -/
theorem run_history {left : ℕ} :
    ∃ seen, ((self.recorded note).run (attempt + left) (List.range' attempt (left + 1))
        (state, notes)).2.2 = notes ++ seen.map note ∧
      self.History attempt left seen (self.run (attempt + left) (List.range' attempt (left + 1))
        state).1 := by
  induction left generalizing attempt state notes with
  | zero =>
    have hlast : ¬ attempt < attempt + 0 := lt_irrefl attempt
    rw [List.range'_succ]
    refine ⟨[.requested (self.request state).1], ?_⟩
    by_cases hreply : self.isTransient (self.request state).1 = true
    · rw [self.run_exhausted state hreply hlast,
        (self.recorded note).run_exhausted (state, notes) hreply hlast]
      exact ⟨rfl, .exhausted [] _ rfl (List.forall_mem_nil _) hreply⟩
    · rw [Bool.not_eq_true] at hreply
      rw [self.run_settled state hreply, (self.recorded note).run_settled (state, notes) hreply]
      exact ⟨rfl, .settled [] _ (Nat.le_refl 0) (List.forall_mem_nil _) hreply⟩
  | succ left ih =>
    have hlimit : attempt < attempt + (left + 1) := Nat.lt_add_of_pos_right (Nat.succ_pos left)
    rw [List.range'_succ]
    by_cases hreply : self.isTransient (self.request state).1 = true
    · rcases hpause : self.pause attempt (self.request state).2 with ⟨e | u, next⟩
      · rw [self.run_interrupted state hreply hlimit hpause,
          (self.recorded note).run_interrupted (state, notes) hreply hlimit
            (recorded_attempt hpause)]
        exact ⟨[.requested (self.request state).1, .paused attempt (.error e)], rfl,
          .interrupted [] _ e (Nat.succ_pos left) (List.forall_mem_nil _) hreply⟩
      · rw [self.run_again state hreply hlimit hpause,
          (self.recorded note).run_again (state, notes) hreply hlimit (recorded_attempt hpause)]
        have hsum : attempt + (left + 1) = attempt + 1 + left := by omega
        rw [hsum]
        obtain ⟨seen, hseen, hhistory⟩ := @ih (attempt + 1) next
          (notes ++ [note (.requested (self.request state).1), note (.paused attempt (.ok ()))])
        refine ⟨_, ?_, hhistory.cons hreply⟩
        rw [hseen, List.append_assoc]
        rfl
    · rw [Bool.not_eq_true] at hreply
      rw [self.run_settled state hreply, (self.recorded note).run_settled (state, notes) hreply]
      exact ⟨_, rfl, .settled [] _ (Nat.zero_le _) (List.forall_mem_nil _) hreply⟩

end Retry

end Support
