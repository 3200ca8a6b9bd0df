import Mathlib.Data.List.Basic
import ReconcileFlow.Support.Transaction

/-!
# Support — Client

A client that runs transactions one after another on a state that it shares with others.  What the
others do before each of its transactions is given; what the client did is logged.  Every client
ends, with a value or with an error, and what its transactions committed before an error stays.

A client is taken apart from how it ended (`Ends`): `ends_bind` for a sequence, `ends_attempt` for
an error that is caught, `ends_transact` for one transaction.
-/

namespace Support

/-- The shared state, and what the client's transactions have made of it, one after another. -/
structure Turn (σ : Type) where
  state : σ
  log : List (σ × σ) := []

/-- `others n` is what the others do before the transaction number `n` of the client. -/
abbrev Client (σ ε α : Type) := ReaderT (ℕ → σ → σ) (ExceptT ε (StateM (Turn σ))) α

namespace Client

open Transaction

variable {σ ε ε' α β : Type}

/-- The client, started in `s`, ends so in `t`. -/
def Ends (x : Client σ ε α) (others : ℕ → σ → σ) (s : Turn σ) (result : Except ε α) (t : Turn σ) :
    Prop :=
  (x.run others).run s = (result, t)

/-- One transaction, which commits or is rolled back. -/
def transact (t : Transaction σ ε α) : Client σ ε α := fun others => ExceptT.mk fun s =>
  let before := others s.log.length s.state
  let (result, after) := atomically t before
  (result, ⟨after, s.log ++ [(before, after)]⟩)

/-- Catches the error. -/
def attempt (x : Client σ ε α) : Client σ ε' (Except ε α) := fun others =>
  ExceptT.mk fun s => ((Except.ok ((x.run others).run s).1), ((x.run others).run s).2)

/-- The value, or the error that there is in its place. -/
def fromResult (r : Except ε α) : Client σ ε α := fun _ => ExceptT.mk fun s => (r, s)

variable {others : ℕ → σ → σ} {s t : Turn σ} {result : Except ε α}

/-- Every client ends. -/
theorem exists_ends (x : Client σ ε α) (others : ℕ → σ → σ) (s : Turn σ) :
    ∃ result t, Ends x others s result t :=
  ⟨_, _, rfl⟩

theorem Ends.unique {x : Client σ ε α} {result' : Except ε α} {t' : Turn σ}
    (h : Ends x others s result t) (h' : Ends x others s result' t') :
    result = result' ∧ t = t' :=
  Prod.mk.inj (h.symm.trans h')

@[simp] theorem ends_pure {a : α} :
    Ends (pure a : Client σ ε α) others s result t ↔ result = .ok a ∧ t = s := by
  show (Except.ok a, s) = (result, t) ↔ _
  rw [Prod.mk.injEq, eq_comm, eq_comm (a := s)]

@[simp] theorem ends_throw {e : ε} :
    Ends (throw e : Client σ ε α) others s result t ↔ result = .error e ∧ t = s := by
  show (Except.error e, s) = (result, t) ↔ _
  rw [Prod.mk.injEq, eq_comm, eq_comm (a := s)]

@[simp] theorem ends_fromResult {r : Except ε α} :
    Ends (fromResult r : Client σ ε α) others s result t ↔ result = r ∧ t = s := by
  show (r, s) = (result, t) ↔ _
  rw [Prod.mk.injEq, eq_comm, eq_comm (a := s)]

theorem ends_bind {x : Client σ ε α} {f : α → Client σ ε β} {result : Except ε β} :
    Ends (x >>= f) others s result t ↔
      (∃ a u, Ends x others s (.ok a) u ∧ Ends (f a) others u result t) ∨
        ∃ e, Ends x others s (.error e) t ∧ result = .error e := by
  have hrun : ((x >>= f).run others).run s =
      match (x.run others).run s with
      | (.ok a, u) => ((f a).run others).run u
      | (.error e, u) => (.error e, u) := by
    show (do
      let r ← (x.run others).run
      ExceptT.bindCont (fun a => (f a).run others) r : StateM (Turn σ) (Except ε β)) s = _
    cases hx : (x.run others).run s with
    | mk r u =>
      cases r with
      | ok a => simp [bind, StateT.bind, hx, ExceptT.bindCont]; rfl
      | error e => simp [bind, StateT.bind, hx, ExceptT.bindCont]; rfl
  unfold Ends
  rw [hrun]
  cases hx : (x.run others).run s with
  | mk r u =>
    cases r with
    | ok a =>
      constructor
      · intro h
        exact .inl ⟨a, u, rfl, h⟩
      · rintro (⟨a', u', hr, h⟩ | ⟨e, hr, -⟩)
        · obtain ⟨ha, rfl⟩ := Prod.mk.inj hr
          exact Except.ok.inj ha ▸ h
        · cases (Prod.mk.inj hr).1
    | error e =>
      constructor
      · intro h
        obtain ⟨rfl, rfl⟩ := Prod.mk.inj h
        exact .inr ⟨e, rfl, rfl⟩
      · rintro (⟨a', u', hr, -⟩ | ⟨e', hr, rfl⟩)
        · cases (Prod.mk.inj hr).1
        · obtain ⟨he, rfl⟩ := Prod.mk.inj hr
          rw [Except.error.inj he]

theorem ends_attempt {x : Client σ ε α} {result : Except ε' (Except ε α)} :
    Ends (attempt x) others s result t ↔ ∃ r, Ends x others s r t ∧ result = .ok r := by
  unfold Ends
  show (Except.ok ((x.run others).run s).1, ((x.run others).run s).2) = (result, t) ↔ _
  constructor
  · intro h
    obtain ⟨rfl, rfl⟩ := Prod.mk.inj h
    exact ⟨_, rfl, rfl⟩
  · rintro ⟨r, h, rfl⟩
    rw [h]

/-- A transaction, as it ran on what the others had left. -/
theorem ends_transact {x : Transaction σ ε α} :
    Ends (transact x) others s result t ↔
      atomically x (others s.log.length s.state) = (result, t.state) ∧
        t.log = s.log ++ [(others s.log.length s.state, t.state)] := by
  have hrun : ((transact x).run others).run s =
      ((atomically x (others s.log.length s.state)).1,
        ⟨(atomically x (others s.log.length s.state)).2, s.log ++
          [(others s.log.length s.state, (atomically x (others s.log.length s.state)).2)]⟩) := rfl
  unfold Ends
  rw [hrun]
  generalize atomically x (others s.log.length s.state) = r
  obtain ⟨r, after⟩ := r
  constructor
  · intro h
    obtain ⟨rfl, rfl⟩ := Prod.mk.inj h
    exact ⟨rfl, rfl⟩
  · rintro ⟨h, hlog⟩
    obtain ⟨rfl, rfl⟩ := Prod.mk.inj h
    rw [← hlog]

end Client

end Support
