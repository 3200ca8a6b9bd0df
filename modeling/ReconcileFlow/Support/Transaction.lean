import Mathlib.Logic.Basic

/-!
# Support — Transaction

Transactions on a state: they return a value and a new state, or raise.  A transaction that raises
leaves the state as it was (`atomically`).

A transaction is taken apart from its successful runs (`Runs`): `runs_bind` says what the parts of
a sequence did, `runs_require` that a check passed, `Runs.forM` that a loop keeps what its body
keeps; and from those that raise (`Fails`), where `fails_bind` says which part did.
-/

namespace Support

abbrev Transaction (σ ε α : Type) := StateT σ (Except ε) α

namespace Transaction

variable {σ ε ε' α β : Type}

/-- Raises `e` unless `p`. -/
def require (p : Prop) [Decidable p] (e : ε) : Transaction σ ε Unit :=
  if p then pure () else throw e

/-- The value, or `e` if there is none. -/
def fromOption (e : ε) : Option α → Transaction σ ε α
  | some a => pure a
  | none => throw e

/-- The value, or the error that there is in its place. -/
def fromExcept : Except ε α → Transaction σ ε α
  | .ok a => pure a
  | .error e => throw e

/-- Returns a part of the state. -/
def reads (f : σ → α) : Transaction σ ε α := do return f (← get)

/-- The transaction without what it returns. -/
def void (t : Transaction σ ε α) : Transaction σ ε Unit := t >>= fun _ => pure ()

/-- Raises the errors under other names. -/
def mapError (f : ε → ε') (t : Transaction σ ε α) : Transaction σ ε' α :=
  fun s => (t.run s).mapError f

/-- Commits, or rolls back what was done before an error. -/
def atomically (t : Transaction σ ε α) (s : σ) : Except ε α × σ :=
  match t.run s with
  | .ok (a, s') => (.ok a, s')
  | .error e => (.error e, s)

/-- The transaction started in `s` returns `a` and leaves `s'`. -/
def Runs (x : Transaction σ ε α) (s : σ) (a : α) (s' : σ) : Prop := x.run s = .ok (a, s')

/-- The transaction started in `s` raises `e`. -/
def Fails (x : Transaction σ ε α) (s : σ) (e : ε) : Prop := x.run s = .error e

/-! ### Successful runs -/

@[simp] theorem runs_pure {a b : α} {s s' : σ} :
    Runs (pure a : Transaction σ ε α) s b s' ↔ a = b ∧ s = s' := by
  show (Except.ok (a, s) : Except ε (α × σ)) = .ok (b, s') ↔ _
  rw [Except.ok.injEq, Prod.mk.injEq]

@[simp] theorem runs_throw {e : ε} {b : α} {s s' : σ} :
    ¬ Runs (throw e : Transaction σ ε α) s b s' := by
  simp [Runs, throw, throwThe, MonadExceptOf.throw, StateT.lift, StateT.run, bind, Except.bind]

@[simp] theorem runs_bind {x : Transaction σ ε α} {f : α → Transaction σ ε β} {b : β} {s s' : σ} :
    Runs (x >>= f) s b s' ↔ ∃ a t, Runs x s a t ∧ Runs (f a) t b s' := by
  unfold Runs
  rw [StateT.run_bind]
  cases x.run s with
  | error e => simp [bind, Except.bind]
  | ok r => exact ⟨fun h => ⟨r.1, r.2, rfl, h⟩, fun ⟨_, _, hr, h⟩ => by cases hr; exact h⟩

@[simp] theorem runs_get {a s s' : σ} :
    Runs (get : Transaction σ ε σ) s a s' ↔ s = a ∧ s = s' := by
  simp [Runs, get, getThe, MonadStateOf.get, StateT.get, StateT.run, pure, Except.pure]

@[simp] theorem runs_set {t s s' : σ} {u : PUnit} :
    Runs (set t : Transaction σ ε PUnit) s u s' ↔ t = s' := by
  show (Except.ok (u, t) : Except ε (PUnit × σ)) = .ok (u, s') ↔ _
  rw [Except.ok.injEq, Prod.mk.injEq]
  exact and_iff_right rfl

@[simp] theorem runs_require {p : Prop} [Decidable p] {e : ε} {u : Unit} {s s' : σ} :
    Runs (require p e) s u s' ↔ p ∧ s = s' := by
  unfold require
  by_cases hp : p <;> simp [hp]

@[simp] theorem runs_fromOption {o : Option α} {e : ε} {a : α} {s s' : σ} :
    Runs (fromOption e o) s a s' ↔ o = some a ∧ s = s' := by
  cases o <;> simp [fromOption]

@[simp] theorem runs_fromExcept {r : Except ε α} {a : α} {s s' : σ} :
    Runs (fromExcept r) s a s' ↔ r = .ok a ∧ s = s' := by
  cases r <;> simp [fromExcept]

@[simp] theorem runs_reads {f : σ → α} {a : α} {s s' : σ} :
    Runs (reads f : Transaction σ ε α) s a s' ↔ f s = a ∧ s = s' := by
  show (Except.ok (f s, s) : Except ε (α × σ)) = .ok (a, s') ↔ _
  rw [Except.ok.injEq, Prod.mk.injEq]

@[simp] theorem runs_void {x : Transaction σ ε α} {s s' : σ} {u : Unit} :
    Runs (void x) s u s' ↔ ∃ a, Runs x s a s' := by
  unfold void
  rw [runs_bind]
  simp

@[simp] theorem runs_mapError {f : ε → ε'} {x : Transaction σ ε α} {a : α} {s s' : σ} :
    Runs (mapError f x) s a s' ↔ Runs x s a s' := by
  show (x.run s).mapError f = .ok (a, s') ↔ x.run s = .ok (a, s')
  cases x.run s with
  | error e => exact iff_of_false (by rintro ⟨⟩) (by rintro ⟨⟩)
  | ok r =>
    show (Except.ok r : Except ε' (α × σ)) = .ok (a, s') ↔ _
    rw [Except.ok.injEq, Except.ok.injEq]

/-- What a loop's body keeps, the loop keeps. -/
theorem Runs.forM {f : α → Transaction σ ε Unit} {P : List α → σ → Prop}
    (hstep : ∀ a l s s', P (a :: l) s → Runs (f a) s () s' → P l s') :
    ∀ {l : List α} {s s' : σ} {u : PUnit}, P l s → Runs (forM l f) s u s' → P [] s'
  | [], s, s', _, hP, h => by
    rw [List.forM_nil, runs_pure] at h
    exact h.2 ▸ hP
  | a :: l, s, s', _, hP, h => by
    rw [List.forM_cons, runs_bind] at h
    obtain ⟨⟨⟩, t, ha, hl⟩ := h
    exact Runs.forM hstep (hstep a l s t hP ha) hl

/-! ### Runs that raise -/

@[simp] theorem fails_pure {a : α} {s : σ} {e : ε} :
    ¬ Fails (pure a : Transaction σ ε α) s e := by
  show ¬ (Except.ok (a, s) : Except ε (α × σ)) = .error e
  rintro ⟨⟩

@[simp] theorem fails_throw {e e' : ε} {s : σ} :
    Fails (throw e : Transaction σ ε α) s e' ↔ e' = e := by
  simp [Fails, throw, throwThe, MonadExceptOf.throw, StateT.lift, StateT.run, bind, Except.bind,
    eq_comm]

@[simp] theorem fails_bind {x : Transaction σ ε α} {f : α → Transaction σ ε β} {s : σ} {e : ε} :
    Fails (x >>= f) s e ↔ Fails x s e ∨ ∃ a t, Runs x s a t ∧ Fails (f a) t e := by
  unfold Fails Runs
  rw [StateT.run_bind]
  cases x.run s with
  | error e' => simp [bind, Except.bind]
  | ok r => exact ⟨fun h => .inr ⟨r.1, r.2, rfl, h⟩, by rintro (⟨⟨⟩⟩ | ⟨_, _, ⟨⟩, h⟩); exact h⟩

@[simp] theorem fails_get {s : σ} {e : ε} : ¬ Fails (get : Transaction σ ε σ) s e := by
  simp [Fails, get, getThe, MonadStateOf.get, StateT.get, StateT.run, pure, Except.pure]

@[simp] theorem fails_set {t s : σ} {e : ε} : ¬ Fails (set t : Transaction σ ε PUnit) s e := by
  show ¬ (Except.ok (⟨⟩, t) : Except ε (PUnit × σ)) = .error e
  rintro ⟨⟩

@[simp] theorem fails_require {p : Prop} [Decidable p] {e e' : ε} {s : σ} :
    Fails (require p e) s e' ↔ ¬ p ∧ e' = e := by
  unfold require
  by_cases hp : p <;> simp [hp]

@[simp] theorem fails_fromOption {o : Option α} {e e' : ε} {s : σ} :
    Fails (fromOption e o) s e' ↔ o = none ∧ e' = e := by
  cases o <;> simp [fromOption]

@[simp] theorem fails_fromExcept {r : Except ε α} {e : ε} {s : σ} :
    Fails (fromExcept r) s e ↔ r = .error e := by
  cases r <;> simp [fromExcept, eq_comm]

@[simp] theorem fails_reads {f : σ → α} {s : σ} {e : ε} :
    ¬ Fails (reads f : Transaction σ ε α) s e := by
  show ¬ (Except.ok (f s, s) : Except ε (α × σ)) = .error e
  nofun

@[simp] theorem fails_mapError {f : ε → ε'} {x : Transaction σ ε α} {s : σ} {e : ε'} :
    Fails (mapError f x) s e ↔ ∃ e', Fails x s e' ∧ e = f e' := by
  show (x.run s).mapError f = .error e ↔ ∃ e', x.run s = .error e' ∧ e = f e'
  cases x.run s with
  | error e' =>
    show (Except.error (f e') : Except ε' (α × σ)) = .error e ↔ _
    simp [eq_comm]
  | ok r =>
    show (Except.ok r : Except ε' (α × σ)) = .error e ↔ _
    simp

/-- A transaction ends in one way. -/
theorem Runs.unique {x : Transaction σ ε α} {s t t' : σ} {a a' : α} (h : Runs x s a t)
    (h' : Runs x s a' t') : a = a' ∧ t = t' :=
  Prod.mk.inj (Except.ok.inj (h.symm.trans h'))

theorem Runs.not_fails {x : Transaction σ ε α} {s s' : σ} {a : α} {e : ε} (h : Runs x s a s') :
    ¬ Fails x s e := by
  intro hfails
  cases h.symm.trans hfails

/-- What the transaction raises, if it does, meets `p`. -/
def Raises (x : Transaction σ ε α) (p : ε → Prop) : Prop := ∀ s e, Fails x s e → p e

section

variable {p : ε → Prop}

theorem raises_pure {a : α} : Raises (pure a : Transaction σ ε α) p :=
  fun _ _ h => absurd h fails_pure

theorem raises_get : Raises (get : Transaction σ ε σ) p := fun _ _ h => absurd h fails_get

theorem raises_set {t : σ} : Raises (set t : Transaction σ ε PUnit) p :=
  fun _ _ h => absurd h fails_set

theorem raises_bind {x : Transaction σ ε α} {f : α → Transaction σ ε β} (hx : Raises x p)
    (hf : ∀ a, Raises (f a) p) : Raises (x >>= f) p := by
  intro s e h
  rcases fails_bind.mp h with h | ⟨a, t, -, h⟩
  · exact hx s e h
  · exact hf a t e h

theorem raises_require {q : Prop} [Decidable q] {e : ε} (he : p e) :
    Raises (require q e : Transaction σ ε Unit) p := by
  intro s e' h
  obtain ⟨-, rfl⟩ := fails_require.mp h
  exact he

theorem raises_fromOption {o : Option α} {e : ε} (he : p e) :
    Raises (fromOption e o : Transaction σ ε α) p := by
  intro s e' h
  obtain ⟨-, rfl⟩ := fails_fromOption.mp h
  exact he

theorem raises_forM {f : α → Transaction σ ε Unit} (hf : ∀ a, Raises (f a) p) :
    ∀ l : List α, Raises (forM l f) p
  | [] => raises_pure
  | a :: l => by
    rw [List.forM_cons]
    exact raises_bind (hf a) fun _ => raises_forM hf l

end

theorem atomically_error {x : Transaction σ ε α} {s s' : σ} {e : ε} :
    atomically x s = (.error e, s') ↔ Fails x s e ∧ s' = s := by
  unfold atomically Fails
  split
  · next h => simp [h]
  · next h => simp [h, eq_comm]

/-! ### Transactions as a whole -/

theorem atomically_ok {x : Transaction σ ε α} {s s' : σ} {a : α} :
    atomically x s = (.ok a, s') ↔ Runs x s a s' := by
  unfold atomically Runs
  split
  · next h => simp [h]
  · next h => simp [h]

/-- A transaction that raises returns nothing and leaves the state as it was. -/
@[simp] theorem atomically_void (x : Transaction σ ε α) (s : σ) :
    (atomically (void x) s).2 = (atomically x s).2 := by
  unfold atomically void
  rw [StateT.run_bind]
  cases x.run s <;> rfl

theorem of_atomically_error {x : Transaction σ ε α} {s s' : σ} {e : ε}
    (h : atomically x s = (.error e, s')) : s' = s ∧ ∀ a t, ¬ Runs x s a t := by
  unfold atomically at h
  split at h
  · simp at h
  · next e' he => exact ⟨(Prod.mk.inj h).2.symm, fun a t hr => by simp [Runs, he] at hr⟩

end Transaction

end Support
