import ReconcileFlow.Support.Alone
import ReconcileFlow.Support.Transaction

/-!
# Support — Serial

A request that is served alone, beside a transaction on a state of its own that is written as a
whole.  `Follows` compares them: when the transaction returns the request answers, when it raises
the request fails, and a relation between connection and state leads over to one that holds then.

A request is taken apart together with its transaction, by one rule for each kind of statement.
Where both are on the same state, the rules are those of `Performs`; at the end `Performs.served`
says that the block, served alone, does what the transaction does.
-/

namespace Support

open Transaction

namespace Program

variable {σ τ κ l ε ε' ε₂ α β γ δ : Type}

theorem request_bind_assoc (x : ExceptT ε (Program σ κ l) α) (f : α → ExceptT ε (Program σ κ l) β)
    (g : β → ExceptT ε (Program σ κ l) γ) :
    x >>= f >>= g = x >>= fun a => f a >>= g := by
  have hassoc (p : Program σ κ l (Except ε α)) :
      (p.bind (ExceptT.bindCont f)).bind (ExceptT.bindCont g) =
        p.bind (ExceptT.bindCont fun a => f a >>= g) := by
    induction p with
    | pure r => cases r <;> rfl
    | read next ih => exact congrArg Program.read (funext ih)
    | lock k next ih => exact congrArg (Program.lock k) (funext ih)
    | write change next ih => exact congrArg (Program.write change) ih
    | commit label next ih => exact congrArg (Program.commit label) ih
    | rollback next ih => exact congrArg Program.rollback ih
    | effect label change next ih => exact congrArg (Program.effect label change) (funext ih)
  exact hassoc x

/-- A request that answers has answered on the way. -/
theorem answered_bind {x : ExceptT ε (Program σ κ l) α} {f : α → ExceptT ε (Program σ κ l) β}
    {s : Connection σ} {b : β} (h : (respond (x >>= f) s).1 = .ok b) :
    ∃ a, (respond x s).1 = .ok a ∧ (respond (f a) (respond x s).2).1 = .ok b := by
  rw [respond_bind] at h
  cases hx : (respond x s).1 with
  | error e =>
    rw [hx] at h
    cases h
  | ok a =>
    rw [hx] at h
    exact ⟨a, rfl, h⟩

/-- The request writes nothing. -/
def ReadsOnly (x : ExceptT ε (Program σ κ l) α) : Prop := ∀ s, (respond x s).2 = s

theorem ReadsOnly.bind {x : ExceptT ε (Program σ κ l) α} {f : α → ExceptT ε (Program σ κ l) β}
    (hx : ReadsOnly x) (hf : ∀ a, ReadsOnly (f a)) : ReadsOnly (x >>= f) := by
  intro s
  rw [respond_bind, hx]
  cases (respond x s).1 with
  | ok a => exact hf a s
  | error e => rfl

/-- Alone on a connection that `P` relates to a state, the request ends as the transaction does:
with an answer that `Q` relates to what is returned, or with an error that `E` relates to
what is raised. -/
def Follows (P : Connection σ → τ → Prop) (x : ExceptT ε (Program σ κ l) α)
    (t : Transaction τ ε' β) (Q : α → β → Connection σ → τ → Prop)
    (E : ε → ε' → Connection σ → Prop) : Prop :=
  ∀ s d, P s d →
    (∀ b d', Runs t d b d' → ∃ a s', respond x s = (.ok a, s') ∧ Q a b s' d') ∧
    ∀ e', Fails t d e' → ∃ e s', respond x s = (.error e, s') ∧ E e e' s'

namespace Follows

variable {P : Connection σ → τ → Prop} {x : ExceptT ε (Program σ κ l) α}
  {t : Transaction τ ε' β} {Q : α → β → Connection σ → τ → Prop}
  {E : ε → ε' → Connection σ → Prop}

theorem weaken (h : Follows P x t Q E) {P' : Connection σ → τ → Prop}
    {Q' : α → β → Connection σ → τ → Prop} {E' : ε → ε' → Connection σ → Prop}
    (hpre : ∀ s d, P' s d → P s d) (hpost : ∀ a b s d, Q a b s d → Q' a b s d)
    (hfailed : ∀ e e' s, E e e' s → E' e e' s) : Follows P' x t Q' E' := by
  intro s d hs
  obtain ⟨hok, herror⟩ := h s d (hpre s d hs)
  constructor
  · intro b d' hruns
    obtain ⟨a, s', hrespond, hrelated⟩ := hok b d' hruns
    exact ⟨a, s', hrespond, hpost a b s' d' hrelated⟩
  · intro e' hfails
    obtain ⟨e, s', hrespond, hrelated⟩ := herror e' hfails
    exact ⟨e, s', hrespond, hfailed e e' s' hrelated⟩

theorem bind {f : α → ExceptT ε (Program σ κ l) γ} {g : β → Transaction τ ε' δ}
    {M : α → β → Connection σ → τ → Prop} {Q : γ → δ → Connection σ → τ → Prop}
    (hx : Follows P x t M E)
    (hf : ∀ a b, Follows (M a b) (f a) (g b) Q E) :
    Follows P (x >>= f) (t >>= g) Q E := by
  intro s d hs
  obtain ⟨hok, herror⟩ := hx s d hs
  constructor
  · intro c d' hruns
    obtain ⟨b, d₁, hfirst, hrest⟩ := runs_bind.mp hruns
    obtain ⟨a, s₁, hrespond, hrelated⟩ := hok b d₁ hfirst
    obtain ⟨a', s', hlast, hpost⟩ := (hf a b s₁ d₁ hrelated).1 c d' hrest
    exact ⟨a', s', by simp only [respond_bind, hrespond, hlast], hpost⟩
  · intro e' hfails
    rcases fails_bind.mp hfails with hfirst | ⟨b, d₁, hfirst, hrest⟩
    · obtain ⟨e, s₁, hrespond, hrelated⟩ := herror e' hfirst
      exact ⟨e, s₁, by simp only [respond_bind, hrespond], hrelated⟩
    · obtain ⟨a, s₁, hrespond, hrelated⟩ := hok b d₁ hfirst
      obtain ⟨e, s', hlast, hlost⟩ := (hf a b s₁ d₁ hrelated).2 e' hrest
      exact ⟨e, s', by simp only [respond_bind, hrespond, hlast], hlost⟩

/-- After two that give the same. -/
theorem bindEq {t : Transaction τ ε' α} {f : α → ExceptT ε (Program σ κ l) γ}
    {g : α → Transaction τ ε' δ} {M : α → Connection σ → τ → Prop}
    {Q : γ → δ → Connection σ → τ → Prop}
    (hx : Follows P x t (fun a b s d => a = b ∧ M a s d) E)
    (hf : ∀ a, Follows (M a) (f a) (g a) Q E) :
    Follows P (x >>= f) (t >>= g) Q E := by
  refine hx.bind fun a b s d hs => ?_
  obtain ⟨rfl, hm⟩ := hs
  exact hf a s d hm

theorem pure (a : α) (b : β) (h : ∀ s d, P s d → Q a b s d) :
    Follows P (Pure.pure a : ExceptT ε (Program σ κ l) α)
      (Pure.pure b : Transaction τ ε' β) Q E := by
  intro s d hs
  refine ⟨fun b' d' hruns => ?_, fun e' hfails => absurd hfails fails_pure⟩
  obtain ⟨rfl, rfl⟩ := runs_pure.mp hruns
  exact ⟨a, s, respond_pure a, h s d hs⟩

/-- What the request makes of its result at the end. -/
theorem pureLeft (h : Follows P x t Q E) (g : α → γ) :
    Follows P (x >>= fun a => Pure.pure (g a)) t
      (fun c b s d => ∃ a, Q a b s d ∧ c = g a) E := by
  intro s d hs
  obtain ⟨hok, herror⟩ := h s d hs
  constructor
  · intro b d' hruns
    obtain ⟨a, s', hrespond, hrelated⟩ := hok b d' hruns
    exact ⟨g a, s', by simp only [respond_bind, hrespond, respond_pure], a, hrelated, rfl⟩
  · intro e' hfails
    obtain ⟨e, s', hrespond, hlost⟩ := herror e' hfails
    exact ⟨e, s', by simp only [respond_bind, hrespond], hlost⟩

/-- Both look, each at its own. -/
theorem get {f : σ → α} {g : τ → β} (h : ∀ s d, P s d → Q (f s.view) (g d) s d) :
    Follows P (ExceptT.lift (Program.get f) : ExceptT ε (Program σ κ l) α)
      (reads g : Transaction τ ε' β) Q E := by
  intro s d hs
  refine ⟨fun b d' hruns => ?_, fun e' hfails => absurd hfails fails_reads⟩
  obtain ⟨rfl, rfl⟩ := runs_reads.mp hruns
  exact ⟨f s.view, s, by simp, h s d hs⟩

theorem ensure {p q : Prop} [Decidable p] [Decidable q] {e : ε} {e' : ε'} (hpq : p ↔ q)
    (h : ∀ s d, P s d → ¬ p → E e e' s) :
    Follows P (Program.ensure p e : ExceptT ε (Program σ κ l) Unit)
      (require q e' : Transaction τ ε' Unit) (fun _ _ s d => p ∧ P s d) E := by
  intro s d hs
  constructor
  · intro u d' hruns
    obtain ⟨hq, rfl⟩ := runs_require.mp hruns
    exact ⟨(), s, by simp [hpq.mpr hq], hpq.mpr hq, hs⟩
  · intro e'' hfails
    obtain ⟨hq, rfl⟩ := fails_require.mp hfails
    have hp : ¬ p := fun hp => hq (hpq.mp hp)
    exact ⟨e, s, by simp [hp], h s d hs hp⟩

theorem expect {found : Option α} {found' : Option β} {e : ε} {e' : ε'}
    (hnone : found = none ↔ found' = none)
    (h : ∀ s d, P s d → found = none → E e e' s) :
    Follows P (Program.expect e found : ExceptT ε (Program σ κ l) α)
      (fromOption e' found' : Transaction τ ε' β)
      (fun a b s d => found = some a ∧ found' = some b ∧ P s d) E := by
  intro s d hs
  cases hfound : found with
  | none =>
    obtain rfl := hnone.mp hfound
    refine ⟨fun b d' hruns => ?_, fun e'' hfails => ?_⟩
    · cases (runs_fromOption.mp hruns).1
    · obtain ⟨-, rfl⟩ := fails_fromOption.mp hfails
      exact ⟨e, s, respond_expect e none, h s d hs hfound⟩
  | some a =>
    cases hfound' : found' with
    | none => cases hfound.symm.trans (hnone.mpr hfound')
    | some b =>
      refine ⟨fun b' d' hruns => ?_, fun e'' hfails => ?_⟩
      · obtain ⟨hb, rfl⟩ := runs_fromOption.mp hruns
        exact ⟨a, s, respond_expect e (some a), rfl, hb, hs⟩
      · cases (fails_fromOption.mp hfails).1

/-- The transaction is given what a part of the request answers. -/
theorem fromOk {b : β}
    (h : ∀ s d, P s d → ∃ a s', respond x s = (.ok a, s') ∧ Q a b s' d) :
    Follows P x (fromExcept (.ok b) : Transaction τ ε' β) Q E := by
  intro s d hs
  refine ⟨fun b' d' hruns => ?_, fun e' hfails => ?_⟩
  · obtain ⟨hb, rfl⟩ := runs_fromExcept.mp hruns
    obtain rfl := Except.ok.inj hb
    exact h s d hs
  · cases fails_fromExcept.mp hfails

theorem fromError {e' : ε'}
    (h : ∀ s d, P s d → ∃ e s', respond x s = (.error e, s') ∧ E e e' s') :
    Follows P x (fromExcept (.error e') : Transaction τ ε' β) Q E := by
  intro s d hs
  refine ⟨fun b' d' hruns => ?_, fun e'' hfails => ?_⟩
  · cases (runs_fromExcept.mp hruns).1
  · obtain rfl := Except.error.inj (fails_fromExcept.mp hfails)
    exact h s d hs

/-- What the handler makes of an error is an error again. -/
theorem handle {handler : ε → ExceptT ε₂ (Program σ κ l) α}
    {E' : ε₂ → ε' → Connection σ → Prop} (h : Follows P x t Q E)
    (hhandler : ∀ e e' s, E e e' s → ∃ e₂ s',
      respond (handler e) s = (.error e₂, s') ∧ E' e₂ e' s') :
    Follows P (Program.handle x handler) t Q E' := by
  intro s d hs
  obtain ⟨hok, herror⟩ := h s d hs
  constructor
  · intro b d' hruns
    obtain ⟨a, s', hrespond, hrelated⟩ := hok b d' hruns
    exact ⟨a, s', by simp only [respond_handle, hrespond], hrelated⟩
  · intro e' hfails
    obtain ⟨e, s₁, hrespond, hrelated⟩ := herror e' hfails
    obtain ⟨e₂, s', hlast, hlost⟩ := hhandler e e' s₁ hrelated
    exact ⟨e₂, s', by simp only [respond_handle, hrespond, hlast], hlost⟩

theorem unitOfWork (label : α → l) (h : Follows P x t Q E) :
    Follows P (Program.unitOfWork label x) t
      (fun a b s d => ∃ s', Q a b s' d ∧ s = s'.commit)
      fun e e' s => ∃ s', E e e' s' ∧ s = s'.rollback := by
  intro s d hs
  obtain ⟨hok, herror⟩ := h s d hs
  constructor
  · intro b d' hruns
    obtain ⟨a, s', hrespond, hrelated⟩ := hok b d' hruns
    exact ⟨a, s'.commit, by simp only [respond_unitOfWork, hrespond], s', hrelated, rfl⟩
  · intro e' hfails
    obtain ⟨e, s', hrespond, hrelated⟩ := herror e' hfails
    exact ⟨e, s'.rollback, by simp only [respond_unitOfWork, hrespond], s', hrelated, rfl⟩

end Follows

/-! ### On one state -/

/-- The connection sees the state, which meets `P`, and `c` is still what is committed. -/
structure Sees (c : σ) (P : σ → Prop) (s : Connection σ) (d : σ) : Prop where
  committed : s.committed = c
  view : s.view = d
  holds : P d

/-- Alone, the request does to what it sees what the transaction does, and commits nothing; what
the transaction raises it raises as `f` has it. -/
def Performs (f : ε' → ε) (P : σ → Prop) (x : ExceptT ε (Program σ κ l) α)
    (t : Transaction σ ε' β) (R : α → β → σ → Prop) : Prop :=
  ∀ c, Follows (Sees c P) x t (fun a b => Sees c (R a b))
    fun e e' s => e = f e' ∧ s.committed = c

namespace Performs

variable {f : ε' → ε} {P : σ → Prop} {x : ExceptT ε (Program σ κ l) α}
  {t : Transaction σ ε' β} {R : α → β → σ → Prop}

theorem weaken (h : Performs f P x t R) {P' : σ → Prop} {R' : α → β → σ → Prop}
    (hP : ∀ d, P' d → P d) (hR : ∀ a b d, R a b d → R' a b d) : Performs f P' x t R' :=
  fun c => (h c).weaken (fun _ d hs => ⟨hs.committed, hs.view, hP d hs.holds⟩)
    (fun a b _ d hs => ⟨hs.committed, hs.view, hR a b d hs.holds⟩) fun _ _ _ he => he

theorem bind {g : α → ExceptT ε (Program σ κ l) γ} {u : β → Transaction σ ε' δ}
    {Q : γ → δ → σ → Prop} (hx : Performs f P x t R)
    (hg : ∀ a b, Performs f (R a b) (g a) (u b) Q) : Performs f P (x >>= g) (t >>= u) Q :=
  fun c => (hx c).bind fun a b => hg a b c

/-- After two that give the same. -/
theorem bindEq {g : α → ExceptT ε (Program σ κ l) γ} {t : Transaction σ ε' α}
    {u : α → Transaction σ ε' δ} {M : α → σ → Prop} {Q : γ → δ → σ → Prop}
    (hx : Performs f P x t fun a b d => a = b ∧ M a d)
    (hg : ∀ a, Performs f (M a) (g a) (u a) Q) : Performs f P (x >>= g) (t >>= u) Q := by
  refine hx.bind fun a b c s d hs => ?_
  obtain ⟨rfl, hm⟩ := hs.holds
  exact hg a c s d ⟨hs.committed, hs.view, hm⟩

theorem pure (a : α) (b : β) (h : ∀ d, P d → R a b d) :
    Performs f P (Pure.pure a : ExceptT ε (Program σ κ l) α) (Pure.pure b) R :=
  fun _ => .pure a b fun _ d hs => ⟨hs.committed, hs.view, h d hs.holds⟩

theorem get {g : σ → α} :
    Performs f P (ExceptT.lift (Program.get g) : ExceptT ε (Program σ κ l) α) (reads g)
      fun a b d => a = b ∧ a = g d ∧ P d :=
  fun _ => .get fun _ d hs => ⟨hs.committed, hs.view, by rw [hs.view], by rw [hs.view], hs.holds⟩

theorem ensure {p : Prop} [Decidable p] (e : ε') :
    Performs f P (Program.ensure p (f e) : ExceptT ε (Program σ κ l) Unit) (require p e)
      fun _ _ d => p ∧ P d :=
  fun _ => (Follows.ensure Iff.rfl fun _ _ hs _ => ⟨rfl, hs.committed⟩).weaken (fun _ _ hs => hs)
    (fun _ _ _ _ hs => ⟨hs.2.committed, hs.2.view, hs.1, hs.2.holds⟩) fun _ _ _ he => he

theorem expect (e : ε') (found : Option α) :
    Performs f P (Program.expect (f e) found : ExceptT ε (Program σ κ l) α) (fromOption e found)
      fun a b d => a = b ∧ found = some a ∧ P d :=
  fun _ => (Follows.expect Iff.rfl fun _ _ hs _ => ⟨rfl, hs.committed⟩).weaken (fun _ _ hs => hs)
    (fun _ _ _ _ hs => ⟨hs.2.2.committed, hs.2.2.view,
      Option.some.inj (hs.1.symm.trans hs.2.1), hs.1, hs.2.2.holds⟩) fun _ _ _ he => he

/-- A statement that computes what the transaction answers, and writes nothing. -/
theorem statement {g : σ → Except ε α} {t : Transaction σ ε' α}
    (h : ∀ d, (∃ a, g d = .ok a ∧ Runs t d a d) ∨ ∃ e, g d = .error (f e) ∧ Fails t d e) :
    Performs f P (ExceptT.mk (Program.get g) : ExceptT ε (Program σ κ l) α) t
      fun a b d => a = b ∧ P d := by
  intro c s d hs
  have hrespond : respond (ExceptT.mk (Program.get g) : ExceptT ε (Program σ κ l) α) s =
      (g d, s) := congrArg (g · , s) hs.view
  constructor
  · intro b d' hruns
    rcases h d with ⟨a, hg, hruns'⟩ | ⟨e, -, hfails⟩
    · obtain ⟨rfl, rfl⟩ := hruns'.unique hruns
      exact ⟨a, s, hg ▸ hrespond, hs.committed, hs.view, rfl, hs.holds⟩
    · exact absurd hfails hruns.not_fails
  · intro e' hfails
    rcases h d with ⟨a, -, hruns⟩ | ⟨e, hg, hfails'⟩
    · exact absurd hfails hruns.not_fails
    · obtain rfl : e = e' := Except.error.inj (hfails'.symm.trans hfails)
      exact ⟨f e, s, hg ▸ hrespond, rfl, hs.committed⟩

/-- The locks make no difference. -/
theorem selectForUpdate {find : σ → Option α} {key : α → κ} :
    Performs f P (ExceptT.lift (Program.selectForUpdate find key) :
      ExceptT ε (Program σ κ l) (Option α)) (reads find) fun a b d => a = b ∧ a = find d ∧ P d := by
  intro c s d hs
  refine ⟨fun b d' hruns => ?_, fun e' hfails => absurd hfails fails_reads⟩
  obtain ⟨rfl, rfl⟩ := runs_reads.mp hruns
  exact ⟨find s.view, s, by simp, hs.committed, hs.view, by rw [hs.view], by rw [hs.view], hs.holds⟩

theorem update {change : σ → σ} {b : β} (h : ∀ d, P d → Runs t d b (change d)) :
    Performs f P (ExceptT.lift (Program.update change) : ExceptT ε (Program σ κ l) Unit) t
      fun _ b' d' => b' = b ∧ ∃ d, P d ∧ d' = change d := by
  intro c s d hs
  refine ⟨fun b' d' hruns => ?_, fun e' hfails => absurd hfails (h d hs.holds).not_fails⟩
  obtain ⟨rfl, rfl⟩ := (h d hs.holds).unique hruns
  exact ⟨(), s.write change, by simp, hs.committed, congrArg change hs.view, rfl, d, hs.holds, rfl⟩

theorem insert {keys : List κ} {taken : σ → Bool} {add : σ → σ} {e : ε'}
    {t : Transaction σ ε' Unit}
    (hfree : ∀ d, P d → taken d = false → Runs t d () (add d))
    (htaken : ∀ d, P d → taken d = true → Fails t d e) :
    Performs f P (Program.insert (f e) keys taken add : ExceptT ε (Program σ κ l) Unit) t
      fun _ _ d' => ∃ d, P d ∧ d' = add d := by
  intro c s d hs
  obtain rfl := hs.view
  cases htable : taken s.view with
  | false =>
    refine ⟨fun u d' hruns => ?_, fun e' hfails =>
      absurd hfails (hfree _ hs.holds htable).not_fails⟩
    obtain ⟨-, rfl⟩ := (hfree _ hs.holds htable).unique hruns
    exact ⟨(), s.write add, by simp [htable], hs.committed, rfl, s.view, hs.holds, rfl⟩
  | true =>
    have hrefused := htaken _ hs.holds htable
    refine ⟨fun u d' hruns => absurd hrefused hruns.not_fails, fun e' hfails => ?_⟩
    obtain rfl : e = e' := Except.error.inj (hrefused.symm.trans hfails)
    exact ⟨f e, s, by simp [htable], rfl, hs.committed⟩

/-- What is raised under another name. -/
theorem mapError {ε'' : Type} {g : ε → ε''} {y : ExceptT ε'' (Program σ κ l) α}
    {t : Transaction σ ε β} (h : Performs g P y t R) :
    Performs id P y (Transaction.mapError g t) R := by
  intro c s d hs
  obtain ⟨hok, herror⟩ := h c s d hs
  refine ⟨fun b d' hruns => hok b d' (runs_mapError.mp hruns), fun e' hfails => ?_⟩
  obtain ⟨e, hraised, rfl⟩ := fails_mapError.mp hfails
  exact herror e hraised

/-- What the transaction makes of its result at the end. -/
theorem pureRight (h : Performs f P x t R) (g : β → δ) :
    Performs f P x (t >>= fun b => Pure.pure (g b)) fun a b' d => ∃ b, R a b d ∧ b' = g b := by
  intro c s d hs
  obtain ⟨hok, herror⟩ := h c s d hs
  constructor
  · intro b' d' hruns
    obtain ⟨b, _, hfirst, hlast⟩ := runs_bind.mp hruns
    obtain ⟨rfl, rfl⟩ := runs_pure.mp hlast
    obtain ⟨a, s', hrespond, hs'⟩ := hok b _ hfirst
    exact ⟨a, s', hrespond, hs'.committed, hs'.view, b, hs'.holds, rfl⟩
  · intro e' hfails
    rcases fails_bind.mp hfails with hfails | ⟨_, _, _, hfails⟩
    · exact herror e' hfails
    · exact absurd hfails fails_pure

theorem pureLeft (h : Performs f P x t R) (g : α → γ) :
    Performs f P (x >>= fun a => Pure.pure (g a)) t fun a' b d => ∃ a, R a b d ∧ a' = g a :=
  fun c => ((h c).pureLeft g).weaken (fun _ _ hs => hs)
    (fun _ _ _ _ ⟨a, hs, ha⟩ => ⟨hs.committed, hs.view, a, hs.holds, ha⟩) fun _ _ _ he => he

/-- **The block, served alone, commits what the transaction leaves, or nothing.** -/
theorem served {t : Transaction σ ε β} (h : Performs id P x t R) (label : α → l) {c : σ}
    (hc : P c) :
    (∀ b d, Runs t c b d → ∃ a, respond (Program.unitOfWork label x) ⟨c, id⟩ = (.ok a, ⟨d, id⟩) ∧
      R a b d) ∧
    ∀ e, Fails t c e → respond (Program.unitOfWork label x) ⟨c, id⟩ = (.error e, ⟨c, id⟩) := by
  obtain ⟨hok, herror⟩ := (h c).unitOfWork label ⟨c, id⟩ c ⟨rfl, rfl, hc⟩
  constructor
  · intro b d hruns
    obtain ⟨a, _, hrespond, s', hs, rfl⟩ := hok b d hruns
    refine ⟨a, hrespond.trans ?_, hs.holds⟩
    rw [Connection.commit, hs.view]
  · intro e hfails
    obtain ⟨_, _, hrespond, s', ⟨rfl, hs⟩, rfl⟩ := herror e hfails
    rw [hrespond, Connection.rollback, hs]

end Performs

/-- Served alone, the request answers what the transaction does, and leaves what it leaves. -/
def Serves (x : ExceptT ε (Program σ κ l) α) (t : Transaction σ ε α) : Prop :=
  ∀ c, respond x ⟨c, id⟩ = ((atomically t c).1, ⟨(atomically t c).2, id⟩)

/-- After a check that needs no statement. -/
theorem Serves.ensure {x : ExceptT ε (Program σ κ l) α} {t : Transaction σ ε α} {p : Prop}
    [Decidable p] (e : ε) (h : p → Serves x t) :
    Serves (Program.ensure p e >>= fun _ => x) (require p e >>= fun _ => t) := by
  intro c
  unfold Program.ensure require
  by_cases hp : p
  · rw [if_pos hp, if_pos hp]
    exact h hp c
  · rw [if_neg hp, if_neg hp]
    rfl

namespace Performs

variable {x : ExceptT ε (Program σ κ l) β} {t : Transaction σ ε α} {R : β → α → σ → Prop}

/-- A block, of whose result the request answers a part. -/
theorem serves_part (h : Performs id (fun _ => True) x t R) (label : β → l) {f : β → α}
    (hf : ∀ b a d, R b a d → f b = a) :
    Serves (Program.unitOfWork label x >>= fun b => Pure.pure (f b)) t := by
  intro c
  obtain ⟨hok, herror⟩ := h.served label (c := c) trivial
  rw [respond_bind]
  cases hresult : t.run c with
  | ok result =>
    obtain ⟨b, hrespond, hrelated⟩ := hok result.1 result.2 hresult
    rw [hrespond, atomically, hresult]
    exact congrArg (fun a => (Except.ok a, _)) (hf _ _ _ hrelated)
  | error e =>
    rw [herror e hresult, atomically, hresult]

theorem serves {x : ExceptT ε (Program σ κ l) α} {R : α → α → σ → Prop}
    (h : Performs id (fun _ => True) x t R) (label : α → l) (hR : ∀ a b d, R a b d → a = b) :
    Serves (Program.unitOfWork label x) t := by
  intro c
  rw [← h.serves_part label (f := id) hR c, respond_bind]
  rcases respond (Program.unitOfWork label x) ⟨c, id⟩ with ⟨a | e, s⟩ <;> rfl

end Performs

end Program

namespace ReadCommitted

open Program

variable {σ τ κ l ρ ε ε' α β : Type} [DecidableEq κ] {code : ρ → Program σ κ l Unit} {n : ℕ}
  {w : World σ κ l} {r : ρ} {x : ExceptT ε (Program σ κ l) α}

/-- In the world, a request that nobody hinders commits what the transaction does. -/
theorem exec_serves {t : Transaction σ ε α} (hidle : w.program n = .pure ())
    (hfree : Unhindered n w) (hcode : code r = .serve x) (h : Serves x t) : ∃ actions w',
      exec (step code) Always (.begin n r :: actions) w = some w' ∧ w'.program n = .pure () ∧
        w'.state = (atomically t w.state).2 := by
  obtain ⟨actions, w', hexec, hended, hstate⟩ := exec_serve hidle hfree hcode
  exact ⟨actions, w', hexec, hended, hstate.trans (congrArg (·.2.committed) (h w.state))⟩

/-- And one that follows it commits what is related to it. -/
theorem exec_follows {t : Transaction τ ε' β} {pre : Connection σ → τ → Prop}
    {post : α → β → Connection σ → τ → Prop} {failed : ε → ε' → Connection σ → Prop}
    {related : σ → τ → Prop} {d : τ} (hidle : w.program n = .pure ()) (hfree : Unhindered n w)
    (hcode : code r = .serve x) (h : Follows pre x t post failed) (hpre : pre ⟨w.state, id⟩ d)
    (hpost : ∀ a b s d', post a b s d' → related s.committed d')
    (hfailed : ∀ e e' s, failed e e' s → related s.committed d) : ∃ actions w',
      exec (step code) Always (.begin n r :: actions) w = some w' ∧ w'.program n = .pure () ∧
        related w'.state (atomically t d).2 := by
  obtain ⟨actions, w', hexec, hended, hstate⟩ := exec_serve hidle hfree hcode
  refine ⟨actions, w', hexec, hended, ?_⟩
  obtain ⟨hok, herror⟩ := h _ d hpre
  rw [hstate, atomically]
  cases hresult : t.run d with
  | ok result =>
    obtain ⟨a, s, hrespond, hrelated⟩ := hok result.1 result.2 hresult
    rw [hrespond]
    exact hpost _ _ _ _ hrelated
  | error e' =>
    obtain ⟨e, s, hrespond, hlost⟩ := herror e' hresult
    rw [hrespond]
    exact hfailed _ _ _ hlost

end ReadCommitted

end Support
