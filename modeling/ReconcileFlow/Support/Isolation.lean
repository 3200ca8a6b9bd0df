import Mathlib.Data.Option.Basic
import ReconcileFlow.Support.Table
import ReconcileFlow.Support.Transaction

/-!
# Support — Isolation

Two runs of one transaction, in two states that agree on what is a tenant's.  `Couples` relates the
runs of two transactions: both raise the same error, or both return.  A transaction that `Isolates`
the tenant answers the same in both states, leaves states that agree again, and changes nothing
that is not the tenant's (`Tenancy`).  Sequences and loops of such transactions are such
transactions; what is left to show of one is that it reads the same (`isolates_reads`), and of its
writes, which go to one table each, that they are to rows of the tenant (`Part.isolates_update`,
`Part.isolates_insert`).
-/

namespace Support

/-! ### Rows of two tables -/

namespace Table

variable {ρ κ : Type} {S : Schema ρ κ}

/-- The tables have the same rows that meet `p`, in the same order. -/
def Same (p : ρ → Bool) (t t' : Table S) : Prop := t.rows.filter p = t'.rows.filter p

variable {p q : ρ → Bool} {t t' u : Table S} {r old : ρ}

theorem Same.refl : Same p t t := Eq.refl (t.rows.filter p)

theorem Same.trans (h : Same p t t') (h' : Same p t' u) : Same p t u := Eq.trans h h'

/-- What selects rows that meet `p` only selects the same ones. -/
theorem Same.filter (h : Same p t t') (hs : ∀ r ∈ t.rows, q r = true → p r = true)
    (ht : ∀ r ∈ t'.rows, q r = true → p r = true) : t.rows.filter q = t'.rows.filter q := by
  have hboth (rows : List ρ) (hrows : ∀ r ∈ rows, q r = true → p r = true) :
      rows.filter q = (rows.filter p).filter q := by
    rw [List.filter_filter]
    refine List.filter_congr fun r hr => ?_
    by_cases hq : q r = true
    · simp [hq, hrows r hr hq]
    · simp [hq]
  rw [hboth t.rows hs, hboth t'.rows ht, h]

theorem Same.find? (h : Same p t t') (hs : ∀ r ∈ t.rows, q r = true → p r = true)
    (ht : ∀ r ∈ t'.rows, q r = true → p r = true) : t.rows.find? q = t'.rows.find? q := by
  rw [← List.head?_filter, ← List.head?_filter, h.filter hs ht]

theorem Same.any (h : Same p t t') (hs : ∀ r ∈ t.rows, q r = true → p r = true)
    (ht : ∀ r ∈ t'.rows, q r = true → p r = true) : t.rows.any q = t'.rows.any q := by
  have hany (rows : List ρ) : rows.any q = !(rows.filter q).isEmpty := by
    rw [Bool.eq_iff_iff]
    simp [List.filter_eq_nil_iff]
  rw [hany, hany, h.filter hs ht]

variable [DecidableEq κ]

theorem Same.find (h : Same p t t') (k : κ) : (t.find k).filter p = (t'.find k).filter p := by
  have hrows : (t.filter p).find k = (t'.filter p).find k :=
    congrArg (List.find? fun r => decide (S.key r = k)) h
  rw [← find_filter, ← find_filter, hrows]

theorem Same.find_eq (h : Same p t t') {k : κ} (hr : t.find k = some r) (hp : p r = true) :
    t'.find k = some r := by
  have hfound := h.find k
  rw [hr, Option.filter_some, if_pos hp] at hfound
  exact (Option.filter_eq_some_iff.mp hfound.symm).1

/-! ### Changes of one row -/

/-- The row `r` has the key and the unique values of the stored row `old`. -/
structure Replaces (t : Table S) (r old : ρ) : Prop where
  find : t.find (S.key r) = some old
  clash : ∀ u, S.clash r u = S.clash old u ∧ S.clash u r = S.clash u old

theorem Replaces.update_isSome (h : t.Replaces r old) : (t.update? r).isSome = S.check r := by
  rw [Bool.eq_iff_iff]
  constructor
  · intro hsome
    obtain ⟨t', ht'⟩ := Option.isSome_iff_exists.mp hsome
    have hfind : t'.find (S.key r) = some r := by rw [find_update ht', if_pos rfl, h.find]; rfl
    exact check_of_find hfind
  · intro hcheck
    obtain ⟨t', ht'⟩ := exists_update hcheck fun u hu hne => by
      have hother : old ≠ u := fun he => hne (he ▸ key_of_find h.find)
      rw [(h.clash u).1, (h.clash u).2]
      refine Bool.or_eq_false_iff.mpr ⟨?_, ?_⟩
      · exact Bool.eq_false_iff.mpr fun hc => hother (eq_of_clash (mem_of_find h.find) hu hc)
      · exact Bool.eq_false_iff.mpr fun hc => hother (eq_of_clash hu (mem_of_find h.find) hc).symm
    rw [ht']
    rfl

/-- The rows that meet `p`, after a row was replaced that meets it as before. -/
theorem Replaces.filter_update (h : t.Replaces r old) (hp : p r = p old)
    (hu : t.update? r = some u) :
    u.rows.filter p = (t.rows.filter p).map fun s => if S.key s = S.key r then r else s := by
  rw [rows_update hu, List.filter_map]
  refine congrArg _ (List.filter_congr fun s hs => ?_)
  by_cases hkey : S.key s = S.key r
  · have hs : s = old := Option.some.inj ((find_of_mem hs).symm.trans (hkey ▸ h.find))
    simp [hs ▸ hkey, hp, hs]
  · simp [hkey]

theorem Replaces.same_update (h : t.Replaces r old) (hr : p r = false) (hold : p old = false)
    (hu : t.update? r = some u) : Same p t u := by
  unfold Same
  rw [h.filter_update (hr.trans hold.symm) hu]
  refine ((List.map_congr_left fun s hs => ?_).trans (List.map_id _)).symm
  obtain ⟨hs, hps⟩ := List.mem_filter.mp hs
  refine if_neg fun hkey => ?_
  have hs : s = old := Option.some.inj ((find_of_mem hs).symm.trans (hkey ▸ h.find))
  rw [hs, hold] at hps
  cases hps

/-- Nothing stored is in the way of the row `r`. -/
structure Free (t : Table S) (r : ρ) : Prop where
  key : ∀ s ∈ t.rows, S.key s ≠ S.key r
  clash : ∀ s ∈ t.rows, (S.clash s r || S.clash r s) = false

theorem insert_isSome : (t.insert? r).isSome = true ↔ t.Free r ∧ S.check r = true := by
  constructor
  · intro hsome
    obtain ⟨u, hu⟩ := Option.isSome_iff_exists.mp hsome
    have hvalid := u.valid
    rw [rows_insert hu] at hvalid
    refine ⟨⟨find_eq_none.mp (find_of_insert hu), fun s hs => ?_⟩, ?_⟩
    · exact (List.pairwise_append.mp hvalid.2.1).2.2 s hs r (List.mem_singleton.mpr rfl)
    · exact hvalid.2.2 r (List.mem_append_right _ (List.mem_singleton.mpr rfl))
  · rintro ⟨hfree, hcheck⟩
    obtain ⟨u, hu⟩ := exists_insert hcheck hfree.key fun s hs => by
      rw [Bool.or_comm]
      exact hfree.clash s hs
    rw [hu]
    rfl

theorem filter_insert (hu : t.insert? r = some u) :
    u.rows.filter p = t.rows.filter p ++ [r].filter p := by
  rw [rows_insert hu, List.filter_append]

end Table

namespace Transaction

variable {σ ε α β γ δ : Type}

/-! ### Two runs -/

/-- Both raise the same error, or both return and end as `post` says. -/
def Couples (x : Transaction σ ε α) (y : Transaction σ ε β) (post : α → σ → β → σ → Prop)
    (s t : σ) : Prop :=
  match x.run s, y.run t with
  | .ok (a, s'), .ok (b, t') => post a s' b t'
  | .error e, .error e' => e = e'
  | _, _ => False

section

variable {x : Transaction σ ε α} {y : Transaction σ ε β} {post : γ → σ → δ → σ → Prop} {s t : σ}
  {e : ε}

theorem couples_pure {a : γ} {b : δ} :
    Couples (pure a : Transaction σ ε γ) (pure b) post s t ↔ post a s b t := Iff.rfl

theorem couples_throw : Couples (throw e : Transaction σ ε γ) (throw e) post s t :=
  Eq.refl e

theorem couples_bind {f : α → Transaction σ ε γ} {g : β → Transaction σ ε δ}
    (h : Couples x y (fun a s' b t' => Couples (f a) (g b) post s' t') s t) :
    Couples (x >>= f) (y >>= g) post s t := by
  unfold Couples at h ⊢
  rw [StateT.run_bind, StateT.run_bind]
  split at h
  · next hx hy =>
    rw [hx, hy]
    exact h
  · next hx hy =>
    rw [hx, hy]
    exact h
  · exact h.elim

theorem couples_get_bind {f : σ → Transaction σ ε γ} {g : σ → Transaction σ ε δ} :
    Couples (get >>= f) (get >>= g) post s t ↔ Couples (f s) (g t) post s t := Iff.rfl

theorem couples_require {post : Unit → σ → Unit → σ → Prop} {p q : Prop} [Decidable p]
    [Decidable q] (hpq : p ↔ q) (h : p → q → post () s () t) :
    Couples (require p e) (require q e) post s t := by
  unfold require
  by_cases hp : p
  · rw [if_pos hp, if_pos (hpq.mp hp)]
    exact h hp (hpq.mp hp)
  · rw [if_neg hp, if_neg fun hq => hp (hpq.mpr hq)]
    exact couples_throw

theorem couples_fromOption {o : Option γ} {o' : Option δ} (ho : o.isSome = o'.isSome)
    (h : ∀ a b, o = some a → o' = some b → post a s b t) :
    Couples (fromOption e o) (fromOption e o') post s t := by
  cases o with
  | none =>
    cases o' with
    | none => exact couples_throw
    | some b => cases ho
  | some a =>
    cases o' with
    | none => cases ho
    | some b => exact h a b rfl rfl

theorem couples_fromOption_eq {o o' : Option γ} {post : γ → σ → γ → σ → Prop} (ho : o = o')
    (h : ∀ a, o = some a → post a s a t) :
    Couples (fromOption e o) (fromOption e o') post s t := by
  refine couples_fromOption (congrArg _ ho) fun a b ha hb => ?_
  obtain rfl := Option.some.inj (ha.symm.trans (ho.trans hb))
  exact h a ha

theorem Couples.mono {post' : γ → σ → δ → σ → Prop} {x : Transaction σ ε γ} {y : Transaction σ ε δ}
    (h : Couples x y post s t) (hpost : ∀ a s' b t', post a s' b t' → post' a s' b t') :
    Couples x y post' s t := by
  unfold Couples at h ⊢
  split at h
  · exact hpost _ _ _ _ h
  · exact h
  · exact h.elim

end

/-! ### What is a tenant's -/

end Transaction

/-- What the states of a system are to one tenant. -/
structure Tenancy (σ : Type) where
  /-- Holds of every state. -/
  Inv : σ → Prop
  /-- What is the tenant's is the same. -/
  Agree : σ → σ → Prop
  /-- Nothing has changed that is not the tenant's. -/
  Confined : σ → σ → Prop
  refl : ∀ s, Confined s s
  trans : ∀ {s t u}, Confined s t → Confined t u → Confined s u

namespace Tenancy

variable {σ : Type} (T : Tenancy σ)

/-- Two states that the tenant cannot tell apart. -/
structure Linked (s t : σ) : Prop where
  left : T.Inv s
  right : T.Inv t
  agree : T.Agree s t

/-- From two states the tenant moves on to two others. -/
structure Moves (s t s' t' : σ) : Prop where
  linked : T.Linked s' t'
  left : T.Confined s s'
  right : T.Confined t t'

variable {T} {s t s' t' s'' t'' : σ}

theorem Moves.refl (h : T.Linked s t) : T.Moves s t s t := ⟨h, T.refl s, T.refl t⟩

theorem Moves.trans (h : T.Moves s t s' t') (h' : T.Moves s' t' s'' t'') : T.Moves s t s'' t'' :=
  ⟨h'.linked, T.trans h.left h'.left, T.trans h.right h'.right⟩

end Tenancy

namespace Transaction

variable {σ ε α β : Type} {T : Tenancy σ}

/-- In two states that the tenant cannot tell apart the transaction answers the same, and moves on
to two such states. -/
def Isolates (T : Tenancy σ) (pre : σ → Prop) (x : Transaction σ ε α) (post : α → σ → Prop) :
    Prop :=
  ∀ s t, T.Linked s t → pre s → pre t →
    Couples x x (fun a s' b t' => a = b ∧ T.Moves s t s' t' ∧ post a s' ∧ post a t') s t

/-- It does in any two such states. -/
abbrev Isolating (T : Tenancy σ) (x : Transaction σ ε α) : Prop :=
  Isolates T (fun _ => True) x fun _ _ => True

section

variable {pre : σ → Prop} {post : α → σ → Prop} {x : Transaction σ ε α} {e : ε}

/-- A part of two runs that have moved on. -/
theorem Isolates.couples {s₀ t₀ s t : σ} (h : Isolates T pre x post) (hm : T.Moves s₀ t₀ s t)
    (hs : pre s) (ht : pre t) :
    Couples x x (fun a s' b t' => a = b ∧ T.Moves s₀ t₀ s' t' ∧ post a s' ∧ post a t') s t :=
  (h s t hm.linked hs ht).mono fun _ _ _ _ ⟨ha, hm', hpost⟩ => ⟨ha, hm.trans hm', hpost⟩

theorem isolates_bind {f : α → Transaction σ ε β} {post' : β → σ → Prop}
    (h : Isolates T pre x post) (hf : ∀ a, Isolates T (post a) (f a) post') :
    Isolates T pre (x >>= f) post' := by
  intro s t hl hs ht
  refine couples_bind ((h s t hl hs ht).mono fun a s' b t' ⟨ha, hm, hs', ht'⟩ => ?_)
  subst ha
  exact (hf a).couples hm hs' ht'

theorem isolates_pure {a : α} (h : ∀ s, pre s → post a s) :
    Isolates T pre (pure a : Transaction σ ε α) post :=
  fun s t hl hs ht => ⟨rfl, .refl hl, h s hs, h t ht⟩

theorem Isolates.mono {pre' : σ → Prop} {post' : α → σ → Prop} (h : Isolates T pre x post)
    (hpre : ∀ s, pre' s → pre s) (hpost : ∀ a s, post a s → post' a s) :
    Isolates T pre' x post' :=
  fun s t hl hs ht => (h s t hl (hpre s hs) (hpre t ht)).mono
    fun _ _ _ _ ⟨ha, hm, hs', ht'⟩ => ⟨ha, hm, hpost _ _ hs', hpost _ _ ht'⟩

/-- One run, beside itself. -/
theorem Isolates.keeps {s t : σ} {a : α} (h : Isolates T pre x post) (hagree : T.Agree s s)
    (hinv : T.Inv s) (hs : pre s) (hx : Runs x s a t) : T.Inv t := by
  have hruns := h s s ⟨hinv, hinv, hagree⟩ hs hs
  have hx : x.run s = .ok (a, t) := hx
  unfold Couples at hruns
  rw [hx] at hruns
  exact hruns.2.1.linked.left

/-- What the transaction leaves alone. -/
theorem Isolates.frame {P : σ → Prop} (h : Isolates T pre x post)
    (hP : ∀ s a s', Runs x s a s' → P s → P s') :
    Isolates T (fun s => pre s ∧ P s) x fun a s => post a s ∧ P s := by
  intro s t hl hs ht
  have hruns := h s t hl hs.1 ht.1
  unfold Couples at hruns ⊢
  split at hruns
  · next a s' b t' hx hy =>
    obtain ⟨rfl, hm, hpost, hpost'⟩ := hruns
    exact ⟨rfl, hm, ⟨hpost, hP s a s' hx hs.2⟩, hpost', hP t a t' hy ht.2⟩
  · exact hruns
  · exact hruns.elim

/-- What the precondition says of no state. -/
theorem isolates_of_and {p : Prop} (h : p → Isolates T pre x post) :
    Isolates T (fun s => p ∧ pre s) x post :=
  fun s t hl hs ht => h hs.1 s t hl hs.2 ht.2

theorem isolates_require {p : Prop} [Decidable p] {post : Unit → σ → Prop}
    (h : ∀ s, p → pre s → post () s) : Isolates T pre (require p e) post :=
  fun s t hl hs ht => couples_require Iff.rfl fun hp _ => ⟨rfl, .refl hl, h s hp hs, h t hp ht⟩

/-- A check that precedes `f`. -/
theorem isolates_require_bind {p : Prop} [Decidable p] {f : Unit → Transaction σ ε α}
    (h : p → Isolates T pre (f ()) post) : Isolates T pre (require p e >>= f) post := by
  by_cases hp : p
  · exact isolates_bind (isolates_require fun _ _ hs => hs) fun _ => h hp
  · intro s t _ _ _
    exact couples_bind (couples_require Iff.rfl fun hp' _ => absurd hp' hp)

theorem isolates_fromOption {o : Option α} (h : ∀ a s, o = some a → pre s → post a s) :
    Isolates T pre (fromOption e o) post := by
  intro s t hl hs ht
  refine couples_fromOption rfl fun a b ha hb => ?_
  obtain rfl := Option.some.inj (ha.symm.trans hb)
  exact ⟨rfl, .refl hl, h a s ha hs, h a t ha ht⟩

theorem isolates_fromExcept_bind {o : Except ε α} {f : α → Transaction σ ε β}
    {post : β → σ → Prop} (h : ∀ a, o = .ok a → Isolates T pre (f a) post) :
    Isolates T pre (fromExcept o >>= f) post := by
  cases o with
  | error e => exact fun s t _ _ _ => couples_throw
  | ok a => exact h a rfl

theorem isolates_get_bind {f : σ → Transaction σ ε α}
    (h : ∀ s t, T.Linked s t → pre s → pre t →
      Couples (f s) (f t) (fun a s' b t' => a = b ∧ T.Moves s t s' t' ∧ post a s' ∧ post a t') s t) :
    Isolates T pre (get >>= f) post := h

theorem isolates_reads {f : σ → α} (hf : ∀ s t, T.Linked s t → pre s → pre t → f s = f t)
    (h : ∀ s, T.Inv s → pre s → post (f s) s) :
    Isolates T pre (reads f : Transaction σ ε α) post := by
  intro s t hl hs ht
  have heq := hf s t hl hs ht
  exact ⟨heq, .refl hl, h s hl.left hs, heq ▸ h t hl.right ht⟩

/-- A read that precedes `f`, of which nothing but its value is used. -/
theorem isolates_reads_bind {g : σ → α} {f : α → Transaction σ ε β} {post : β → σ → Prop}
    (hg : ∀ s t, T.Linked s t → g s = g t) (hf : ∀ a, Isolates T pre (f a) post) :
    Isolates T pre (reads g >>= f) post :=
  isolates_bind (isolates_reads (fun s t hl _ _ => hg s t hl) fun _ _ hs => hs) hf

theorem isolating_reads {f : σ → α} (hf : ∀ s t, T.Linked s t → f s = f t) :
    Isolating T (reads f : Transaction σ ε α) :=
  isolates_reads (fun s t hl _ _ => hf s t hl) fun _ _ _ => trivial

theorem isolates_forM {f : α → Transaction σ ε Unit} {P : List α → σ → Prop}
    (h : ∀ a l, Isolates T (P (a :: l)) (f a) fun _ => P l) :
    ∀ l, Isolates T (P l) (forM l f) fun _ => P []
  | [] => isolates_pure fun _ hs => hs
  | a :: l => isolates_bind (h a l) fun _ => isolates_forM h l

end

end Transaction

/-! ### Writing to a table -/

/-- A table of the state. -/
structure Part (σ : Type) {ρ κ : Type} (S : Schema ρ κ) where
  table : σ → Table S
  put : Table S → σ → σ

namespace Part

open Transaction

variable {σ ε ρ κ : Type} [DecidableEq κ] {S : Schema ρ κ} {T : Tenancy σ} {p : ρ → Bool}

/-- Stores the row in place of the one with its key. -/
def update (part : Part σ S) (e : ε) (r : ρ) : Transaction σ ε Unit := do
  let s ← get
  let rows ← fromOption e ((part.table s).update? r)
  set (part.put rows s)

/-- Stores a new row. -/
def insert (part : Part σ S) (e : ε) (r : ρ) : Transaction σ ε Unit := do
  let s ← get
  let rows ← fromOption e ((part.table s).insert? r)
  set (part.put rows s)

theorem runs_update {part : Part σ S} {e : ε} {r : ρ} {s s' : σ} {u : Unit} :
    Runs (part.update e r) s u s' ↔
      ∃ rows, (part.table s).update? r = some rows ∧ part.put rows s = s' := by
  unfold update
  simp only [runs_bind, runs_get, runs_fromOption, runs_set]
  constructor
  · rintro ⟨_, _, ⟨rfl, rfl⟩, rows, _, ⟨hrows, rfl⟩, hput⟩
    exact ⟨rows, hrows, hput⟩
  · rintro ⟨rows, hrows, hput⟩
    exact ⟨s, s, ⟨rfl, rfl⟩, rows, s, ⟨hrows, rfl⟩, hput⟩

theorem runs_insert {part : Part σ S} {e : ε} {r : ρ} {s s' : σ} {u : Unit} :
    Runs (part.insert e r) s u s' ↔
      ∃ rows, (part.table s).insert? r = some rows ∧ part.put rows s = s' := by
  unfold insert
  simp only [runs_bind, runs_get, runs_fromOption, runs_set]
  constructor
  · rintro ⟨_, _, ⟨rfl, rfl⟩, rows, _, ⟨hrows, rfl⟩, hput⟩
    exact ⟨rows, hrows, hput⟩
  · rintro ⟨rows, hrows, hput⟩
    exact ⟨s, s, ⟨rfl, rfl⟩, rows, s, ⟨hrows, rfl⟩, hput⟩

theorem fails_update {part : Part σ S} {e e' : ε} {r : ρ} {s : σ} :
    Fails (part.update e r) s e' ↔ (part.table s).update? r = none ∧ e' = e := by
  unfold update
  simp only [fails_bind, runs_get, runs_fromOption, fails_get, fails_fromOption, fails_set, false_or]
  constructor
  · rintro ⟨_, _, ⟨rfl, rfl⟩, hrefused | ⟨_, _, -, ⟨⟩⟩⟩
    exact hrefused
  · rintro hrefused
    exact ⟨s, s, ⟨rfl, rfl⟩, .inl hrefused⟩

theorem fails_insert {part : Part σ S} {e e' : ε} {r : ρ} {s : σ} :
    Fails (part.insert e r) s e' ↔ (part.table s).insert? r = none ∧ e' = e := by
  unfold insert
  simp only [fails_bind, runs_get, runs_fromOption, fails_get, fails_fromOption, fails_set, false_or]
  constructor
  · rintro ⟨_, _, ⟨rfl, rfl⟩, hrefused | ⟨_, _, -, ⟨⟩⟩⟩
    exact hrefused
  · rintro hrefused
    exact ⟨s, s, ⟨rfl, rfl⟩, .inl hrefused⟩

/-- The rows of the table that meet `p` are the tenant's. -/
structure Shared (part : Part σ S) (T : Tenancy σ) (p : ρ → Bool) : Prop where
  same : ∀ {s t}, T.Agree s t → (part.table s).Same p (part.table t)
  agree : ∀ {s t u v}, T.Agree s t → u.Same p v → T.Agree (part.put u s) (part.put v t)
  confined : ∀ {s u}, (part.table s).Same (fun r => !p r) u → T.Confined s (part.put u s)

variable {part : Part σ S} {e : ε} {r : ρ} {pre : σ → Prop} {post : Unit → σ → Prop}

/-- The row is stored in both states, or in neither. -/
theorem isolates_update_of (hsame : ∀ s t, T.Agree s t → (part.table s).Same p (part.table t))
    (hr : p r = true)
    (hold : ∀ s, T.Inv s → pre s → ∃ old, (part.table s).Replaces r old ∧ p old = true)
    (hnext : ∀ s u, T.Inv s → pre s → (part.table s).update? r = some u →
      (part.table s).Same (fun r => !p r) u →
      T.Inv (part.put u s) ∧ T.Confined s (part.put u s) ∧ post () (part.put u s))
    (hagree : ∀ s t u v, T.Agree s t → pre s → pre t → (part.table s).update? r = some u →
      (part.table t).update? r = some v → u.Same p v → T.Agree (part.put u s) (part.put v t)) :
    Isolates T pre (part.update e r) post := by
  refine isolates_get_bind fun s t hl hs ht => ?_
  obtain ⟨old, hrs, hpold⟩ := hold s hl.left hs
  obtain ⟨old', hrt, hpold'⟩ := hold t hl.right ht
  refine couples_bind (couples_fromOption (hrs.update_isSome.trans hrt.update_isSome.symm) ?_)
  intro u v hu hv
  have hothers {w w' : Table S} {o : ρ} (hw : w.Replaces r o) (ho : p o = true)
      (hu : w.update? r = some w') : w.Same (fun r => !p r) w' :=
    hw.same_update (by simp [hr]) (by simp [ho]) hu
  obtain ⟨hinv, hconfined, hpost⟩ := hnext s u hl.left hs hu (hothers hrs hpold hu)
  obtain ⟨hinv', hconfined', hpost'⟩ := hnext t v hl.right ht hv (hothers hrt hpold' hv)
  have huv : u.Same p v := by
    unfold Table.Same
    rw [hrs.filter_update (hr.trans hpold.symm) hu, hrt.filter_update (hr.trans hpold'.symm) hv,
      hsame s t hl.agree]
  exact ⟨rfl, ⟨⟨hinv, hinv', hagree s t u v hl.agree hs ht hu hv huv⟩, hconfined, hconfined'⟩,
    hpost, hpost'⟩

theorem isolates_update (h : part.Shared T p) (hr : p r = true)
    (hold : ∀ s, T.Inv s → pre s → ∃ old, (part.table s).Replaces r old ∧ p old = true)
    (hnext : ∀ s u, T.Inv s → pre s → (part.table s).update? r = some u →
      T.Inv (part.put u s) ∧ post () (part.put u s)) :
    Isolates T pre (part.update e r) post := by
  refine isolates_update_of (fun _ _ => h.same) hr hold (fun s u hinv hs hu hothers => ?_)
    fun _ _ _ _ hagree _ _ _ _ => h.agree hagree
  obtain ⟨hinv', hpost⟩ := hnext s u hinv hs hu
  exact ⟨hinv', h.confined hothers, hpost⟩

/-- A row is inserted into both states, or into neither. -/
theorem couples_insert {s₀ t₀ s t : σ} (h : part.Shared T p) (hm : T.Moves s₀ t₀ s t)
    (hr : p r = true) (hfree : (part.table s).Free r ↔ (part.table t).Free r)
    (hs : ∀ u, (part.table s).insert? r = some u →
      T.Inv (part.put u s) ∧ post () (part.put u s))
    (ht : ∀ u, (part.table t).insert? r = some u →
      T.Inv (part.put u t) ∧ post () (part.put u t)) :
    Couples (part.insert e r) (part.insert e r)
      (fun a s' b t' => a = b ∧ T.Moves s₀ t₀ s' t' ∧ post a s' ∧ post a t') s t := by
  refine couples_get_bind.mpr (couples_bind (couples_fromOption ?_ fun u v hu hv => ?_))
  · rw [Bool.eq_iff_iff, Table.insert_isSome, Table.insert_isSome, hfree]
  obtain ⟨hinv, hpost⟩ := hs u hu
  obtain ⟨hinv', hpost'⟩ := ht v hv
  have hsame : u.Same p v := by
    unfold Table.Same
    rw [Table.filter_insert hu, Table.filter_insert hv, h.same hm.linked.agree]
  have hothers {w w' : Table S} (hw : w.insert? r = some w') : w.Same (fun r => !p r) w' := by
    unfold Table.Same
    rw [Table.filter_insert hw]
    simp [hr]
  exact ⟨rfl, hm.trans ⟨⟨hinv, hinv', h.agree hm.linked.agree hsame⟩, h.confined (hothers hu),
    h.confined (hothers hv)⟩, hpost, hpost'⟩

theorem isolates_insert (h : part.Shared T p) (hr : p r = true)
    (hfree : ∀ s t, T.Linked s t → pre s → pre t →
      ((part.table s).Free r ↔ (part.table t).Free r))
    (hnext : ∀ s u, T.Inv s → pre s → (part.table s).insert? r = some u →
      T.Inv (part.put u s) ∧ post () (part.put u s)) :
    Isolates T pre (part.insert e r) post :=
  fun s t hl hs ht => couples_insert h (.refl hl) hr (hfree s t hl hs ht)
    (fun u => hnext s u hl.left hs) fun u => hnext t u hl.right ht

end Part

end Support
