import ReconcileFlow.Support.ReadCommitted

/-!
# Support — Interference

The weakest precondition `wp` of a program among other clients.  Before each statement the state
may have changed in any way that the contract allows the others (`Interferes`), which excludes what
the program has locked; in return each commit has to keep to the contract (`Commits`).  If every
program of a system does, the invariant holds of every state that is ever committed, and every
commit does what the contract says of its label (`safe_of_reaches`, `Safe.commits`).
-/

namespace Support.ReadCommitted

variable {σ κ l ρ α β : Type}

/-- What the clients promise one another. -/
structure Contract (σ κ l : Type) where
  /-- Holds of every committed state. -/
  Inv : σ → Prop
  /-- What a commit may do, to whom it may concern. -/
  Rely : σ → σ → Prop
  /-- What a commit does not touch without the lock. -/
  Same : κ → σ → σ → Prop
  /-- When a commit is considered at all. -/
  Ok : l → σ → Prop
  /-- What a commit does. -/
  Post : l → σ → σ → Prop
  rely_refl : ∀ s, Rely s s
  rely_trans : ∀ {s t u}, Rely s t → Rely t u → Rely s u
  same_refl : ∀ k s, Same k s s
  same_trans : ∀ {k s t u}, Same k s t → Same k t u → Same k s u

namespace Contract

variable (C : Contract σ κ l)

/-- The others have made `t` of `s`, while the locks `L` were held. -/
structure Interferes (L : Set κ) (s t : σ) : Prop where
  inv : C.Inv t
  rely : C.Rely s t
  same : ∀ k ∈ L, C.Same k s t

/-- A commit under the locks `L` makes `t` of `s`. -/
structure Commits (label : l) (L : Set κ) (s t : σ) : Prop where
  inv : C.Inv t
  rely : C.Rely s t
  same : ∀ k ∉ L, C.Same k s t
  post : C.Post label s t

variable {C}

theorem Interferes.refl {L : Set κ} {s : σ} (h : C.Inv s) : C.Interferes L s s :=
  ⟨h, C.rely_refl s, fun k _ => C.same_refl k s⟩

theorem Interferes.trans {L : Set κ} {s t u : σ} (h : C.Interferes L s t)
    (h' : C.Interferes L t u) : C.Interferes L s u :=
  ⟨h'.inv, C.rely_trans h.rely h'.rely, fun k hk => C.same_trans (h.same k hk) (h'.same k hk)⟩

theorem Interferes.mono {L L' : Set κ} {s t : σ} (h : C.Interferes L s t) (hsub : L' ⊆ L) :
    C.Interferes L' s t :=
  ⟨h.inv, h.rely, fun k hk => h.same k (hsub hk)⟩

end Contract

variable (C : Contract σ κ l)

/-- The program, started in `s` with its writes pending and the locks `L` held, keeps to the
contract and ends as `post` says. -/
def wp : Program σ κ l α → (α → (σ → σ) → Set κ → σ → Prop) → (σ → σ) → Set κ → σ → Prop
  | .pure a, post, pending, L, s => post a pending L s
  | .read next, post, pending, L, s =>
    ∀ t, C.Interferes L s t → wp (next (pending t)) post pending L t
  | .lock k next, post, pending, L, s =>
    ∀ t, C.Interferes L s t → wp (next (pending t)) post pending (insert k L) t
  | .write change next, post, pending, L, s =>
    wp next post (fun s => change (pending s)) L s
  | .commit label next, post, pending, L, s =>
    ∀ t, C.Interferes L s t → C.Ok label t →
      C.Commits label L t (pending t) ∧ wp next post id ∅ (pending t)
  | .rollback next, post, _, L, s => ∀ t, C.Interferes L s t → wp next post id ∅ t
  | .effect label change next, post, pending, L, s =>
    ∀ t, C.Interferes L s t → C.Ok label t →
      C.Commits label L t (change t) ∧ wp (next t) post pending L (change t)

/-- Nothing is asked of the end. -/
def Whatever : α → (σ → σ) → Set κ → σ → Prop := fun _ _ _ _ => True

/-! ### Rules -/

section

variable {C} {post : β → (σ → σ) → Set κ → σ → Prop} {pending : σ → σ} {L : Set κ} {s : σ}

theorem wp_bind {p : Program σ κ l α} {f : α → Program σ κ l β} :
    wp C (p >>= f) post pending L s ↔
      wp C p (fun a pending L s => wp C (f a) post pending L s) pending L s := by
  show wp C (p.bind f) post pending L s ↔ _
  induction p generalizing pending L s with
  | pure a => rfl
  | read next ih => exact forall₂_congr fun t _ => ih _
  | lock k next ih => exact forall₂_congr fun t _ => ih _
  | write change next ih => exact ih
  | commit label next ih => exact forall₃_congr fun t _ _ => and_congr_right fun _ => ih
  | rollback next ih => exact forall₂_congr fun t _ => ih
  | effect label change next ih => exact forall₃_congr fun t _ _ => and_congr_right fun _ => ih _

theorem wp_get {f : σ → β} : wp C (.get f) post pending L s ↔
    ∀ t, C.Interferes L s t → post (f (pending t)) pending L t :=
  Iff.rfl

theorem wp_update {change : σ → σ} {post : Unit → (σ → σ) → Set κ → σ → Prop} :
    wp C (.update change) post pending L s ↔ post () (fun s => change (pending s)) L s :=
  Iff.rfl

theorem wp_finish {label : l} {post : Unit → (σ → σ) → Set κ → σ → Prop} :
    wp C (.finish label) post pending L s ↔ ∀ t, C.Interferes L s t → C.Ok label t →
      C.Commits label L t (pending t) ∧ post () id ∅ (pending t) :=
  Iff.rfl

theorem wp_abort {post : Unit → (σ → σ) → Set κ → σ → Prop} :
    wp C .abort post pending L s ↔ ∀ t, C.Interferes L s t → post () id ∅ t :=
  Iff.rfl

theorem wp_act {label : l} {change : σ → σ} {f : σ → β} :
    wp C (.act label change f) post pending L s ↔ ∀ t, C.Interferes L s t → C.Ok label t →
      C.Commits label L t (change t) ∧ post (f t) pending L (change t) :=
  Iff.rfl

theorem wp_selectForUpdate {find : σ → Option α} {key : α → κ}
    {post : Option α → (σ → σ) → Set κ → σ → Prop} :
    wp C (.selectForUpdate find key) post pending L s ↔ ∀ t, C.Interferes L s t →
      match find (pending t) with
      | none => post none pending L t
      | some row => ∀ u, C.Interferes L t u →
          post (find (pending u)) pending (insert (key row) L) u := by
  unfold Program.selectForUpdate
  rw [wp_bind, wp_get]
  refine forall₂_congr fun t _ => ?_
  cases find (pending t) with
  | none => rfl
  | some row => rfl

/-- Where it does not matter which row was found. -/
theorem wp_selectForUpdate_any {find : σ → Option α} {key : α → κ}
    {post : Option α → (σ → σ) → Set κ → σ → Prop}
    (h : ∀ found L t, C.Inv t → post found pending L t) :
    wp C (.selectForUpdate find key) post pending L s := by
  refine wp_selectForUpdate.mpr fun t ht => ?_
  cases find (pending t) with
  | none => exact h none L t ht.inv
  | some row => exact fun u hu => h _ _ u hu.inv

theorem wp_acquireAll {keys : List κ} {post : Unit → (σ → σ) → Set κ → σ → Prop} (hs : C.Inv s)
    (h : ∀ t, C.Interferes L s t → post () pending (L ∪ {k | k ∈ keys}) t) :
    wp C (.acquireAll keys) post pending L s := by
  induction keys generalizing L s with
  | nil =>
    have hnil : L ∪ {k | k ∈ ([] : List κ)} = L := by simp
    exact hnil ▸ h s (.refl hs)
  | cons k keys ih =>
    intro t ht
    refine ih ht.inv fun u hu => ?_
    have hkeys : insert k L ∪ {k' | k' ∈ keys} = L ∪ {k' | k' ∈ k :: keys} := by
      ext k'
      simp only [Set.mem_union, Set.mem_insert_iff, Set.mem_ofPred_eq, List.mem_cons]
      rw [or_assoc, or_left_comm]
    rw [hkeys]
    exact h u (ht.trans (hu.mono (Set.subset_insert k L)))

/-- Each row of a `SELECT … FOR UPDATE` is kept, with its lock, if it met the condition once the
lock was granted. -/
structure Kept (C : Contract σ κ l) {ι : Type} (key : ι → κ) (still : ι → σ → Bool)
    (pending : σ → σ) (L : Set κ) (s t : σ) (rows kept : List ι) : Prop where
  sublist : kept.Sublist rows
  held : ∀ row ∈ kept, ∃ u, C.Interferes {key row} u t ∧ still row (pending u) = true
  dropped : ∀ row ∈ rows, row ∉ kept →
    ∃ u, C.Interferes L s u ∧ C.Interferes L u t ∧ still row (pending u) = false

theorem wp_lockRows {ι : Type} {key : ι → κ} {still : ι → σ → Bool} {rows : List ι}
    {post : List ι → (σ → σ) → Set κ → σ → Prop} (hs : C.Inv s)
    (h : ∀ t kept, C.Interferes L s t → Kept C key still pending L s t rows kept →
      post kept pending (L ∪ {k | ∃ row ∈ rows, key row = k}) t) :
    wp C (.lockRows key still rows) post pending L s := by
  induction rows generalizing L s post with
  | nil =>
    have hnil : L ∪ {k | ∃ row ∈ ([] : List ι), key row = k} = L := by simp
    have hkept : Kept C key still pending L s s [] [] :=
      ⟨.slnil, fun _ hrow => (List.not_mem_nil hrow).elim, fun _ hrow => (List.not_mem_nil hrow).elim⟩
    exact hnil ▸ h s [] (.refl hs) hkept
  | cons row rows ih =>
    intro t ht
    show wp C (Program.lockRows key still rows >>= _) post pending (insert (key row) L) t
    refine wp_bind.mpr (ih ht.inv fun u kept hu hkept => ?_)
    have hlocks : insert (key row) L ∪ {k | ∃ row ∈ rows, key row = k} =
        L ∪ {k | ∃ row' ∈ row :: rows, key row' = k} := by
      ext k
      simp only [Set.mem_union, Set.mem_insert_iff, Set.mem_ofPred_eq, List.mem_cons]
      grind
    have hsub : L ⊆ insert (key row) L := Set.subset_insert _ _
    rw [hlocks]
    refine h u _ (ht.trans (hu.mono hsub)) ?_
    have hdropped : ∀ row' ∈ rows, row' ∉ kept →
        ∃ v, C.Interferes L s v ∧ C.Interferes L v u ∧ still row' (pending v) = false := by
      intro row' hrow' hnot
      obtain ⟨v, htv, hvu, hstill⟩ := hkept.dropped row' hrow' hnot
      exact ⟨v, ht.trans (htv.mono hsub), hvu.mono hsub, hstill⟩
    by_cases hstill : still row (pending t) = true
    · rw [if_pos hstill]
      refine ⟨hkept.sublist.cons_cons row, fun row' hrow' => ?_, fun row' hrow' hnot => ?_⟩
      · rcases List.mem_cons.mp hrow' with rfl | hrow'
        · exact ⟨t, hu.mono (by simp), hstill⟩
        · exact hkept.held row' hrow'
      · rcases List.mem_cons.mp hrow' with rfl | hrow'
        · exact absurd List.mem_cons_self hnot
        · exact hdropped row' hrow' fun hin => hnot (List.mem_cons_of_mem _ hin)
    · rw [if_neg hstill]
      refine ⟨hkept.sublist.cons row, hkept.held, fun row' hrow' hnot => ?_⟩
      rcases List.mem_cons.mp hrow' with rfl | hrow'
      · exact ⟨t, ht, hu.mono hsub, by simpa using hstill⟩
      · exact hdropped row' hrow' hnot

theorem wp_mono {post' : β → (σ → σ) → Set κ → σ → Prop}
    (hpost : ∀ b pending L s, post b pending L s → post' b pending L s) {p : Program σ κ l β}
    (h : wp C p post pending L s) : wp C p post' pending L s := by
  induction p generalizing pending L s with
  | pure b => exact hpost _ _ _ _ h
  | read next ih => exact fun t ht => ih _ (h t ht)
  | lock k next ih => exact fun t ht => ih _ (h t ht)
  | write change next ih => exact ih h
  | commit label next ih => exact fun t ht hok => ⟨(h t ht hok).1, ih (h t ht hok).2⟩
  | rollback next ih => exact fun t ht => ih (h t ht)
  | effect label change next ih => exact fun t ht hok => ⟨(h t ht hok).1, ih _ (h t ht hok).2⟩

/-- What others do while a program waits does not matter to it. -/
theorem wp_interferes {p : Program σ κ l Unit} {t : σ} (h : wp C p Whatever pending L s)
    (hst : C.Interferes L s t) : wp C p Whatever pending L t := by
  induction p generalizing pending with
  | pure a => exact trivial
  | read next _ => exact fun u hu => h u (hst.trans hu)
  | lock k next _ => exact fun u hu => h u (hst.trans hu)
  | write change next ih => exact ih h
  | commit label next _ => exact fun u hu => h u (hst.trans hu)
  | rollback next _ => exact fun u hu => h u (hst.trans hu)
  | effect label change next _ => exact fun u hu => h u (hst.trans hu)

end

/-! ### Requests that may fail -/

/-- `wp` of a request: how it ends with a response, and how with an error. -/
def wpr {ε : Type} (request : ExceptT ε (Program σ κ l) α)
    (post : α → (σ → σ) → Set κ → σ → Prop) (fail : ε → (σ → σ) → Set κ → σ → Prop)
    (pending : σ → σ) (L : Set κ) (s : σ) : Prop :=
  wp C request.run (fun result => match result with
    | .ok a => post a
    | .error e => fail e) pending L s

section

variable {C} {ε : Type} {post : β → (σ → σ) → Set κ → σ → Prop}
  {fail : ε → (σ → σ) → Set κ → σ → Prop} {pending : σ → σ} {L : Set κ} {s : σ}

theorem wp_serve {request : ExceptT ε (Program σ κ l) α}
    (h : wpr C request Whatever Whatever pending L s) :
    wp C (.serve request) Whatever pending L s := by
  show wp C (request.run >>= _) _ pending L s
  rw [wp_bind]
  exact wp_mono (fun _ _ _ _ _ => trivial) h

theorem wpr_pure {b : β} : wpr C (pure b : ExceptT ε (Program σ κ l) β) post fail pending L s ↔
    post b pending L s :=
  Iff.rfl

theorem wpr_throw {e : ε} : wpr C (throw e : ExceptT ε (Program σ κ l) β) post fail pending L s ↔
    fail e pending L s :=
  Iff.rfl

theorem wpr_bind {x : ExceptT ε (Program σ κ l) α} {f : α → ExceptT ε (Program σ κ l) β} :
    wpr C (x >>= f) post fail pending L s ↔
      wpr C x (fun a pending L s => wpr C (f a) post fail pending L s) fail pending L s := by
  show wp C (x.run >>= ExceptT.bindCont f) _ pending L s ↔ wp C x.run _ pending L s
  rw [wp_bind]
  have hpost : (fun (r : Except ε α) pending L s => wp C (ExceptT.bindCont f r)
      (fun result => match result with
        | .ok a => post a
        | .error e => fail e) pending L s) =
      fun r => match r with
        | .ok a => fun pending L s => wpr C (f a) post fail pending L s
        | .error e => fail e := by
    funext r
    cases r <;> rfl
  exact hpost ▸ Iff.rfl

theorem wpr_lift {x : Program σ κ l β} :
    wpr C (ExceptT.lift x : ExceptT ε (Program σ κ l) β) post fail pending L s ↔
      wp C x post pending L s := by
  show wp C (x >>= fun a => pure (Except.ok a)) _ pending L s ↔ _
  rw [wp_bind]
  rfl

theorem wpr_ensure {p : Prop} [Decidable p] {e : ε}
    {post : Unit → (σ → σ) → Set κ → σ → Prop} :
    wpr C (.ensure p e) post fail pending L s ↔
      (p → post () pending L s) ∧ (¬ p → fail e pending L s) := by
  unfold Program.ensure
  by_cases hp : p <;> simp [hp, wpr_pure, wpr_throw]

theorem wpr_expect {e : ε} {o : Option β} : wpr C (.expect e o) post fail pending L s ↔
    (∀ b, o = some b → post b pending L s) ∧ (o = none → fail e pending L s) := by
  cases o <;> simp [Program.expect, wpr_pure, wpr_throw]

theorem wpr_handle {ε' : Type} {request : ExceptT ε' (Program σ κ l) β}
    {handler : ε' → ExceptT ε (Program σ κ l) β} :
    wpr C (.handle request handler) post fail pending L s ↔
      wpr C request post (fun e pending L s => wpr C (handler e) post fail pending L s)
        pending L s := by
  show wp C (request.run >>= _) _ pending L s ↔ wp C request.run _ pending L s
  rw [wp_bind]
  constructor
  · refine wp_mono fun r pending L s h => ?_
    cases r with
    | ok b => exact h
    | error e => exact h
  · refine wp_mono fun r pending L s h => ?_
    cases r with
    | ok b => exact h
    | error e => exact h

theorem wpr_insert {e : ε} {keys : List κ} {taken : σ → Bool} {add : σ → σ}
    {post : Unit → (σ → σ) → Set κ → σ → Prop} (hs : C.Inv s)
    (h : ∀ t, C.Interferes L s t → taken (pending t) = false →
      post () (fun s => add (pending s)) (L ∪ {k | k ∈ keys}) t)
    (hfail : ∀ t, C.Interferes L s t → fail e pending (L ∪ {k | k ∈ keys}) t) :
    wpr C (.insert e keys taken add) post fail pending L s := by
  refine wpr_bind.mpr (wpr_lift.mpr (wp_acquireAll hs fun t ht => ?_))
  refine wpr_bind.mpr (wpr_lift.mpr (wp_get.mpr fun u hu => ?_))
  have hsu : C.Interferes L s u := ht.trans (hu.mono Set.subset_union_left)
  refine wpr_bind.mpr (wpr_ensure.mpr ⟨fun hfree => ?_, fun _ => hfail u hsu⟩)
  exact wpr_lift.mpr (wp_update.mpr (h u hsu hfree))

theorem wpr_unitOfWork {label : β → l} {body : ExceptT ε (Program σ κ l) β} :
    wpr C (.unitOfWork label body) post fail pending L s ↔
      wpr C body
        (fun b pending L s => ∀ t, C.Interferes L s t → C.Ok (label b) t →
          C.Commits (label b) L t (pending t) ∧ post b id ∅ (pending t))
        (fun e _ L s => ∀ t, C.Interferes L s t → fail e id ∅ t) pending L s := by
  show wp C (body.run >>= _) _ pending L s ↔ wp C body.run _ pending L s
  rw [wp_bind]
  constructor
  · refine wp_mono fun r pending L s h => ?_
    cases r with
    | ok b => exact fun t ht hok => h t ht hok
    | error e => exact fun t ht => h t ht
  · refine wp_mono fun r pending L s h => ?_
    cases r with
    | ok b => exact fun t ht hok => h t ht hok
    | error e => exact fun t ht => h t ht

/-- A block that may commit with what it ends with. -/
def Committable (C : Contract σ κ l) (label : β → l) : β → (σ → σ) → Set κ → σ → Prop :=
  fun b pending L s => ∀ t, C.Interferes L s t → C.Ok (label b) t →
    C.Commits (label b) L t (pending t)

theorem wpr_committable {label : β → l} {body : ExceptT ε (Program σ κ l) β}
    (hpost : ∀ b s, post b id ∅ s) (hfail : ∀ e s, fail e id ∅ s)
    (h : wpr C body (Committable C label) Whatever pending L s) :
    wpr C (.unitOfWork label body) post fail pending L s := by
  refine wpr_unitOfWork.mpr (wp_mono (fun r pending L s hr => ?_) h)
  cases r with
  | ok b => exact fun t ht hok => ⟨hr t ht hok, hpost b _⟩
  | error e => exact fun t _ => hfail e t

/-- A block whose errors are answered once it has been rolled back.  What an error is noted to mean
stays so meanwhile. -/
theorem wpr_block_noted {ε' : Type} {label : β → l} {body : ExceptT ε' (Program σ κ l) β}
    {handler : ε' → ExceptT ε (Program σ κ l) β} {noted : ε' → σ → Prop}
    (hnoted : ∀ e s t, noted e s → C.Rely s t → noted e t) (hpost : ∀ b s, post b id ∅ s)
    (hhandler : ∀ e t, C.Inv t → noted e t → wpr C (handler e) post fail id ∅ t)
    (h : wpr C body (Committable C label) (fun e _ _ s => noted e s) pending L s) :
    wpr C (.handle (.unitOfWork label body) handler) post fail pending L s := by
  refine wpr_handle.mpr (wpr_unitOfWork.mpr (wp_mono (fun r pending L s hr => ?_) h))
  cases r with
  | ok b => exact fun t ht hok => ⟨hr t ht hok, hpost b _⟩
  | error e => exact fun t ht => hhandler e t ht.inv (hnoted e s t hr ht.rely)

theorem wpr_block {ε' : Type} {label : β → l} {body : ExceptT ε' (Program σ κ l) β}
    {handler : ε' → ExceptT ε (Program σ κ l) β} (hpost : ∀ b s, post b id ∅ s)
    (hhandler : ∀ e t, C.Inv t → wpr C (handler e) post fail id ∅ t)
    (h : wpr C body (Committable C label) Whatever pending L s) :
    wpr C (.handle (.unitOfWork label body) handler) post fail pending L s :=
  wpr_block_noted (fun _ _ _ h _ => h) hpost (fun e t ht _ => hhandler e t ht) h

/-- A request that fails after `s` does so as `fail` says. -/
def Lasting (C : Contract σ κ l) (s : σ) (fail : ε → (σ → σ) → Set κ → σ → Prop) : Prop :=
  ∀ e pending L t, C.Rely s t → fail e pending L t

theorem Lasting.after {t : σ} (h : Lasting C s fail) (hst : C.Rely s t) : Lasting C t fail :=
  fun e pending L u hu => h e pending L u (C.rely_trans hst hu)

theorem lasting_whatever : Lasting C s (Whatever : ε → (σ → σ) → Set κ → σ → Prop) :=
  fun _ _ _ _ _ => trivial

/-- Nothing is pending, and the state comes after `s₀`. -/
def Ready (C : Contract σ κ l) (s₀ : σ) : α → (σ → σ) → Set κ → σ → Prop :=
  fun _ pending _ s => pending = id ∧ C.Inv s ∧ C.Rely s₀ s

theorem wpr_ready_bind {s₀ : σ} {x : ExceptT ε (Program σ κ l) α}
    {f : α → ExceptT ε (Program σ κ l) β} (hx : wpr C x (Ready C s₀) Whatever pending L s)
    (hfail : ∀ e pending L s, fail e pending L s)
    (hf : ∀ a L t, C.Inv t → C.Rely s₀ t → wpr C (f a) post fail id L t) :
    wpr C (x >>= f) post fail pending L s := by
  refine wpr_bind.mpr (wp_mono (fun r pending L s hr => ?_) hx)
  cases r with
  | ok a =>
    obtain ⟨rfl, hinv, hrely⟩ := hr
    exact hf a L s hinv hrely
  | error e => exact hfail e pending L s

end

/-! ### Every run -/

section

variable {C} {w w' : World σ κ l} {code : ρ → Program σ κ l Unit} {start : ρ → σ → Prop}

/-- What is next for every client keeps to the contract. -/
structure Safe (C : Contract σ κ l) (w : World σ κ l) : Prop where
  inv : C.Inv w.state
  programs : ∀ n, wp C (w.program n) Whatever (w.pending n) (w.locks n) w.state

theorem Idle.safe (h : Idle w) (hinv : C.Inv w.state) : Safe C w :=
  ⟨hinv, fun n => by rw [h n]; exact trivial⟩

/-- A step of client `n`, which leaves to the others all but the state. -/
theorem Safe.of_own (h : Safe C w) {n : ℕ} (hinv : C.Inv w'.state)
    (hown : wp C (w'.program n) Whatever (w'.pending n) (w'.locks n) w'.state)
    (hothers : ∀ m, m ≠ n → C.Interferes (w.locks m) w.state w'.state)
    (hprogram : ∀ m, m ≠ n → w'.program m = w.program m)
    (hpending : ∀ m, m ≠ n → w'.pending m = w.pending m)
    (hlocks : ∀ m, m ≠ n → w'.locks m = w.locks m) : Safe C w' := by
  refine ⟨hinv, fun m => ?_⟩
  by_cases hm : m = n
  · exact hm ▸ hown
  · rw [hprogram m hm, hpending m hm, hlocks m hm]
    exact wp_interferes (h.programs m) (hothers m hm)

/-- The others are told of a step of client `n`, which ends its transaction. -/
theorem Safe.release (h : Safe C w) {n : ℕ} {program : Program σ κ l Unit} {t : σ}
    (hinv : C.Inv t) (hothers : ∀ m, m ≠ n → C.Interferes (w.locks m) w.state t)
    (hprogram : wp C program Whatever id ∅ t) :
    Safe C { (w.run n program).release n with state := t } := by
  have hlocks (m : ℕ) : ((w.run n program).release n).locks m = if m = n then ∅ else w.locks m := by
    rw [World.locks_release, World.locks_run]
  refine h.of_own (n := n) hinv ?_ hothers (fun m hm => Function.update_of_ne hm ..)
    (fun m hm => Function.update_of_ne hm ..) fun m hm => (hlocks m).trans (if_neg hm)
  show wp C (Function.update w.program n program n) Whatever (Function.update w.pending n id n)
    (((w.run n program).release n).locks n) t
  rw [hlocks, if_pos rfl, Function.update_self, Function.update_self]
  exact hprogram

/-- What the contract says of a commit, at the moment it happens. -/
theorem Safe.commits (h : Safe C w) {n : ℕ} {label : l} {next : Program σ κ l Unit}
    (hp : w.program n = .commit label next) (hok : C.Ok label w.state) :
    C.Commits label (w.locks n) w.state (w.pending n w.state) := by
  have hwp := h.programs n
  rw [hp] at hwp
  exact (hwp _ (.refl h.inv) hok).1

/-- And of what happens outside the transaction. -/
theorem Safe.effects (h : Safe C w) {n : ℕ} {label : l} {change : σ → σ}
    {next : σ → Program σ κ l Unit} (hp : w.program n = .effect label change next)
    (hok : C.Ok label w.state) : C.Commits label (w.locks n) w.state (change w.state) := by
  have hwp := h.programs n
  rw [hp] at hwp
  exact (hwp _ (.refl h.inv) hok).1

variable [DecidableEq κ]

/-- A lock that no other client holds is granted. -/
theorem locks_grant {n : ℕ} {k : κ} (hfree : w.holder k = none ∨ w.holder k = some n) (m : ℕ) :
    {k' | Function.update w.holder k (some n) k' = some m} =
      if m = n then insert k (w.locks m) else w.locks m := by
  ext k'
  by_cases hk : k' = k
  · subst hk
    by_cases hm : m = n
    · simp [hm]
    · rcases hfree with hfree | hfree <;> simp [World.locks, hfree, hm, Ne.symm hm]
  · by_cases hm : m = n <;> simp [World.locks, hk, hm]

theorem Safe.advance (h : Safe C w) {n : ℕ} (hok : Allows C.Ok start w (.advance n : Action ρ))
    (hstep : w.advance n = some w') : Safe C w' := by
  have hwp := h.programs n
  have hsame : ∀ L, C.Interferes L w.state w.state := fun L => .refl h.inv
  -- a lock of another client is not one of this client
  have hdisjoint : ∀ m, m ≠ n → ∀ k ∈ w.locks m, k ∉ w.locks n := by
    intro m hm k hk hn
    exact hm (Option.some.inj (Eq.trans (Eq.symm hk) hn))
  have hprogram (program : Program σ κ l Unit) : (w.run n program).program n = program :=
    Function.update_self ..
  have hrest (program : Program σ κ l Unit) (m : ℕ) (hm : m ≠ n) :
      (w.run n program).program m = w.program m := Function.update_of_ne hm ..
  unfold World.advance at hstep
  unfold Allows at hok
  dsimp only at hok
  cases hp : w.program n with
  | pure a => simp [hp] at hstep
  | read next =>
    simp only [hp, Option.some.injEq] at hstep hwp
    subst hstep
    refine h.of_own (n := n) h.inv ?_ (fun m _ => hsame _) (hrest _) (fun _ _ => rfl) fun _ _ => rfl
    rw [hprogram]
    exact hwp _ (hsame _)
  | lock k next =>
    simp only [hp] at hstep hwp
    split at hstep
    · next hfree =>
      obtain rfl := Option.some.inj hstep
      refine h.of_own (n := n) h.inv ?_ (fun m _ => hsame _) (hrest _) (fun _ _ => rfl)
        fun m hm => (locks_grant hfree m).trans (if_neg hm)
      have hlocks := (locks_grant hfree n).trans (if_pos rfl)
      show wp C ((w.run n (next (w.pending n w.state))).program n) Whatever (w.pending n)
        {k' | Function.update w.holder k (some n) k' = some n} w.state
      rw [hprogram, hlocks]
      exact hwp _ (hsame _)
    · cases hstep
  | write change next =>
    simp only [hp, Option.some.injEq] at hstep hwp
    subst hstep
    refine h.of_own (n := n) h.inv ?_ (fun m _ => hsame _) (hrest _)
      (fun m hm => Function.update_of_ne hm ..) fun _ _ => rfl
    show wp C ((w.run n next).program n) Whatever
      (Function.update w.pending n (fun s => change (w.pending n s)) n) (w.locks n) w.state
    rw [hprogram, Function.update_self]
    exact hwp
  | commit label next =>
    simp only [hp, Option.some.injEq] at hstep hwp hok
    subst hstep
    obtain ⟨hcommits, hnext⟩ := hwp _ (hsame _) hok
    exact h.release hcommits.inv
      (fun m hm => ⟨hcommits.inv, hcommits.rely, fun k hk => hcommits.same k (hdisjoint m hm k hk)⟩)
      hnext
  | rollback next =>
    simp only [hp, Option.some.injEq] at hstep hwp
    subst hstep
    exact h.release h.inv (fun m _ => hsame _) (hwp _ (hsame _))
  | effect label change next =>
    simp only [hp, Option.some.injEq] at hstep hwp hok
    subst hstep
    obtain ⟨hcommits, hnext⟩ := hwp _ (hsame _) hok
    refine h.of_own (n := n) hcommits.inv ?_ (fun m hm => ?_) (hrest _) (fun _ _ => rfl)
      fun _ _ => rfl
    · show wp C ((w.run n (next w.state)).program n) Whatever (w.pending n) (w.locks n)
        (change w.state)
      rw [hprogram]
      exact hnext
    · exact ⟨hcommits.inv, hcommits.rely, fun k hk => hcommits.same k (hdisjoint m hm k hk)⟩

theorem Safe.step
    (hcode : ∀ request s, C.Inv s → start request s → wp C (code request) Whatever id ∅ s)
    (h : Safe C w) {a : Action ρ} (hok : Allows C.Ok start w a) (hstep : step code w a = some w') :
    Safe C w' := by
  have hsame : ∀ L, C.Interferes L w.state w.state := fun L => .refl h.inv
  cases a with
  | advance n => exact h.advance hok hstep
  | crash n =>
    obtain rfl := Option.some.inj hstep
    exact h.release h.inv (fun m _ => hsame _) trivial
  | begin n request =>
    unfold ReadCommitted.step at hstep
    cases hp : w.program n with
    | pure a =>
      simp only [hp, Option.some.injEq] at hstep
      subst hstep
      exact h.release h.inv (fun m _ => hsame _) (hcode request w.state h.inv hok)
    | _ => simp [hp] at hstep

/-- **If every request keeps to the contract, every run of them does.** -/
theorem safe_of_reaches
    (hcode : ∀ request s, C.Inv s → start request s → wp C (code request) Whatever id ∅ s)
    {w₀ : World σ κ l} (hidle : Idle w₀) (hinv : C.Inv w₀.state)
    (hrun : Reaches (step code) (Allows C.Ok start) w₀ w) : Safe C w :=
  hrun.invariant (fun _ _ _ h hok hstep => h.step hcode hok hstep) (hidle.safe hinv)

theorem Safe.rely_step (h : Safe C w) {a : Action ρ} (hok : Allows C.Ok start w a)
    (hstep : ReadCommitted.step code w a = some w') : C.Rely w.state w'.state := by
  have hsame : C.Rely w.state w.state := C.rely_refl _
  cases a with
  | crash n =>
    obtain rfl := Option.some.inj hstep
    exact hsame
  | begin n request =>
    unfold ReadCommitted.step at hstep
    dsimp only at hstep
    split at hstep
    · obtain rfl := Option.some.inj hstep
      exact hsame
    · cases hstep
  | advance n =>
    have hwp := h.programs n
    unfold ReadCommitted.step World.advance at hstep
    unfold Allows at hok
    dsimp only at hstep hok
    cases hp : w.program n with
    | pure a => simp [hp] at hstep
    | lock k next =>
      simp only [hp] at hstep
      split at hstep
      · obtain rfl := Option.some.inj hstep
        exact hsame
      · cases hstep
    | commit label next =>
      simp only [hp, Option.some.injEq] at hstep hwp hok
      subst hstep
      exact (hwp _ (.refl h.inv) hok).1.rely
    | effect label change next =>
      simp only [hp, Option.some.injEq] at hstep hwp hok
      subst hstep
      exact (hwp _ (.refl h.inv) hok).1.rely
    | _ =>
      simp only [hp, Option.some.injEq] at hstep
      subst hstep
      exact hsame

/-- What every commit may do, a run may. -/
theorem rely_of_reaches
    (hcode : ∀ request s, C.Inv s → start request s → wp C (code request) Whatever id ∅ s)
    (hsafe : Safe C w) (hrun : Reaches (step code) (Allows C.Ok start) w w') :
    Safe C w' ∧ C.Rely w.state w'.state := by
  induction hrun with
  | refl => exact ⟨hsafe, C.rely_refl _⟩
  | tail _ hok hstep ih =>
    obtain ⟨hsafe, hrely⟩ := ih
    exact ⟨hsafe.step hcode hok hstep, C.rely_trans hrely (hsafe.rely_step hok hstep)⟩

end

end Support.ReadCommitted
