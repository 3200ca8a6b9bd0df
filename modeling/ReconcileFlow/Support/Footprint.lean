import ReconcileFlow.Support.Interference

/-!
# Support — Footprint

Where a contract is about a part of the state only, most of what a request does is beside the
point: it reads, takes locks, and has writes pending that spare this part.  `Leaves C Q` says so of
a request, for a property `Q` of pending writes; the rules follow the way requests are built, and
leave only the commits to be compared with the contract.  Two contracts that a program keeps to it
keeps to together (`wp_both`).
-/

namespace Support.ReadCommitted

open Program

variable {σ κ l α β ε ε' : Type} {C C' : Contract σ κ l} {Q : (σ → σ) → Prop}

/-- What is pending has the property. -/
def Steady (C : Contract σ κ l) (Q : (σ → σ) → Prop) : α → (σ → σ) → Set κ → σ → Prop :=
  fun _ pending _ s => C.Inv s ∧ Q pending

/-- What is pending keeps the property, however the request ends. -/
def Leaves (C : Contract σ κ l) (Q : (σ → σ) → Prop) (x : ExceptT ε (Program σ κ l) α) : Prop :=
  ∀ pending L s, C.Inv s → Q pending → wpr C x (Steady C Q) (Steady C Q) pending L s

theorem wpr_mono {x : ExceptT ε (Program σ κ l) α}
    {post post' : α → (σ → σ) → Set κ → σ → Prop} {fail fail' : ε → (σ → σ) → Set κ → σ → Prop}
    {pending : σ → σ} {L : Set κ} {s : σ}
    (hpost : ∀ a pending L s, post a pending L s → post' a pending L s)
    (hfail : ∀ e pending L s, fail e pending L s → fail' e pending L s)
    (h : wpr C x post fail pending L s) : wpr C x post' fail' pending L s := by
  refine wp_mono (fun r pending L s hr => ?_) h
  cases r with
  | ok a => exact hpost a pending L s hr
  | error e => exact hfail e pending L s hr

namespace Leaves

variable {x : ExceptT ε (Program σ κ l) α}

/-- The rest of a request that starts so. -/
theorem wpr_bind (h : Leaves C Q x) {f : α → ExceptT ε (Program σ κ l) β}
    {post : β → (σ → σ) → Set κ → σ → Prop} {pending : σ → σ} {L : Set κ} {s : σ} (hs : C.Inv s)
    (hpending : Q pending)
    (hf : ∀ a pending L t, C.Inv t → Q pending → wpr C (f a) post Whatever pending L t) :
    wpr C (x >>= f) post Whatever pending L s := by
  refine ReadCommitted.wpr_bind.mpr (wpr_mono (fun a pending L t ht => ?_)
    (fun _ _ _ _ _ => trivial) (h pending L s hs hpending))
  exact hf a pending L t ht.1 ht.2

theorem whatever (h : Leaves C Q x) {pending : σ → σ} {L : Set κ} {s : σ} (hs : C.Inv s)
    (hpending : Q pending) : wpr C x Whatever Whatever pending L s :=
  wpr_mono (fun _ _ _ _ _ => trivial) (fun _ _ _ _ _ => trivial) (h pending L s hs hpending)

theorem pure (a : α) : Leaves C Q (Pure.pure a : ExceptT ε (Program σ κ l) α) :=
  fun _ _ _ hs hpending => wpr_pure.mpr ⟨hs, hpending⟩

theorem throw (e : ε) : Leaves C Q (MonadExcept.throw e : ExceptT ε (Program σ κ l) α) :=
  fun _ _ _ hs hpending => wpr_throw.mpr ⟨hs, hpending⟩

theorem bind (h : Leaves C Q x) {f : α → ExceptT ε (Program σ κ l) β}
    (hf : ∀ a, Leaves C Q (f a)) : Leaves C Q (x >>= f) := by
  intro pending L s hs hpending
  refine ReadCommitted.wpr_bind.mpr (wpr_mono (fun a pending L t ht => ?_) (fun _ _ _ _ ht => ht)
    (h pending L s hs hpending))
  exact hf a pending L t ht.1 ht.2

theorem ensure (p : Prop) [Decidable p] (e : ε) :
    Leaves C Q (.ensure p e : ExceptT ε (Program σ κ l) Unit) :=
  fun _ _ _ hs hpending => wpr_ensure.mpr ⟨fun _ => ⟨hs, hpending⟩, fun _ => ⟨hs, hpending⟩⟩

theorem expect (e : ε) (found : Option α) :
    Leaves C Q (.expect e found : ExceptT ε (Program σ κ l) α) :=
  fun _ _ _ hs hpending => wpr_expect.mpr ⟨fun _ _ => ⟨hs, hpending⟩, fun _ => ⟨hs, hpending⟩⟩

theorem get (f : σ → α) :
    Leaves C Q (ExceptT.lift (Program.get f) : ExceptT ε (Program σ κ l) α) :=
  fun _ _ _ _ hpending => wpr_lift.mpr (wp_get.mpr fun _ ht => ⟨ht.inv, hpending⟩)

theorem selectForUpdate (find : σ → Option α) (key : α → κ) :
    Leaves C Q (ExceptT.lift (Program.selectForUpdate find key) :
      ExceptT ε (Program σ κ l) (Option α)) :=
  fun _ _ _ _ hpending => wpr_lift.mpr (wp_selectForUpdate_any fun _ _ _ ht => ⟨ht, hpending⟩)

theorem acquireAll (keys : List κ) :
    Leaves C Q (ExceptT.lift (Program.acquireAll keys) : ExceptT ε (Program σ κ l) Unit) :=
  fun _ _ _ hs hpending => wpr_lift.mpr (wp_acquireAll hs fun _ ht => ⟨ht.inv, hpending⟩)

theorem update {change : σ → σ} (h : ∀ pending, Q pending → Q fun s => change (pending s)) :
    Leaves C Q (ExceptT.lift (Program.update change) : ExceptT ε (Program σ κ l) Unit) :=
  fun pending _ _ hs hpending => wpr_lift.mpr (wp_update.mpr ⟨hs, h pending hpending⟩)

theorem act {label : l} {change : σ → σ} {f : σ → α}
    (h : ∀ L t, C.Inv t → C.Ok label t → C.Commits label L t (change t)) :
    Leaves C Q (ExceptT.lift (Program.act label change f) : ExceptT ε (Program σ κ l) α) := by
  intro pending L s hs hpending
  refine wpr_lift.mpr (wp_act.mpr fun t ht hok => ?_)
  have hcommits := h L t ht.inv hok
  exact ⟨hcommits, hcommits.inv, hpending⟩

theorem insert {e : ε} {keys : List κ} {taken : σ → Bool} {add : σ → σ}
    (h : ∀ pending, Q pending → Q fun s => add (pending s)) :
    Leaves C Q (.insert e keys taken add : ExceptT ε (Program σ κ l) Unit) := by
  refine bind (acquireAll keys) fun _ => bind (get taken) fun refused => ?_
  exact bind (ensure _ e) fun _ => update h

theorem handle (h : Leaves C Q x) {handler : ε → ExceptT ε' (Program σ κ l) α}
    (hhandler : ∀ e, Leaves C Q (handler e)) : Leaves C Q (.handle x handler) := by
  intro pending L s hs hpending
  refine wpr_handle.mpr (wpr_mono (fun _ _ _ _ ht => ht) (fun e pending L t ht => ?_)
    (h pending L s hs hpending))
  exact hhandler e pending L t ht.1 ht.2

/-- A transaction that is rolled back leaves nothing pending. -/
theorem abort (hid : Q id) :
    Leaves C Q (ExceptT.lift Program.abort : ExceptT ε (Program σ κ l) Unit) :=
  fun _ _ _ _ _ => wpr_lift.mpr (wp_abort.mpr fun _ ht => ⟨ht.inv, hid⟩)

end Leaves

/-! ### Two contracts -/

/-- Both contracts, for commits that meet `Ok`. -/
def Contract.both (C C' : Contract σ κ l) (Ok : l → σ → Prop) : Contract σ κ l where
  Inv s := C.Inv s ∧ C'.Inv s
  Rely s t := C.Rely s t ∧ C'.Rely s t
  Same k s t := C.Same k s t ∧ C'.Same k s t
  Ok := Ok
  Post label s t := C.Post label s t ∧ C'.Post label s t
  rely_refl s := ⟨C.rely_refl s, C'.rely_refl s⟩
  rely_trans h h' := ⟨C.rely_trans h.1 h'.1, C'.rely_trans h.2 h'.2⟩
  same_refl k s := ⟨C.same_refl k s, C'.same_refl k s⟩
  same_trans h h' := ⟨C.same_trans h.1 h'.1, C'.same_trans h.2 h'.2⟩

namespace Contract

variable {Ok : l → σ → Prop} {L : Set κ} {s t : σ} {label : l}

theorem Interferes.left (h : (C.both C' Ok).Interferes L s t) : C.Interferes L s t :=
  ⟨h.inv.1, h.rely.1, fun k hk => (h.same k hk).1⟩

theorem Interferes.right (h : (C.both C' Ok).Interferes L s t) : C'.Interferes L s t :=
  ⟨h.inv.2, h.rely.2, fun k hk => (h.same k hk).2⟩

theorem Commits.both (h : C.Commits label L s t) (h' : C'.Commits label L s t) :
    (C.both C' Ok).Commits label L s t :=
  ⟨⟨h.inv, h'.inv⟩, ⟨h.rely, h'.rely⟩, fun k hk => ⟨h.same k hk, h'.same k hk⟩, h.post, h'.post⟩

end Contract

/-- **A program that keeps to each of two contracts keeps to both.**  What either asks of a commit
may follow from the other's invariant. -/
theorem wp_both {Ok : l → σ → Prop}
    (hok : ∀ label s, C.Inv s → C'.Inv s → Ok label s → C.Ok label s ∧ C'.Ok label s)
    {p : Program σ κ l Unit} {pending : σ → σ} {L : Set κ} {s : σ}
    (h : wp C p Whatever pending L s) (h' : wp C' p Whatever pending L s) :
    wp (C.both C' Ok) p Whatever pending L s := by
  induction p generalizing pending L s with
  | pure a => exact trivial
  | read next ih => exact fun t ht => ih _ (h t ht.left) (h' t ht.right)
  | lock k next ih => exact fun t ht => ih _ (h t ht.left) (h' t ht.right)
  | write change next ih => exact ih h h'
  | commit label next ih =>
    intro t ht hallowed
    obtain ⟨hl, hr⟩ := hok label t ht.inv.1 ht.inv.2 hallowed
    obtain ⟨hcommits, hnext⟩ := h t ht.left hl
    obtain ⟨hcommits', hnext'⟩ := h' t ht.right hr
    exact ⟨hcommits.both hcommits', ih hnext hnext'⟩
  | rollback next ih => exact fun t ht => ih (h t ht.left) (h' t ht.right)
  | effect label change next ih =>
    intro t ht hallowed
    obtain ⟨hl, hr⟩ := hok label t ht.inv.1 ht.inv.2 hallowed
    obtain ⟨hcommits, hnext⟩ := h t ht.left hl
    obtain ⟨hcommits', hnext'⟩ := h' t ht.right hr
    exact ⟨hcommits.both hcommits', ih _ hnext hnext'⟩

end Support.ReadCommitted
