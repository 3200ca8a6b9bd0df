import ReconcileFlow.Support.ReadCommitted

/-!
# Support — Alone

A client of `Support.ReadCommitted` while no other is at work.  It never waits and always ends:
`alone` is its answer and what it leaves, `respond` the same of a request that may fail, and the
steps of the world that advance the client do just that (`exec_alone`, `exec_serve`).

Any of its statements may fail, which rolls the transaction back: `trace` and `failures` are what is
left then, one state for each statement (`exec_crash`, `exec_serve_crash`).
-/

namespace Support

/-- What is committed, and what the client has written since. -/
structure Connection (σ : Type) where
  committed : σ
  pending : σ → σ := id

namespace Connection

variable {σ : Type} (s : Connection σ)

/-- What the client's statements see. -/
def view : σ := s.pending s.committed

def write (change : σ → σ) : Connection σ := { s with pending := fun t => change (s.pending t) }

def commit : Connection σ := { committed := s.view }

def rollback : Connection σ := { committed := s.committed }

@[simp] theorem view_begin (t : σ) : view ⟨t, id⟩ = t := rfl

@[simp] theorem view_write (change : σ → σ) : (s.write change).view = change s.view := rfl

@[simp] theorem committed_write (change : σ → σ) : (s.write change).committed = s.committed := rfl

end Connection

namespace Program

variable {σ κ l ε α β : Type}

def alone : Program σ κ l α → Connection σ → α × Connection σ
  | .pure a, s => (a, s)
  | .read next, s | .lock _ next, s => alone (next s.view) s
  | .write change next, s => alone next (s.write change)
  | .commit _ next, s => alone next s.commit
  | .rollback next, s => alone next s.rollback
  | .effect _ change next, s => alone (next s.committed) { s with committed := change s.committed }

/-- What is committed when each statement starts, and so what is left if it fails. -/
def trace : Program σ κ l α → Connection σ → List σ
  | .pure _, _ => []
  | .read next, s | .lock _ next, s => s.committed :: trace (next s.view) s
  | .write change next, s => s.committed :: trace next (s.write change)
  | .commit _ next, s => s.committed :: trace next s.commit
  | .rollback next, s => s.committed :: trace next s.rollback
  | .effect _ change next, s =>
    s.committed :: trace (next s.committed) { s with committed := change s.committed }

/-- What is left to do after the next statement. -/
def statement : Program σ κ l α → Connection σ → Option (Program σ κ l α × Connection σ)
  | .pure _, _ => none
  | .read next, s | .lock _ next, s => some (next s.view, s)
  | .write change next, s => some (next, s.write change)
  | .commit _ next, s => some (next, s.commit)
  | .rollback next, s => some (next, s.rollback)
  | .effect _ change next, s =>
    some (next s.committed, { s with committed := change s.committed })

variable {s t : Connection σ}

theorem alone_statement {p q : Program σ κ l α} (h : p.statement s = some (q, t)) :
    alone p s = alone q t := by
  cases p with
  | pure => cases h
  | _ =>
    obtain ⟨rfl, rfl⟩ := Prod.mk.inj (Option.some.inj h)
    rfl

theorem trace_of_ended {p : Program σ κ l α} (h : p.statement s = none) : trace p s = [] := by
  cases p with
  | pure => rfl
  | _ => cases h

theorem trace_statement {p q : Program σ κ l α} (h : p.statement s = some (q, t)) :
    trace p s = s.committed :: trace q t := by
  cases p with
  | pure => cases h
  | _ =>
    obtain ⟨rfl, rfl⟩ := Prod.mk.inj (Option.some.inj h)
    rfl

theorem alone_bind (p : Program σ κ l α) (f : α → Program σ κ l β) (s : Connection σ) :
    alone (p >>= f) s = alone (f (alone p s).1) (alone p s).2 := by
  show alone (p.bind f) s = _
  induction p generalizing s with
  | pure a => rfl
  | read next ih => exact ih _ s
  | lock k next ih => exact ih _ s
  | write change next ih => exact ih (s.write change)
  | commit label next ih => exact ih s.commit
  | rollback next ih => exact ih s.rollback
  | effect label change next ih => exact ih _ { s with committed := change s.committed }

@[simp] theorem alone_pure (a : α) : alone (Pure.pure a : Program σ κ l α) s = (a, s) := rfl

@[simp] theorem alone_get (f : σ → α) : alone (get f : Program σ κ l α) s = (f s.view, s) := rfl

@[simp] theorem alone_acquire (k : κ) (f : σ → α) :
    alone (acquire k f : Program σ κ l α) s = (f s.view, s) := rfl

@[simp] theorem alone_update (change : σ → σ) :
    alone (update change : Program σ κ l Unit) s = ((), s.write change) := rfl

@[simp] theorem alone_finish (label : l) :
    alone (finish label : Program σ κ l Unit) s = ((), s.commit) := rfl

@[simp] theorem alone_abort : alone (abort : Program σ κ l Unit) s = ((), s.rollback) := rfl

@[simp] theorem alone_act (label : l) (change : σ → σ) (f : σ → α) :
    alone (act label change f : Program σ κ l α) s =
      (f s.committed, { s with committed := change s.committed }) := rfl

/-- The row is the one that was found. -/
@[simp] theorem alone_selectForUpdate (find : σ → Option α) (key : α → κ) :
    alone (selectForUpdate find key : Program σ κ l (Option α)) s = (find s.view, s) := by
  unfold selectForUpdate
  rw [alone_bind, alone_get]
  cases hfind : find s.view with
  | none => rfl
  | some row => exact Prod.ext hfind rfl

@[simp] theorem alone_acquireAll (keys : List κ) :
    alone (acquireAll keys : Program σ κ l Unit) s = ((), s) := by
  induction keys with
  | nil => rfl
  | cons k keys ih => exact ih

@[simp] theorem alone_lockRows {ι : Type} (key : ι → κ) (still : ι → σ → Bool) (rows : List ι) :
    alone (lockRows key still rows : Program σ κ l (List ι)) s =
      (rows.filter fun row => still row s.view, s) := by
  induction rows with
  | nil => rfl
  | cons row rows ih =>
    show alone (lockRows key still rows >>= fun kept =>
      Pure.pure (if still row s.view then row :: kept else kept)) s = _
    rw [alone_bind, ih, alone_pure]
    by_cases hrow : still row s.view = true <;> simp [hrow]

/-! ### Requests that may fail -/

/-- The response to a request, and what it leaves. -/
def respond (x : ExceptT ε (Program σ κ l) α) (s : Connection σ) : Except ε α × Connection σ :=
  alone x.run s

/-- The request goes on after a value, and passes an error on. -/
theorem respond_bind (x : ExceptT ε (Program σ κ l) α) (f : α → ExceptT ε (Program σ κ l) β) :
    respond (x >>= f) s = match (respond x s).1 with
      | .ok a => respond (f a) (respond x s).2
      | .error e => (.error e, (respond x s).2) := by
  unfold respond
  rw [ExceptT.run_bind, alone_bind]
  cases (alone x.run s).1 <;> rfl

@[simp] theorem respond_pure (a : α) :
    respond (Pure.pure a : ExceptT ε (Program σ κ l) α) s = (.ok a, s) := rfl

@[simp] theorem respond_throw (e : ε) :
    respond (throw e : ExceptT ε (Program σ κ l) α) s = (.error e, s) := rfl

@[simp] theorem respond_lift (p : Program σ κ l α) :
    respond (ExceptT.lift p : ExceptT ε (Program σ κ l) α) s =
      (.ok (alone p s).1, (alone p s).2) :=
  alone_bind p _ s

@[simp] theorem respond_ensure (p : Prop) [Decidable p] (e : ε) :
    respond (ensure p e : ExceptT ε (Program σ κ l) Unit) s =
      (if p then .ok () else .error e, s) := by
  unfold ensure
  split <;> rfl

@[simp] theorem respond_expect (e : ε) (found : Option α) :
    respond (expect e found : ExceptT ε (Program σ κ l) α) s =
      (found.elim (.error e) .ok, s) := by
  cases found <;> rfl

theorem respond_handle {ε' : Type} (request : ExceptT ε (Program σ κ l) α)
    (handler : ε → ExceptT ε' (Program σ κ l) α) :
    respond (handle request handler) s = match (respond request s).1 with
      | .ok a => (.ok a, (respond request s).2)
      | .error e => respond (handler e) (respond request s).2 := by
  show alone (request.run >>= _) s = _
  unfold respond
  rw [alone_bind]
  cases (alone request.run s).1 <;> rfl

@[simp] theorem respond_insert (e : ε) (keys : List κ) (taken : σ → Bool) (add : σ → σ) :
    respond (insert e keys taken add : ExceptT ε (Program σ κ l) Unit) s =
      if taken s.view then (.error e, s) else (.ok (), s.write add) := by
  unfold insert
  cases htaken : taken s.view <;> simp [respond_bind, htaken]

theorem respond_unitOfWork (label : α → l) (body : ExceptT ε (Program σ κ l) α) :
    respond (unitOfWork label body) s = match (respond body s).1 with
      | .ok a => (.ok a, (respond body s).2.commit)
      | .error e => (.error e, (respond body s).2.rollback) := by
  show alone (body.run >>= _) s = _
  unfold respond
  rw [alone_bind]
  cases (alone body.run s).1 <;> rfl

theorem alone_serve (request : ExceptT ε (Program σ κ l) α) :
    alone (serve request) s = ((), (respond request s).2) :=
  alone_bind request.run _ s

/-! ### Statements that fail -/

theorem trace_bind (p : Program σ κ l α) (f : α → Program σ κ l β) (s : Connection σ) :
    trace (p >>= f) s = trace p s ++ trace (f (alone p s).1) (alone p s).2 := by
  show trace (p.bind f) s = _
  induction p generalizing s with
  | pure a => rfl
  | read next ih => exact congrArg (s.committed :: ·) (ih _ s)
  | lock k next ih => exact congrArg (s.committed :: ·) (ih _ s)
  | write change next ih => exact congrArg (s.committed :: ·) (ih (s.write change))
  | commit label next ih => exact congrArg (s.committed :: ·) (ih s.commit)
  | rollback next ih => exact congrArg (s.committed :: ·) (ih s.rollback)
  | effect label change next ih =>
    exact congrArg (s.committed :: ·) (ih _ { s with committed := change s.committed })

@[simp] theorem trace_get (f : σ → α) :
    trace (get f : Program σ κ l α) s = [s.committed] := rfl

@[simp] theorem trace_update (change : σ → σ) :
    trace (update change : Program σ κ l Unit) s = [s.committed] := rfl

@[simp] theorem trace_act (label : l) (change : σ → σ) (f : σ → α) :
    trace (act label change f : Program σ κ l α) s = [s.committed] := rfl

@[simp] theorem trace_acquireAll (keys : List κ) :
    trace (acquireAll keys : Program σ κ l Unit) s = List.replicate keys.length s.committed := by
  induction keys with
  | nil => rfl
  | cons k keys ih => exact congrArg (s.committed :: ·) ih

/-- The row is locked if there is one. -/
theorem trace_selectForUpdate (find : σ → Option α) (key : α → κ) :
    trace (selectForUpdate find key : Program σ κ l (Option α)) s =
      s.committed :: ((find s.view).map fun _ => s.committed).toList := by
  unfold selectForUpdate
  rw [trace_bind, alone_get]
  cases hfind : find s.view <;> rfl

/-- What is left if a statement of the request fails. -/
def failures (x : ExceptT ε (Program σ κ l) α) (s : Connection σ) : List σ := trace x.run s

theorem failures_bind (x : ExceptT ε (Program σ κ l) α) (f : α → ExceptT ε (Program σ κ l) β) :
    failures (x >>= f) s = failures x s ++ match (respond x s).1 with
      | .ok a => failures (f a) (respond x s).2
      | .error _ => [] := by
  unfold failures respond
  rw [ExceptT.run_bind, trace_bind]
  cases (alone x.run s).1 <;> rfl

@[simp] theorem failures_pure (a : α) :
    failures (Pure.pure a : ExceptT ε (Program σ κ l) α) s = [] := rfl

@[simp] theorem failures_throw (e : ε) :
    failures (throw e : ExceptT ε (Program σ κ l) α) s = [] := rfl

@[simp] theorem failures_lift (p : Program σ κ l α) :
    failures (ExceptT.lift p : ExceptT ε (Program σ κ l) α) s = trace p s :=
  (trace_bind p _ s).trans (List.append_nil _)

@[simp] theorem failures_ensure (p : Prop) [Decidable p] (e : ε) :
    failures (ensure p e : ExceptT ε (Program σ κ l) Unit) s = [] := by
  unfold ensure
  split <;> rfl

@[simp] theorem failures_expect (e : ε) (found : Option α) :
    failures (expect e found : ExceptT ε (Program σ κ l) α) s = [] := by
  cases found <;> rfl

theorem failures_handle {ε' : Type} (request : ExceptT ε (Program σ κ l) α)
    (handler : ε → ExceptT ε' (Program σ κ l) α) :
    failures (handle request handler) s = failures request s ++ match (respond request s).1 with
      | .ok _ => []
      | .error e => failures (handler e) (respond request s).2 := by
  show trace (request.run >>= _) s = _
  unfold failures respond
  rw [trace_bind]
  cases (alone request.run s).1 <;> rfl

/-- The end of the transaction is a statement of its own. -/
theorem failures_unitOfWork (label : α → l) (body : ExceptT ε (Program σ κ l) α) :
    failures (unitOfWork label body) s = failures body s ++ [(respond body s).2.committed] := by
  show trace (body.run >>= _) s = _
  unfold failures respond
  rw [trace_bind]
  cases (alone body.run s).1 <;> rfl

theorem trace_serve (request : ExceptT ε (Program σ κ l) α) :
    trace (serve request) s = failures request s :=
  (trace_bind request.run _ s).trans (List.append_nil _)

end Program

/-! ### In the world -/

namespace ReadCommitted

variable {σ κ l ρ : Type} [DecidableEq κ] {code : ρ → Program σ κ l Unit}

/-- The client holds all the locks that are held. -/
def Unhindered (n : ℕ) (w : World σ κ l) : Prop := ∀ k, w.holder k = none ∨ w.holder k = some n

def World.connection (w : World σ κ l) (n : ℕ) : Connection σ := ⟨w.state, w.pending n⟩

section

variable {n : ℕ} {w : World σ κ l}

omit [DecidableEq κ] in
theorem Unhindered.holder_release (h : Unhindered n w) (program : Program σ κ l Unit) (k : κ) :
    ((w.run n program).release n).holder k = none := by
  show (if w.holder k = some n then none else w.holder k) = none
  rcases h k with hk | hk <;> simp [hk]

theorem Unhindered.grant (h : Unhindered n w) (k k' : κ) :
    Function.update w.holder k (some n) k' = none ∨
      Function.update w.holder k (some n) k' = some n := by
  by_cases hk : k' = k
  · exact .inr (hk ▸ Function.update_self ..)
  · rw [Function.update_of_ne hk]
    exact h k'

/-- One statement of a client that nobody hinders. -/
theorem advance_statement {q : Program σ κ l Unit} {t : Connection σ} (hfree : Unhindered n w)
    (h : (w.program n).statement (w.connection n) = some (q, t)) :
    ∃ w', w.advance n = some w' ∧ w'.program n = q ∧ w'.connection n = t ∧ Unhindered n w' := by
  have hrun (program : Program σ κ l Unit) : (w.run n program).program n = program :=
    Function.update_self ..
  unfold World.advance
  cases hprogram : w.program n with
  | pure a =>
    rw [hprogram] at h
    cases h
  | read next =>
    rw [hprogram] at h
    obtain ⟨rfl, rfl⟩ := Prod.mk.inj (Option.some.inj h)
    exact ⟨_, rfl, hrun _, rfl, hfree⟩
  | lock k next =>
    rw [hprogram] at h
    obtain ⟨rfl, rfl⟩ := Prod.mk.inj (Option.some.inj h)
    exact ⟨_, if_pos (hfree k), hrun _, rfl, hfree.grant k⟩
  | write change next =>
    rw [hprogram] at h
    obtain ⟨rfl, rfl⟩ := Prod.mk.inj (Option.some.inj h)
    exact ⟨_, rfl, hrun _, congrArg (Connection.mk w.state) (Function.update_self ..), hfree⟩
  | commit label next =>
    rw [hprogram] at h
    obtain ⟨rfl, rfl⟩ := Prod.mk.inj (Option.some.inj h)
    exact ⟨_, rfl, hrun _, congrArg (Connection.mk _) (Function.update_self ..),
      fun k => .inl (hfree.holder_release _ k)⟩
  | rollback next =>
    rw [hprogram] at h
    obtain ⟨rfl, rfl⟩ := Prod.mk.inj (Option.some.inj h)
    exact ⟨_, rfl, hrun _, congrArg (Connection.mk _) (Function.update_self ..),
      fun k => .inl (hfree.holder_release _ k)⟩
  | effect label change next =>
    rw [hprogram] at h
    obtain ⟨rfl, rfl⟩ := Prod.mk.inj (Option.some.inj h)
    exact ⟨_, rfl, hrun _, rfl, hfree⟩

theorem exec_advance {w' : World σ κ l} (actions : List (Action ρ)) (h : w.advance n = some w') :
    exec (step code) Always (.advance n :: actions) w = exec (step code) Always actions w' := by
  show (if Always w (Action.advance n) then (w.advance n).bind _ else none) = _
  simp [Always, h]

end

/-- Some steps of client `n` lead to its answer, and leave what it leaves alone. -/
def EndsAlone (code : ρ → Program σ κ l Unit) (n : ℕ) (w : World σ κ l) : Prop :=
  ∃ m w', exec (step code) Always (List.replicate m (.advance n)) w = some w' ∧
    w'.program n = .pure () ∧ w'.state = ((w.program n).alone (w.connection n)).2.committed

theorem EndsAlone.of_statement {n : ℕ} {w : World σ κ l} {q : Program σ κ l Unit}
    {t : Connection σ} (hfree : Unhindered n w)
    (h : (w.program n).statement (w.connection n) = some (q, t))
    (hend : ∀ w' : World σ κ l, Unhindered n w' → w'.program n = q → EndsAlone code n w') :
    EndsAlone code n w := by
  obtain ⟨v, hadvance, rfl, rfl, hfree'⟩ := advance_statement hfree h
  obtain ⟨m, w', hexec, hprogram, hstate⟩ := hend v hfree' rfl
  exact ⟨m + 1, w', (exec_advance _ hadvance).trans hexec, hprogram,
    hstate.trans (congrArg (·.2.committed) (Program.alone_statement h).symm)⟩

/-- A client that holds all the locks that are held runs to its end. -/
theorem exec_alone (n : ℕ) (w : World σ κ l) (hfree : Unhindered n w) : EndsAlone code n w := by
  generalize hprogram : w.program n = p
  induction p generalizing w with
  | pure a => exact ⟨0, w, rfl, hprogram, by rw [hprogram]; rfl⟩
  | read next ih =>
    exact .of_statement hfree (by rw [hprogram]; rfl) fun w' hfree' => ih _ w' hfree'
  | lock k next ih =>
    exact .of_statement hfree (by rw [hprogram]; rfl) fun w' hfree' => ih _ w' hfree'
  | write change next ih =>
    exact .of_statement hfree (by rw [hprogram]; rfl) fun w' hfree' => ih w' hfree'
  | commit label next ih =>
    exact .of_statement hfree (by rw [hprogram]; rfl) fun w' hfree' => ih w' hfree'
  | rollback next ih =>
    exact .of_statement hfree (by rw [hprogram]; rfl) fun w' hfree' => ih w' hfree'
  | effect label change next ih =>
    exact .of_statement hfree (by rw [hprogram]; rfl) fun w' hfree' => ih _ w' hfree'

/-- If its next statement fails after `i` others, the client leaves the state that its trace has
there. -/
theorem exec_crash {n : ℕ} {w : World σ κ l} (hfree : Unhindered n w) {i : ℕ} {left : σ}
    (h : ((w.program n).trace (w.connection n))[i]? = some left) :
    ∃ w', exec (step code) Always (List.replicate i (.advance n) ++ [.crash n]) w = some w' ∧
      w'.state = left := by
  induction i generalizing w with
  | zero =>
    refine ⟨_, rfl, ?_⟩
    cases hstatement : (w.program n).statement (w.connection n) with
    | none =>
      rw [Program.trace_of_ended hstatement] at h
      cases h
    | some following =>
      rw [Program.trace_statement hstatement] at h
      exact Option.some.inj h
  | succ i ih =>
    cases hstatement : (w.program n).statement (w.connection n) with
    | none =>
      rw [Program.trace_of_ended hstatement] at h
      cases h
    | some following =>
      obtain ⟨q, t⟩ := following
      rw [Program.trace_statement hstatement] at h
      obtain ⟨v, hadvance, rfl, rfl, hfree'⟩ := advance_statement hfree hstatement
      obtain ⟨w', hexec, hstate⟩ := ih hfree' h
      exact ⟨w', (exec_advance _ hadvance).trans hexec, hstate⟩

section

variable {n : ℕ} {w : World σ κ l} {r : ρ} {ε α : Type}
  {request : ExceptT ε (Program σ κ l) α}

/-- A client that nobody hinders takes up a request. -/
theorem exec_begin (code : ρ → Program σ κ l Unit) (r : ρ) (hidle : w.program n = .pure ())
    (hfree : Unhindered n w) :
    ∃ v : World σ κ l, (∀ actions : List (Action ρ),
        exec (step code) Always (.begin n r :: actions) w = exec (step code) Always actions v) ∧
      v.program n = code r ∧ v.connection n = ⟨w.state, id⟩ ∧ Unhindered n v := by
  refine ⟨(w.run n (code r)).release n, fun actions => ?_, Function.update_self ..,
    congrArg (Connection.mk w.state) (Function.update_self ..),
    fun k => .inl (hfree.holder_release _ k)⟩
  show (if Always w (Action.begin n r) then (step code w (.begin n r)).bind _ else none) = _
  simp [Always, step, hidle]

/-- Served while nobody hinders it, a request leaves what it leaves alone. -/
theorem exec_serve (hidle : w.program n = .pure ()) (hfree : Unhindered n w)
    (hcode : code r = .serve request) : ∃ actions w',
      exec (step code) Always (.begin n r :: actions) w = some w' ∧ w'.program n = .pure () ∧
        w'.state = (Program.respond request ⟨w.state, id⟩).2.committed := by
  obtain ⟨v, hbegin, hprogram, hconnection, hfree'⟩ := exec_begin code r hidle hfree
  obtain ⟨m, w', hexec, hended, hstate⟩ := exec_alone n v hfree'
  refine ⟨_, w', (hbegin _).trans hexec, hended, ?_⟩
  rw [hstate, hprogram, hconnection, hcode, Program.alone_serve]

/-- A statement of it may fail. -/
theorem exec_serve_crash (hidle : w.program n = .pure ()) (hfree : Unhindered n w)
    (hcode : code r = .serve request) {i : ℕ} {left : σ}
    (h : (Program.failures request ⟨w.state, id⟩)[i]? = some left) : ∃ actions w',
      exec (step code) Always (.begin n r :: actions) w = some w' ∧ w'.state = left := by
  obtain ⟨v, hbegin, hprogram, hconnection, hfree'⟩ := exec_begin code r hidle hfree
  rw [← Program.trace_serve, ← hcode, ← hprogram, ← hconnection] at h
  obtain ⟨w', hexec, hstate⟩ := exec_crash hfree' h
  exact ⟨_, w', (hbegin _).trans hexec, hstate⟩

end

end ReadCommitted

end Support
