import Mathlib.Data.Set.Insert
import Mathlib.Logic.Function.Basic
import ReconcileFlow.Support.Transition

/-!
# Support — ReadCommitted

Clients of one database whose transactions interleave statement by statement.  A statement sees
what is committed when it starts, with the client's own writes; a lock is held until the
transaction ends, and what it protects is read again once it is granted; writes reach the others
with the commit.  A client may also act outside the transaction, at once (`effect`), and may die at
any point, which rolls its transaction back.

What such clients keep, whatever the order of their statements, is shown with the rules of
`Support.Interference`.
-/

namespace Support

/-- What a client does: statements on the database, whose committed state is a `σ`, with locks
`κ`. -/
inductive Program (σ κ l α : Type) : Type
  | pure (a : α)
  | read (next : σ → Program σ κ l α)
  | lock (k : κ) (next : σ → Program σ κ l α)
  | write (change : σ → σ) (next : Program σ κ l α)
  | commit (label : l) (next : Program σ κ l α)
  | rollback (next : Program σ κ l α)
  | effect (label : l) (change : σ → σ) (next : σ → Program σ κ l α)

namespace Program

variable {σ κ l α β : Type}

def bind : Program σ κ l α → (α → Program σ κ l β) → Program σ κ l β
  | .pure a, f => f a
  | .read next, f => .read fun s => (next s).bind f
  | .lock k next, f => .lock k fun s => (next s).bind f
  | .write change next, f => .write change (next.bind f)
  | .commit label next, f => .commit label (next.bind f)
  | .rollback next, f => .rollback (next.bind f)
  | .effect label change next, f => .effect label change fun s => (next s).bind f

instance : Monad (Program σ κ l) where
  pure := .pure
  bind := .bind

/-- A statement that takes no lock. -/
def get (f : σ → α) : Program σ κ l α := .read fun s => .pure (f s)

/-- Waits for a lock, then reads. -/
def acquire (k : κ) (f : σ → α) : Program σ κ l α := .lock k fun s => .pure (f s)

def update (change : σ → σ) : Program σ κ l Unit := .write change (.pure ())

def finish (label : l) : Program σ κ l Unit := .commit label (.pure ())

/-- Ends the transaction without its writes. -/
def abort : Program σ κ l Unit := .rollback (.pure ())

/-- Acts outside the transaction; answers with what was there before. -/
def act (label : l) (change : σ → σ) (f : σ → α) : Program σ κ l α :=
  .effect label change fun s => .pure (f s)

/-- `SELECT … FOR UPDATE` of one row: it is looked for, locked, and read again. -/
def selectForUpdate (find : σ → Option α) (key : α → κ) : Program σ κ l (Option α) := do
  match ← get find with
  | none => return none
  | some row => acquire (key row) find

/-- Waits for several locks. -/
def acquireAll : List κ → Program σ κ l Unit
  | [] => .pure ()
  | k :: keys => .lock k fun _ => acquireAll keys

/-- `SELECT … FOR UPDATE` of several rows: those found when the statement starts are locked one
after another, and each is kept if it still meets the condition. -/
def lockRows {ι : Type} (key : ι → κ) (still : ι → σ → Bool) : List ι → Program σ κ l (List ι)
  | [] => .pure []
  | row :: rows => .lock (key row) fun s =>
      (lockRows key still rows).bind fun kept =>
        .pure (if still row s then row :: kept else kept)

/-! ### Requests that may fail -/

variable {ε : Type}

/-- Raises `e` unless `p`. -/
def ensure (p : Prop) [Decidable p] (e : ε) : ExceptT ε (Program σ κ l) Unit :=
  if p then Pure.pure () else throw e

/-- What was found, or raises `e`. -/
def expect (e : ε) : Option α → ExceptT ε (Program σ κ l) α
  | some a => Pure.pure a
  | none => throw e

/-- Answers an error with another request. -/
def handle {ε' : Type} (request : ExceptT ε (Program σ κ l) α)
    (handler : ε → ExceptT ε' (Program σ κ l) α) : ExceptT ε' (Program σ κ l) α :=
  ExceptT.mk do
    match ← request.run with
    | .ok a => return .ok a
    | .error e => (handler e).run

/-- `INSERT`: waits for whoever writes one of the row's unique values, and raises `e` if one is
taken. -/
def insert (e : ε) (keys : List κ) (taken : σ → Bool) (add : σ → σ) :
    ExceptT ε (Program σ κ l) Unit := do
  ExceptT.lift (acquireAll keys)
  let refused ← ExceptT.lift (get taken)
  ensure (refused = false) e
  ExceptT.lift (update add)

/-- A block that commits, or rolls back and passes its error on. -/
def unitOfWork (label : α → l) (body : ExceptT ε (Program σ κ l) α) :
    ExceptT ε (Program σ κ l) α :=
  ExceptT.mk do
    match ← body.run with
    | .ok a =>
      finish (label a)
      return .ok a
    | .error e =>
      abort
      return .error e

/-- The request without its response. -/
def serve (request : ExceptT ε (Program σ κ l) α) : Program σ κ l Unit :=
  request.run >>= fun _ => .pure ()

end Program

/-! ### Clients at work together -/

namespace ReadCommitted

variable {σ κ l ρ : Type}

structure World (σ κ l : Type) where
  state : σ
  program : ℕ → Program σ κ l Unit := fun _ => .pure ()
  pending : ℕ → σ → σ := fun _ => id
  holder : κ → Option ℕ := fun _ => none

inductive Action (ρ : Type)
  | begin (n : ℕ) (request : ρ)
  | advance (n : ℕ)
  | crash (n : ℕ)

namespace World

variable (w : World σ κ l)

/-- The locks that client `n` holds. -/
def locks (n : ℕ) : Set κ := {k | w.holder k = some n}

/-- Client `n` is about to run `program`. -/
def run (n : ℕ) (program : Program σ κ l Unit) : World σ κ l :=
  { w with program := Function.update w.program n program }

/-- The transaction of client `n` is over. -/
def release (n : ℕ) : World σ κ l :=
  { w with
    pending := Function.update w.pending n id
    holder := fun k => if w.holder k = some n then none else w.holder k }

@[simp] theorem locks_run (n m : ℕ) (program : Program σ κ l Unit) :
    (w.run n program).locks m = w.locks m := rfl

theorem locks_release (n m : ℕ) : (w.release n).locks m = if m = n then ∅ else w.locks m := by
  ext k
  show (if w.holder k = some n then none else w.holder k) = some m ↔ _
  by_cases hk : w.holder k = some n
  · by_cases hm : m = n
    · simp [hk, hm]
    · simp [locks, hk, hm, Ne.symm hm]
  · by_cases hm : m = n
    · simp [hk, hm]
    · simp [locks, hk, hm]

variable [DecidableEq κ]

/-- The next statement of client `n`, unless it has to wait. -/
def advance (n : ℕ) : Option (World σ κ l) :=
  match w.program n with
  | .pure _ => none
  | .read next => some (w.run n (next (w.pending n w.state)))
  | .lock k next =>
    if w.holder k = none ∨ w.holder k = some n then
      some { w.run n (next (w.pending n w.state)) with
        holder := Function.update w.holder k (some n) }
    else none
  | .write change next =>
    some { w.run n next with
      pending := Function.update w.pending n fun s => change (w.pending n s) }
  | .commit _ next => some { (w.run n next).release n with state := w.pending n w.state }
  | .rollback next => some ((w.run n next).release n)
  | .effect _ change next => some { w.run n (next w.state) with state := change w.state }

end World

/-- Clients take up requests, one after another each, and run them. -/
def step [DecidableEq κ] (code : ρ → Program σ κ l Unit) (w : World σ κ l) :
    Action ρ → Option (World σ κ l)
  | .begin n request =>
    match w.program n with
    | .pure _ => some ((w.run n (code request)).release n)
    | _ => none
  | .advance n => w.advance n
  | .crash n => some ((w.run n (.pure ())).release n)

/-- No client is at work. -/
def Idle (w : World σ κ l) : Prop := ∀ n, w.program n = .pure ()

def Action.client : Action ρ → ℕ
  | .begin n _ | .advance n | .crash n => n

/-- The request has been answered. -/
def finished : Program σ κ l Unit → Bool
  | .pure _ => true
  | _ => false

section

variable [DecidableEq κ] {code : ρ → Program σ κ l Unit} {w w' : World σ κ l} {n : ℕ}

/-- Only its own steps move a client on. -/
theorem program_of_step {a : Action ρ} (h : step code w a = some w') (hn : n ≠ a.client) :
    w'.program n = w.program n := by
  have hrun (program : Program σ κ l Unit) : (w.run a.client program).program n = w.program n := by
    show Function.update w.program a.client program n = w.program n
    exact Function.update_of_ne hn program w.program
  cases a with
  | crash m =>
    obtain rfl := Option.some.inj h
    exact hrun _
  | begin m request =>
    unfold step at h
    dsimp only at h
    split at h
    · obtain rfl := Option.some.inj h
      exact hrun _
    · cases h
  | advance m =>
    unfold step World.advance at h
    dsimp only at h
    split at h
    · cases h
    · obtain rfl := Option.some.inj h
      exact hrun _
    · split at h
      · obtain rfl := Option.some.inj h
        exact hrun _
      · cases h
    all_goals
      obtain rfl := Option.some.inj h
      exact hrun _

/-- A run of the first clients that ends with all of them answered. -/
theorem idle_of_exec {ok : World σ κ l → Action ρ → Prop} [∀ w a, Decidable (ok w a)]
    {actions : List (Action ρ)} {m : ℕ} (hidle : Idle w)
    (hclients : ∀ a ∈ actions, a.client < m)
    (hfinished : ∀ n < m, finished (w'.program n) = true)
    (h : exec (step code) ok actions w = some w') : Idle w' := by
  have hothers : ∀ n, m ≤ n → w'.program n = w.program n := by
    intro n hn
    clear hidle hfinished
    induction actions generalizing w with
    | nil =>
      obtain rfl := Option.some.inj h
      rfl
    | cons a actions ih =>
      unfold exec at h
      split at h
      · obtain ⟨u, hu, hrest⟩ := Option.bind_eq_some_iff.mp h
        have ha : n ≠ a.client := by
          have := hclients a List.mem_cons_self
          omega
        rw [ih (fun b hb => hclients b (List.mem_cons_of_mem a hb)) hrest, program_of_step hu ha]
      · cases h
  intro n
  by_cases hn : n < m
  · have hend := hfinished n hn
    cases hp : w'.program n with
    | pure a => rfl
    | _ => simp [hp, finished] at hend
  · rw [hothers n (by omega), hidle n]

end

/-- What the next statement commits, if it does, may be committed in `s`. -/
def Permits (ok : l → σ → Prop) (s : σ) : Program σ κ l Unit → Prop
  | .commit label _ => ok label s
  | .effect label _ _ => ok label s
  | _ => True

instance (ok : l → σ → Prop) [∀ label s, Decidable (ok label s)] (s : σ) :
    ∀ program : Program σ κ l Unit, Decidable (Permits ok s program)
  | .commit label _ => inferInstanceAs (Decidable (ok label s))
  | .effect label _ _ => inferInstanceAs (Decidable (ok label s))
  | .pure _ | .read _ | .lock _ _ | .write _ _ | .rollback _ => .isTrue trivial

/-- The request may begin, or the client may commit what it is about to. -/
def Allows (ok : l → σ → Prop) (start : ρ → σ → Prop) (w : World σ κ l) : Action ρ → Prop
  | .begin _ request => start request w.state
  | .advance n => Permits ok w.state (w.program n)
  | .crash _ => True

instance (ok : l → σ → Prop) (start : ρ → σ → Prop) [∀ label s, Decidable (ok label s)]
    [∀ request s, Decidable (start request s)] (w : World σ κ l) :
    ∀ a, Decidable (Allows ok start w a)
  | .begin _ request => inferInstanceAs (Decidable (start request w.state))
  | .advance n => inferInstanceAs (Decidable (Permits ok w.state (w.program n)))
  | .crash _ => .isTrue trivial

/-- Where nothing is asked, every action is allowed. -/
theorem allows_always (w : World σ κ l) (a : Action ρ) :
    Allows (fun _ _ => True) (fun _ _ => True) w a := by
  have hpermits : ∀ program : Program σ κ l Unit, Permits (fun _ _ => True) w.state program := by
    intro program
    cases program <;> exact trivial
  cases a with
  | advance n => exact hpermits (w.program n)
  | _ => exact trivial

end ReadCommitted

end Support
