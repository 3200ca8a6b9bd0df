import ReconcileFlow.Tenancy.Operations

/-!
# Tenancy — Isolation

No organization learns of the rows of another.  In two reachable databases that have the same rows
of an organization, and the same users, each operation that is called with the organization answers
the same, and changes only rows of the organization, those alike (`rows_isolated`).

The users are no organization's: a reviewer need not be a member, only be there, so two databases
with different users tell apart by a decision on a suggestion (`reviewer_told`).
-/

namespace ReconcileFlow.Tenancy

open Support Support.Transaction
open Persistence hiding SourceFileRecord sourceFileSchema

/-- The call answers the same in both databases, and changes only rows of the organization, so that
they are the same again. -/
def Alike (A : UUID) (s t : TenantDatabase) {α : Type} (x : TenantSession α) : Prop :=
  Couples x x (fun a s' b t' =>
    a = b ∧ SameRows A s' t' ∧ OnlyRowsOf A s s' ∧ OnlyRowsOf A t t') s t

theorem Operation.alike {A : UUID} {s t : TenantDatabase} {α : Type} {new : TenantDatabase → Prop}
    {x : TenantSession α} (h : Operation A new x) (hs : Owned s) (ht : Owned t)
    (hrows : SameRows A s t) (husers : SameUsers s t) (hnew : new s) (hnew' : new t) :
    Alike A s t x := by
  refine (h.isolates s t ⟨hs, ht, hrows, husers⟩ hnew hnew').mono ?_
  rintro a s' b t' ⟨ha, hm, -⟩
  exact ⟨ha, hm.linked.agree.1, hm.left, hm.right⟩

/-! ### A reviewer -/

def reviewer : UserRecord where
  id := 4
  email := ""
  passwordHash := ""

def reviewedDraft : SuggestionDraft where
  candidates := ⟨["b1"], ["i1"], [], by decide⟩
  confidenceScore := ⟨false, 10000, -4⟩
  explanation := .object [("a", .null)]
  features := .object [("a", .null)]
  provider := "p"
  modelVersion := "m"
  promptTemplateVersion := "t"
  inferenceConfigVersion := "c"

/-- One run of the organization 1. -/
def oneRun (users : Table userSchema) : TenantDatabase :=
  { emptyDatabase with runs := ⟨[createdRun 1 2 0], by decide⟩, users }

/-- The run has a suggestion. -/
def oneSuggestion (users : Table userSchema) : TenantDatabase :=
  { oneRun users with suggestions := ⟨[reviewedDraft.record 3 1 2 0], by decide +kernel⟩ }

theorem reachable_oneRun (users : Table userSchema) : Reachable (oneRun users) := by
  have hset : Runs (modify fun db => { db with users } : TenantSession PUnit) emptyDatabase ⟨⟩
      { emptyDatabase with users } := rfl
  have husers : Step emptyDatabase { emptyDatabase with users } :=
    .shared (.elsewhere (fun db => { db with users }) fun _ =>
      ⟨rfl, rfl, rfl, rfl, rfl, rfl, rfl, rfl, rfl⟩) hset
  have hrun : Step { emptyDatabase with users } (oneRun users) :=
    .operation (.createRun (A := 1) 2 0) (a := createdRun 1 2 0) rfl
  exact (Relation.ReflTransGen.single husers).tail hrun

theorem reachable_oneSuggestion (users : Table userSchema) : Reachable (oneSuggestion users) :=
  (reachable_oneRun users).tail
    (.operation (.createSuggestion (A := 1) 3 2 reviewedDraft 0)
      (a := reviewedDraft.record 3 1 2 0) rfl)

/-- **Each row has the organization of its run, and an organization's operations tell nothing of the
rows of others.** -/
theorem rows_isolated (A : UUID) :
    (∀ db, Reachable db → Owned db) ∧
    ∀ s t, Reachable s → Reachable t → SameRows A s t → SameUsers s t →
      ∀ {α : Type} {new : TenantDatabase → Prop} {x : TenantSession α},
        Operation A new x → new s → new t → Alike A s t x := by
  refine ⟨fun _ hdb => hdb.owned, fun s t hs ht hrows husers => ?_⟩
  intro α new x hx hnew hnew'
  exact hx.alike hs.owned ht.owned hrows husers hnew hnew'

/-- Another organization has a run as well. -/
def twoRuns : TenantDatabase :=
  { emptyDatabase with runs := ⟨[createdRun 1 2 0, createdRun 9 5 0], by decide⟩ }

theorem rows_isolated_twoRuns :
    Alike 1 (oneRun .empty) twoRuns (onDatabase
      (BackgroundJobRepository.create 3 1 2 0 3 900 .normal 0)) := by
  have hreach : Reachable twoRuns := (reachable_oneRun .empty).tail
    (.operation (.createRun (A := 9) 5 0) (a := createdRun 9 5 0) rfl)
  exact (rows_isolated 1).2 _ _ (reachable_oneRun .empty) hreach
    ⟨⟨rfl, rfl, rfl, rfl⟩, rfl, rfl, rfl, rfl, rfl⟩ (fun _ => rfl) (.createJob 3 2 0 3 900 .normal 0)
    rfl rfl

/-- Whether the reviewer is there is told. -/
theorem reviewer_told :
    ¬ ∀ A : UUID, (∀ db, Reachable db → Owned db) ∧
      ∀ s t, Reachable s → Reachable t → SameRows A s t →
        ∀ {α : Type} {new : TenantDatabase → Prop} {x : TenantSession α},
          Operation A new x → new s → new t → Alike A s t x := by
  intro h
  have halike := (h 1).2 _ _ (reachable_oneSuggestion .empty)
    (reachable_oneSuggestion ⟨[reviewer], by decide⟩)
    ⟨⟨rfl, rfl, rfl, rfl⟩, rfl, rfl, rfl, rfl, rfl⟩ (.resolve 3 4 .accepted 0) trivial trivial
  exact halike

end ReconcileFlow.Tenancy
