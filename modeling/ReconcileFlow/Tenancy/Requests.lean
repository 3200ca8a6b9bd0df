import ReconcileFlow.Support.Noninterference
import ReconcileFlow.Tenancy.Isolation

/-!
# Tenancy — Requests

Requests of all organizations on one database, in any order.  An organization's operations answer
the same in databases that it cannot tell apart (`Operation.isolates`), and those of another
organization leave all its rows as they are (`sameRows_of_other`).  So what an organization is
answered, over a whole run, depends on its own requests alone (`requests_isolated`): what others
ask, how often, and what comes of it, is not told.
-/

namespace ReconcileFlow.Tenancy

open Support Support.Transaction
open Persistence hiding SourceFileRecord sourceFileSchema

/-! ### One request -/

/-- An operation that an organization asks for. -/
structure Request where
  organizationId : UUID
  Answer : Type
  new : TenantDatabase → Prop
  transaction : TenantSession Answer
  operation : Operation organizationId new transaction

/-- Each request is a unit of work; an id that it draws is new. -/
def tenantService : Service TenantDatabase Request fun r => Except Persistence.Error r.Answer where
  serve r db := atomically r.transaction db
  Ok r db := r.new db

/-- The request is the organization's. -/
def Request.isOf (A : UUID) (r : Request) : Bool := decide (r.organizationId = A)

section

variable {A B : UUID} {s t : TenantDatabase}

theorem SameRows.symm (h : SameRows A s t) : SameRows A t s :=
  ⟨⟨h.queue.runs.symm, h.queue.jobs.symm, h.queue.jobEvents.symm, h.queue.results.symm⟩,
    h.files.symm, h.resultIds.symm, h.suggestions.symm, h.usageRecords.symm,
    h.inferenceEvents.symm⟩

theorem SameRows.trans {u : TenantDatabase} (h : SameRows A s t) (h' : SameRows A t u) :
    SameRows A s u :=
  ⟨⟨h.queue.runs.trans h'.queue.runs, h.queue.jobs.trans h'.queue.jobs,
      h.queue.jobEvents.trans h'.queue.jobEvents, h.queue.results.trans h'.queue.results⟩,
    h.files.trans h'.files, h.resultIds.trans h'.resultIds, h.suggestions.trans h'.suggestions,
    h.usageRecords.trans h'.usageRecords, h.inferenceEvents.trans h'.inferenceEvents⟩

/-! ### Requests of others -/

/-- The rows of one organization are rows that another does not change. -/
theorem same_of_other {ρ κ : Type} {S : Schema ρ κ} {rows rows' : Table S} {owner : ρ → UUID}
    (hne : B ≠ A) (h : rows.Same (fun r => !decide (owner r = B)) rows') :
    rows.Same (fun r => decide (owner r = A)) rows' := by
  have howner (r : ρ) (hr : decide (owner r = A) = true) : (!decide (owner r = B)) = true := by
    rw [of_decide_eq_true hr]
    simp [hne.symm]
  exact h.filter (fun r _ => howner r) fun r _ => howner r

/-- A change of the rows of another is none of the organization's. -/
theorem sameRows_of_other (hne : B ≠ A) (hs : Owned s) (h : OnlyRowsOf B s t) : SameRows A s t where
  queue := by
    refine ⟨same_of_other hne h.queue.runs, same_of_other hne h.queue.jobs,
      same_of_other hne h.queue.jobEvents, ?_⟩
    rw [h.queue.results]
    refine List.filter_congr fun record hm => ?_
    obtain ⟨owner, howner⟩ := hs.queue.results record hm
    rw [h.queue.isRunOf howner]
  files := by
    show s.files.rows.filter _ = t.files.rows.filter _
    rw [h.files]
    refine List.filter_congr fun file hm => ?_
    obtain ⟨owner, howner⟩ := hs.files file hm
    rw [belongsTo_eq, belongsTo_eq, h.queue.isRunOf howner]
  resultIds := by
    rw [h.resultIds]
    refine List.filter_congr fun row hm => ?_
    obtain ⟨owner, howner⟩ := hs.resultIds row hm
    rw [h.queue.isRunOf howner]
  suggestions := same_of_other hne h.suggestions
  usageRecords := same_of_other hne h.usageRecords
  inferenceEvents := same_of_other hne h.inferenceEvents

/-- A request leaves the organization's rows alone, if it is another's. -/
theorem Request.keeps (r : Request) (hs : Owned s) (hnew : r.new s) :
    Owned (atomically r.transaction s).2 ∧
      OnlyRowsOf r.organizationId s (atomically r.transaction s).2 := by
  have hself : Couples r.transaction r.transaction _ s s :=
    r.operation.isolates s s ⟨hs, hs, .refl s, fun _ => rfl⟩ hnew hnew
  unfold Couples at hself
  unfold atomically
  cases hrun : r.transaction.run s with
  | error e => exact ⟨hs, .refl⟩
  | ok result =>
    rw [hrun] at hself
    exact ⟨hself.2.1.linked.left, hself.2.1.left⟩

/-- **An organization's requests are isolated from those of others, one by one.** -/
theorem unwinding (A : UUID) : tenantService.Unwinding (Request.isOf A) (tenancy A).Linked where
  symm h := ⟨h.right, h.left, h.agree.1.symm, fun userId => (h.agree.2 userId).symm⟩
  own {r s t} hmine hl hs ht := by
    obtain rfl : r.organizationId = A := of_decide_eq_true hmine
    have hcouple := r.operation.isolates s t hl hs ht
    unfold Couples at hcouple
    show (atomically r.transaction s).1 = (atomically r.transaction t).1 ∧
      (tenancy _).Linked (atomically r.transaction s).2 (atomically r.transaction t).2
    unfold atomically
    cases hrun : r.transaction.run s with
    | error e =>
      cases hrun' : r.transaction.run t with
      | error e' =>
        rw [hrun, hrun'] at hcouple
        exact ⟨congrArg Except.error hcouple, hl⟩
      | ok result =>
        rw [hrun, hrun'] at hcouple
        exact hcouple.elim
    | ok result =>
      cases hrun' : r.transaction.run t with
      | error e' =>
        rw [hrun, hrun'] at hcouple
        exact hcouple.elim
      | ok result' =>
        rw [hrun, hrun'] at hcouple
        exact ⟨congrArg Except.ok hcouple.1, hcouple.2.1.linked⟩
  other {r s t} hmine hl hs := by
    have hne : r.organizationId ≠ A := of_decide_eq_false hmine
    obtain ⟨howned, honly⟩ := r.keeps hl.left hs
    refine ⟨howned, hl.right, (sameRows_of_other hne hl.left honly).symm.trans hl.agree.1, ?_⟩
    intro userId
    rw [← hl.agree.2 userId]
    show ((atomically r.transaction s).2.users.find userId).isSome = _
    rw [honly.users]

end

/-! ### Whole runs -/

/-- **What an organization is answered, over a whole run, are the answers to its own requests.**
Two runs of requests of all organizations, from databases with the same rows of the organization and
the same users, in which the organization makes the same requests, give it the same answers, errors
among them, and leave it the same rows. -/
theorem requests_isolated {A : UUID} {s t : TenantDatabase} (hs : Reachable s) (ht : Reachable t)
    (hrows : SameRows A s t) (husers : SameUsers s t) {rs rs' : List Request}
    (hmine : rs.filter (Request.isOf A) = rs'.filter (Request.isOf A))
    (hnew : tenantService.Served rs s) (hnew' : tenantService.Served rs' t) :
    (tenantService.answers rs s).filter (fun a => a.1.isOf A) =
        (tenantService.answers rs' t).filter (fun a => a.1.isOf A) ∧
      SameRows A (tenantService.final rs s) (tenantService.final rs' t) := by
  have hsame := Service.same_of_unwinding (unwinding A) rs rs' s t hmine
    ⟨hs.owned, ht.owned, hrows, husers⟩ hnew hnew'
  exact ⟨hsame.told, hsame.linked.agree.1⟩

/-- A request for a new run. -/
def createRunRequest (organizationId runId : UUID) : Request :=
  ⟨organizationId, _, _, _, .createRun runId 0⟩

def getRunRequest (organizationId runId : UUID) : Request :=
  ⟨organizationId, _, _, _, .getRun runId⟩

theorem requests_isolated_twoRuns :
    let alone := [getRunRequest 1 2]
    let others := [createRunRequest 9 5, getRunRequest 9 2, getRunRequest 1 2, getRunRequest 9 5]
    (tenantService.answers alone (oneRun .empty)).filter (fun a => a.1.isOf 1) =
        (tenantService.answers others (oneRun .empty)).filter (fun a => a.1.isOf 1) ∧
      SameRows 1 (tenantService.final alone (oneRun .empty))
        (tenantService.final others (oneRun .empty)) := by
  intro alone others
  refine requests_isolated (reachable_oneRun .empty) (reachable_oneRun .empty) (.refl _)
    (fun _ => rfl) rfl ?_ ?_
  · exact ⟨trivial, trivial⟩
  · exact ⟨rfl, trivial, trivial, trivial, trivial⟩

end ReconcileFlow.Tenancy
