import ReconcileFlow.Tenancy.Database

/-!
# Tenancy — Views

What is one organization's of a database.  Every row has a run, and belongs to the organization of
its run (`Owned`); two databases may agree on the rows of an organization (`SameRows`), and one may
come from another by changes of its rows only (`OnlyRowsOf`).  Runs do not change hands.
-/

namespace ReconcileFlow.Tenancy

open Support Support.Transaction
open Persistence hiding SourceFileRecord sourceFileSchema

/-- The organization of a run. -/
def organizationOf (db : Database) (runId : UUID) : Option UUID :=
  (db.runs.find runId).map (·.organizationId)

/-- The run is one of the organization's. -/
def isRunOf (organizationId : UUID) (db : Database) (runId : UUID) : Bool :=
  decide (organizationOf db runId = some organizationId)

/-! ### The queue's tables -/

/-- Each job, and each job event, has the organization of its run; a result has a run. -/
structure OwnedQueue (db : Database) : Prop where
  jobs : ∀ job ∈ db.jobs.rows, organizationOf db job.runId = some job.organizationId
  events : ∀ event ∈ db.jobEvents.rows, ∃ job, db.jobs.find event.jobId = some job ∧
    job.organizationId = event.organizationId ∧
    organizationOf db job.runId = some event.organizationId
  results : ∀ record ∈ db.results.rows, ∃ owner, organizationOf db record.runId = some owner

structure SameQueue (organizationId : UUID) (s t : Database) : Prop where
  runs : s.runs.Same (fun run => decide (run.organizationId = organizationId)) t.runs
  jobs : s.jobs.Same (fun job => decide (job.organizationId = organizationId)) t.jobs
  jobEvents : s.jobEvents.Same (fun event => decide (event.organizationId = organizationId))
    t.jobEvents
  results : s.results.rows.filter (fun record => isRunOf organizationId s record.runId) =
    t.results.rows.filter (fun record => isRunOf organizationId t record.runId)

structure OnlyQueueOf (organizationId : UUID) (s t : Database) : Prop where
  runs : s.runs.Same (fun run => !decide (run.organizationId = organizationId)) t.runs
  owners : ∀ {runId owner}, organizationOf s runId = some owner →
    organizationOf t runId = some owner
  jobs : s.jobs.Same (fun job => !decide (job.organizationId = organizationId)) t.jobs
  jobEvents : s.jobEvents.Same (fun event => !decide (event.organizationId = organizationId))
    t.jobEvents
  results : t.results = s.results
  sourceFiles : t.sourceFiles = s.sourceFiles
  configurations : t.configurations = s.configurations
  auditEvents : t.auditEvents = s.auditEvents

namespace OnlyQueueOf

variable {organizationId : UUID} {s t u : Database}

theorem refl : OnlyQueueOf organizationId s s :=
  ⟨.refl, fun howner => howner, .refl, .refl, rfl, rfl, rfl, rfl⟩

theorem trans (h : OnlyQueueOf organizationId s t) (h' : OnlyQueueOf organizationId t u) :
    OnlyQueueOf organizationId s u where
  runs := h.runs.trans h'.runs
  owners howner := h'.owners (h.owners howner)
  jobs := h.jobs.trans h'.jobs
  jobEvents := h.jobEvents.trans h'.jobEvents
  results := h'.results.trans h.results
  sourceFiles := h'.sourceFiles.trans h.sourceFiles
  configurations := h'.configurations.trans h.configurations
  auditEvents := h'.auditEvents.trans h.auditEvents

end OnlyQueueOf

/-- What the queue is to an organization. -/
def queueTenancy (organizationId : UUID) : Tenancy Database where
  Inv := OwnedQueue
  Agree := SameQueue organizationId
  Confined := OnlyQueueOf organizationId
  refl _ := .refl
  trans := .trans

/-! ### All tables -/

/-- **Each row has the organization of its run.** -/
structure Owned (db : TenantDatabase) : Prop where
  queue : OwnedQueue db.toDatabase
  files : ∀ file ∈ db.files.rows, ∃ owner, organizationOf db.toDatabase file.runId = some owner
  resultIds : ∀ row ∈ db.resultIds.rows, ∃ owner,
    organizationOf db.toDatabase row.runId = some owner
  suggestions : ∀ suggestion ∈ db.suggestions.rows,
    organizationOf db.toDatabase suggestion.runId = some suggestion.organizationId
  usageRecords : ∀ usage ∈ db.usageRecords.rows,
    organizationOf db.toDatabase usage.runId = some usage.organizationId
  inferenceEvents : ∀ event ∈ db.inferenceEvents.rows,
    organizationOf db.toDatabase event.runId = some event.organizationId

/-- The two databases have the same rows of the organization, those of files and results by their
runs. -/
structure SameRows (organizationId : UUID) (s t : TenantDatabase) : Prop where
  queue : SameQueue organizationId s.toDatabase t.toDatabase
  files : s.fileStore.filesOf organizationId = t.fileStore.filesOf organizationId
  resultIds : s.resultIds.rows.filter (fun row => isRunOf organizationId s.toDatabase row.runId) =
    t.resultIds.rows.filter (fun row => isRunOf organizationId t.toDatabase row.runId)
  suggestions : s.suggestions.Same
    (fun suggestion => decide (suggestion.organizationId = organizationId)) t.suggestions
  usageRecords : s.usageRecords.Same (fun usage => decide (usage.organizationId = organizationId))
    t.usageRecords
  inferenceEvents : s.inferenceEvents.Same
    (fun event => decide (event.organizationId = organizationId)) t.inferenceEvents

/-- The same users exist. -/
def SameUsers (s t : TenantDatabase) : Prop :=
  ∀ userId, (s.users.find userId).isSome = (t.users.find userId).isSome

/-- Only rows of the organization have changed. -/
structure OnlyRowsOf (organizationId : UUID) (s t : TenantDatabase) : Prop where
  queue : OnlyQueueOf organizationId s.toDatabase t.toDatabase
  files : t.files = s.files
  resultIds : t.resultIds = s.resultIds
  users : t.users = s.users
  organizations : t.organizations = s.organizations
  suggestions : s.suggestions.Same
    (fun suggestion => !decide (suggestion.organizationId = organizationId)) t.suggestions
  usageRecords : s.usageRecords.Same (fun usage => !decide (usage.organizationId = organizationId))
    t.usageRecords
  inferenceEvents : s.inferenceEvents.Same
    (fun event => !decide (event.organizationId = organizationId)) t.inferenceEvents

namespace OnlyRowsOf

variable {organizationId : UUID} {s t u : TenantDatabase}

theorem refl : OnlyRowsOf organizationId s s :=
  ⟨.refl, rfl, rfl, rfl, rfl, .refl, .refl, .refl⟩

theorem trans (h : OnlyRowsOf organizationId s t) (h' : OnlyRowsOf organizationId t u) :
    OnlyRowsOf organizationId s u where
  queue := h.queue.trans h'.queue
  files := h'.files.trans h.files
  resultIds := h'.resultIds.trans h.resultIds
  users := h'.users.trans h.users
  organizations := h'.organizations.trans h.organizations
  suggestions := h.suggestions.trans h'.suggestions
  usageRecords := h.usageRecords.trans h'.usageRecords
  inferenceEvents := h.inferenceEvents.trans h'.inferenceEvents

end OnlyRowsOf

/-- What the database is to an organization. -/
def tenancy (organizationId : UUID) : Tenancy TenantDatabase where
  Inv := Owned
  Agree s t := SameRows organizationId s t ∧ SameUsers s t
  Confined := OnlyRowsOf organizationId
  refl _ := .refl
  trans := .trans

/-! ### Runs of an organization -/

section

variable {organizationId runId : UUID} {s t : Database} {run : ReconciliationRunRecord}

theorem organizationOf_eq_some : organizationOf s runId = some organizationId ↔
    ∃ run, s.runs.find runId = some run ∧ run.organizationId = organizationId := by
  unfold organizationOf
  rw [Option.map_eq_some_iff]

/-- The run of the organization that is found. -/
theorem SameQueue.findRun (h : SameQueue organizationId s t) (runId : UUID) :
    ((s.runs.find runId).filter fun run => decide (run.organizationId = organizationId)) =
      (t.runs.find runId).filter fun run => decide (run.organizationId = organizationId) :=
  h.runs.find runId

theorem isRunOf_eq (db : Database) (runId : UUID) : isRunOf organizationId db runId =
    ((db.runs.find runId).filter fun run =>
      decide (run.organizationId = organizationId)).isSome := by
  unfold isRunOf organizationOf
  cases db.runs.find runId with
  | none => rfl
  | some run => by_cases horg : run.organizationId = organizationId <;> simp [horg]

theorem SameQueue.sameRunsOf (h : SameQueue organizationId s t) :
    isRunOf organizationId s = isRunOf organizationId t := by
  funext runId
  rw [isRunOf_eq, isRunOf_eq, h.findRun]

/-- The results of the organization, by one condition. -/
theorem SameQueue.sameResults (h : SameQueue organizationId s t) :
    s.results.Same (fun record => isRunOf organizationId s record.runId) t.results := by
  have hresults := h.results
  rw [← h.sameRunsOf] at hresults
  exact hresults

end

end ReconcileFlow.Tenancy
