import ReconcileFlow.Audit.Trail
import ReconcileFlow.Exporting.Writing
import ReconcileFlow.Reconciliation.Engine
import ReconcileFlow.Support.Exceptions

/-!
# Workflow

One run of `run_reconciliation_workflow`: the inputs are loaded and reconciled, the results are
exported, and the audit trail says how it ended.  What the loaders return or raise is an argument.

Whatever fails, the trail ends with the one event that says so.  The destination is as before a run
that raises, unless the writing breaks off after the file was opened (`consistent_iff`).
-/

namespace ReconcileFlow

open Support Exporting
open Audit (AuditEvent AuditTrail)
open Reconciliation (ReconciliationEngine ReconciliationResult Inputs)

/-- The arguments, with what the loaders make of the paths and configurations among them. -/
structure WorkflowRequest where
  outputPath : String
  banks : Except String (List BankTransaction)
  invoices : Except String (List ERPInvoice)
  gateways : Option (Except String (List GatewaySettlementEntry)) := none
  engine : ReconciliationEngine
  overwrite : Bool := false

/-- The summary, without the audit record. -/
structure ReconciliationRunSummary where
  bankTransactionsLoaded : Nat
  erpInvoicesLoaded : Nat
  gatewayEntriesLoaded : Nat
  reconciliationResults : Nat
  resultCountsByStatus : List (ReconciliationStatus × Nat)
  resultsRequiringReview : Nat
  outputFormat : String
  outputPath : String
deriving DecidableEq, Repr

/-- The destination and the trail. -/
structure WorkflowState where
  destination : Option Node
  trail : AuditTrail := {}
deriving DecidableEq, Repr

abbrev WorkflowAction := EStateM String WorkflowState

namespace WorkflowAction

def log (change : AuditTrail → AuditTrail) : WorkflowAction Unit :=
  modify fun state => { state with trail := change state.trail }

def onDestination {α : Type} (action : ExportAction α) : WorkflowAction α := fun state =>
  match action.run state.destination with
  | .ok a destination => .ok a { state with destination }
  | .error e destination => .error e { state with destination }

end WorkflowAction

open WorkflowAction

namespace WorkflowRequest

variable (request : WorkflowRequest) (workbook : Workbook) (disk : Disk)

def suffix : String := foldedSuffix request.engine.runtime.casefold request.outputPath

def outputFormat : String :=
  if request.suffix = ".csv" then "CSV" else if request.suffix = ".xlsx" then "XLSX"
  else "UNSUPPORTED"

/-- The three stages of ingestion. -/
def load : WorkflowAction Inputs := do
  log (·.beginStage "bank_ingestion")
  let banks ← answer request.banks
  log (·.emit (.bankIngestionCompleted banks.length))
  log (·.beginStage "erp_ingestion")
  let erp ← answer request.invoices
  log (·.emit (.erpIngestionCompleted erp.length))
  log (·.beginStage "gateway_ingestion")
  match request.gateways with
  | some loaded => do
    let gateways ← answer loaded
    log (·.emit (.gatewayIngestionCompleted gateways.length))
    return { banks, erp, gateways }
  | none => do
    log (·.emit .gatewayIngestionSkipped)
    return { banks, erp, gateways := [] }

/-- The stage of reconciliation. -/
def reconcile (inputs : Inputs) : WorkflowAction (List ReconciliationResult) := do
  log (·.beginStage "reconciliation")
  let results ← answer ((request.engine.reconcile inputs.banks inputs.erp inputs.gateways).mapError
    fun _ => "ValueError")
  log (·.reconciliationCompleted results)
  return results

/-- The stage of export. -/
def exportResults (results : List ReconciliationResult) : WorkflowAction Unit := do
  log (·.beginStage "export")
  if request.suffix = ".csv" then
    onDestination (exportResultsCsv disk results request.suffix request.overwrite)
  else
    onDestination (exportResultsXlsx workbook disk results request.suffix request.overwrite)
  log (·.emit (.exportCompleted request.outputFormat
    (String.ofList (pathName request.outputPath.toList))))

/-- The stages before the export. -/
def loadAndReconcile : WorkflowAction (Inputs × List ReconciliationResult) := do
  answer (must (request.suffix ∈ [".csv", ".xlsx"]) "ValueError")
  let inputs ← request.load
  let results ← request.reconcile inputs
  return (inputs, results)

/-- What is tried. -/
def tryRun : WorkflowAction ReconciliationRunSummary := do
  let (inputs, results) ← request.loadAndReconcile
  request.exportResults workbook disk results
  log (·.succeed)
  return {
    bankTransactionsLoaded := inputs.banks.length
    erpInvoicesLoaded := inputs.erp.length
    gatewayEntriesLoaded := inputs.gateways.length
    reconciliationResults := results.length
    resultCountsByStatus := AuditTrail.statusCounts results
    resultsRequiringReview := results.countP (·.requiresReview)
    outputFormat := request.outputFormat
    outputPath := request.outputPath }

end WorkflowRequest

def runReconciliationWorkflow (request : WorkflowRequest) (workbook : Workbook) (disk : Disk) :
    WorkflowAction ReconciliationRunSummary := do
  log (·.start)
  tryCatch (request.tryRun workbook disk) fun error => do
    log (·.fail error)
    throw error

/-! ### How a run ends -/

/-- The event says how a run ended. -/
def isEnd : AuditEvent → Bool
  | .runSucceeded | .runFailed .. => true
  | _ => false

/-- The trail ends with the event, the only one that says how the run ended. -/
def EndsWith (trail : AuditTrail) (event : AuditEvent) : Prop :=
  ∃ events, trail.events = events ++ [event] ∧ isEnd event = true ∧
    ∀ earlier ∈ events, isEnd earlier = false

namespace WorkflowRequest

variable (request : WorkflowRequest) (workbook : Workbook) (disk : Disk)

/-- The inputs and the results of the engine, or what is raised before there are any. -/
def results : Except String (Inputs × List ReconciliationResult) := do
  must (request.suffix ∈ [".csv", ".xlsx"]) "ValueError"
  let banks ← request.banks
  let erp ← request.invoices
  let gateways ← request.gateways.getD (.ok [])
  let results ← (request.engine.reconcile banks erp gateways).mapError fun _ => "ValueError"
  return ({ banks, erp, gateways }, results)

/-- The report of the results, which an XLSX file may be unable to hold. -/
def document (results : List ReconciliationResult) : Except String (List UInt8) :=
  if request.suffix = ".csv" then .ok (csvDocument (resultsToDicts results))
  else workbook (resultsToDicts results)

/-- The file system lets the destination be written. -/
def prepared (destination : Option Node) : Except String Unit := do
  disk.lookup
  must (destination ≠ some .directory) "ResultExportError"
  must (destination.isSome = true → request.overwrite = true) "FileExistsError"
  disk.mkdir.mapError Raised.typeName

/-- The report for which the destination is opened, or what is raised before. -/
def report (destination : Option Node) : Except String (List UInt8) := do
  let (_, results) ← request.results
  request.prepared disk destination
  request.document workbook results

/-- What is returned or raised, and what is left: the report and a trail of success, or the
destination as before and a trail of failure. -/
def Consistent (before : Option Node) :
    EStateM.Result String WorkflowState ReconciliationRunSummary → Prop
  | .ok _ after => ∃ inputs results document, request.results = .ok (inputs, results) ∧
      request.document workbook results = .ok document ∧
      after.destination = some (.file document) ∧ EndsWith after.trail .runSucceeded
  | .error _ after => after.destination = before ∧
      ∃ failureType failureStage failureMessage,
        EndsWith after.trail (.runFailed failureType failureStage failureMessage)

end WorkflowRequest

/-! ### Before the destination is opened -/

/-- Nothing has been logged about the end of the run. -/
def Open (state : WorkflowState) : Prop := ∀ event ∈ state.trail.events, isEnd event = false

section

variable {request : WorkflowRequest} {workbook : Workbook} {disk : Disk} {state : WorkflowState}

/-- `x` returns or raises as told, and changes nothing but the trail, which stays open. -/
structure Yields {α : Type} (x : WorkflowAction α) (result : Except String α) : Prop where
  ok : ∀ a state, Open state → result = .ok a →
    ∃ trail, x.run state = .ok a { state with trail } ∧ Open { state with trail }
  error : ∀ e state, Open state → result = .error e →
    ∃ trail, x.run state = .error e { state with trail } ∧ Open { state with trail }

variable {α β : Type} {x : WorkflowAction α} {result : Except String α}

theorem Yields.bind {f : α → WorkflowAction β} {g : α → Except String β} (hx : Yields x result)
    (hf : ∀ a, Yields (f a) (g a)) : Yields (x >>= f) (result >>= g) := by
  constructor
  · intro b state hopen h
    obtain ⟨a, ha, hb⟩ := bind_eq_ok_iff.mp h
    obtain ⟨trail, hrun, hstill⟩ := hx.ok a state hopen ha
    obtain ⟨trail', hrun', hstill'⟩ := (hf a).ok b _ hstill hb
    exact ⟨trail', (run_bind_ok hrun f).trans hrun', hstill'⟩
  · intro e state hopen h
    rcases bind_eq_error_iff.mp h with he | ⟨a, ha, hb⟩
    · obtain ⟨trail, hrun, hstill⟩ := hx.error e state hopen he
      exact ⟨trail, run_bind_error hrun f, hstill⟩
    · obtain ⟨trail, hrun, hstill⟩ := hx.ok a state hopen ha
      obtain ⟨trail', hrun', hstill'⟩ := (hf a).error e _ hstill hb
      exact ⟨trail', (run_bind_ok hrun f).trans hrun', hstill'⟩

theorem yields_answer (result : Except String α) : Yields (answer result) result := by
  constructor
  · rintro a state hopen rfl
    exact ⟨state.trail, rfl, hopen⟩
  · rintro e state hopen rfl
    exact ⟨state.trail, rfl, hopen⟩

theorem yields_pure (a : α) : Yields (pure a : WorkflowAction α) (pure a) := by
  constructor
  · intro b state hopen h
    cases h
    exact ⟨state.trail, rfl, hopen⟩
  · exact nofun

/-- A change of the trail that logs no end goes unnoticed. -/
theorem Yields.after_log {change : AuditTrail → AuditTrail}
    (hchange : ∀ state : WorkflowState,
      Open state → Open { state with trail := change state.trail })
    (hx : Yields x result) : Yields (log change >>= fun _ => x) result := by
  constructor
  · intro a state hopen h
    obtain ⟨trail, hrun, hstill⟩ := hx.ok a _ (hchange state hopen) h
    exact ⟨trail, hrun, hstill⟩
  · intro e state hopen h
    obtain ⟨trail, hrun, hstill⟩ := hx.error e _ (hchange state hopen) h
    exact ⟨trail, hrun, hstill⟩

theorem open_beginStage (stage : String) (state : WorkflowState) (h : Open state) :
    Open { state with trail := state.trail.beginStage stage } := h

theorem open_emit {event : AuditEvent} (hevent : isEnd event = false) (state : WorkflowState)
    (h : Open state) : Open { state with trail := state.trail.emit event } := by
  intro other hother
  rcases List.mem_append.mp hother with hother | hother
  · exact h other hother
  · rw [List.mem_singleton.mp hother]
    exact hevent

variable (request) in
/-- What the three stages of ingestion return. -/
theorem yields_load : Yields request.load (do
    let banks ← request.banks
    let erp ← request.invoices
    let gateways ← request.gateways.getD (.ok [])
    return { banks, erp, gateways }) := by
  refine .after_log (open_beginStage _) (.bind (yields_answer _) fun banks => ?_)
  refine .after_log (open_emit rfl) (.after_log (open_beginStage _) ?_)
  refine .bind (yields_answer _) fun erp => ?_
  refine .after_log (open_emit rfl) (.after_log (open_beginStage _) ?_)
  cases request.gateways with
  | some loaded =>
    refine .bind (yields_answer _) fun gateways => ?_
    exact .after_log (open_emit rfl) (yields_pure _)
  | none => exact .after_log (open_emit rfl) (yields_pure _)

variable (request) in
theorem yields_reconcile (inputs : Inputs) : Yields (request.reconcile inputs)
    ((request.engine.reconcile inputs.banks inputs.erp inputs.gateways).mapError
      fun _ => "ValueError") := by
  rw [← bind_pure (Except.mapError _ _)]
  refine .after_log (open_beginStage _) (.bind (yields_answer _) fun results => ?_)
  exact .after_log (open_emit rfl) (yields_pure results)

variable (request) in
theorem yields_loadAndReconcile : Yields request.loadAndReconcile request.results := by
  have h := (yields_answer (must (request.suffix ∈ [".csv", ".xlsx"]) "ValueError")).bind fun _ =>
    (yields_load request).bind fun inputs =>
      (yields_reconcile request inputs).bind fun results => yields_pure (inputs, results)
  simp only [bind_assoc, pure_bind] at h
  exact h

/-! ### The export -/

theorem run_prepareOutput (disk : Disk) {suffix expected : String} (h : suffix = expected)
    (destination : Option Node) :
    (prepareOutput disk suffix expected request.overwrite).run destination =
      (answer (request.prepared disk destination)).run destination := by
  unfold prepareOutput WorkflowRequest.prepared
  rw [if_neg (not_not_intro h)]
  cases disk.lookup with
  | error e => rfl
  | ok u =>
    match destination with
    | some .directory => rfl
    | none => cases disk.mkdir <;> rfl
    | some (.file contents) =>
      cases hover : request.overwrite with
      | false => rfl
      | true => cases disk.mkdir <;> rfl

variable (request) (workbook : Workbook) (disk : Disk)

/-- The report for which the destination is opened, or what is raised before, once there are
results. -/
def WorkflowRequest.reportOf (results : List ReconciliationResult) (destination : Option Node) :
    Except String (List UInt8) :=
  request.prepared disk destination >>= fun _ => request.document workbook results

/-- Both exports write what is to be reported, once the destination is prepared. -/
theorem run_exportCsv (h : request.suffix = ".csv") (results : List ReconciliationResult)
    (destination : Option Node) :
    (exportResultsCsv disk results request.suffix request.overwrite).run destination =
      (answer (request.reportOf workbook disk results destination) >>=
        writeDocument disk.writing).run destination := by
  unfold exportResultsCsv WorkflowRequest.reportOf WorkflowRequest.document
  rw [if_pos h, EStateM.run_bind, run_prepareOutput disk h]
  cases request.prepared disk destination <;> rfl

theorem run_exportXlsx (h : request.suffix = ".xlsx") (results : List ReconciliationResult)
    (destination : Option Node) :
    (exportResultsXlsx workbook disk results request.suffix request.overwrite).run destination =
      (answer (request.reportOf workbook disk results destination) >>=
        writeDocument disk.writing).run destination := by
  unfold exportResultsXlsx WorkflowRequest.reportOf WorkflowRequest.document
  rw [if_neg (h ▸ (by decide : ".xlsx" ≠ ".csv")), EStateM.run_bind, run_prepareOutput disk h]
  cases request.prepared disk destination with
  | error e => rfl
  | ok u => cases workbook (resultsToDicts results) <;> rfl

theorem run_onDestination_ok (state : WorkflowState) {action : ExportAction α} {a : α}
    {destination : Option Node} (h : action.run state.destination = .ok a destination) :
    (onDestination action).run state = .ok a { state with destination } := by
  change (match action.run state.destination with | .ok a d => _ | .error e d => _) = _
  rw [h]

theorem run_onDestination_error (state : WorkflowState) {action : ExportAction α} {e : String}
    {destination : Option Node} (h : action.run state.destination = .error e destination) :
    (onDestination action).run state = .error e { state with destination } := by
  change (match action.run state.destination with | .ok a d => _ | .error e d => _) = _
  rw [h]

theorem run_log (change : AuditTrail → AuditTrail) (x : WorkflowAction α) :
    (log change >>= fun _ => x).run state = x.run { state with trail := change state.trail } := rfl

/-- The action of the format, whose effect is the same for both. -/
theorem exists_export (h : request.suffix ∈ [".csv", ".xlsx"])
    (results : List ReconciliationResult) :
    ∃ action : ExportAction Unit,
      request.exportResults workbook disk results = (do
        log (·.beginStage "export")
        onDestination action
        log (·.emit (.exportCompleted request.outputFormat
          (String.ofList (pathName request.outputPath.toList))))) ∧
      ∀ destination, action.run destination =
        (answer (request.reportOf workbook disk results destination) >>=
          writeDocument disk.writing).run destination := by
  unfold WorkflowRequest.exportResults
  rcases List.mem_cons.mp h with hcsv | hxlsx
  · refine ⟨_, ?_, run_exportCsv request workbook disk hcsv results⟩
    rw [if_pos hcsv]
  · have hxlsx : request.suffix = ".xlsx" := List.mem_singleton.mp hxlsx
    refine ⟨_, ?_, run_exportXlsx request workbook disk hxlsx results⟩
    rw [if_neg (hxlsx ▸ (by decide : ".xlsx" ≠ ".csv"))]

/-! ### What is tried -/

variable {request workbook disk}

theorem suffix_mem {x : Inputs × List ReconciliationResult} (h : request.results = .ok x) :
    request.suffix ∈ [".csv", ".xlsx"] := by
  obtain ⟨u, hmust, -⟩ := bind_eq_ok_iff.mp h
  exact must_eq_ok_iff.mp hmust

theorem tryRun_unloaded {e : String} (hopen : Open state) (h : request.results = .error e) :
    ∃ trail, (request.tryRun workbook disk).run state = .error e { state with trail } ∧
      Open { state with trail } := by
  obtain ⟨trail, hrun, hstill⟩ := (yields_loadAndReconcile request).error e state hopen h
  exact ⟨trail, run_bind_error hrun _, hstill⟩

theorem tryRun_raised (e : String) (destination : Option Node)
    {x : Inputs × List ReconciliationResult} (hopen : Open state) (h : request.results = .ok x)
    (hwriting : (answer (request.reportOf workbook disk x.2 state.destination) >>=
      writeDocument disk.writing).run state.destination = .error e destination) :
    ∃ trail, (request.tryRun workbook disk).run state = .error e { destination, trail } ∧
      Open { destination, trail } := by
  obtain ⟨trail, hload, hstill⟩ := (yields_loadAndReconcile request).ok x state hopen h
  obtain ⟨action, hexport, haction⟩ := exists_export request workbook disk (suffix_mem h) x.2
  refine ⟨trail.beginStage "export", ?_, hstill⟩
  refine (run_bind_ok hload _).trans (run_bind_error ?_ _)
  rw [hexport, run_log]
  exact run_bind_error (run_onDestination_error ⟨state.destination, trail.beginStage "export"⟩
    ((haction state.destination).trans hwriting)) _

theorem tryRun_exported (destination : Option Node) {x : Inputs × List ReconciliationResult}
    (hopen : Open state) (h : request.results = .ok x)
    (hwriting : (answer (request.reportOf workbook disk x.2 state.destination) >>=
      writeDocument disk.writing).run state.destination = .ok () destination) :
    ∃ summary trail, (request.tryRun workbook disk).run state =
        .ok summary { destination, trail := trail.succeed } ∧
      Open { destination, trail } := by
  obtain ⟨trail, hload, hstill⟩ := (yields_loadAndReconcile request).ok x state hopen h
  obtain ⟨action, hexport, haction⟩ := exists_export request workbook disk (suffix_mem h) x.2
  have hran := (haction state.destination).trans hwriting
  have hexported : (request.exportResults workbook disk x.2).run { state with trail } =
      .ok () ⟨destination, (trail.beginStage "export").emit (.exportCompleted request.outputFormat
        (String.ofList (pathName request.outputPath.toList)))⟩ := by
    rw [hexport, run_log]
    exact run_bind_ok (run_onDestination_ok ⟨state.destination, trail.beginStage "export"⟩ hran) _
  refine ⟨_, _, (run_bind_ok hload _).trans (run_bind_ok hexported _), ?_⟩
  exact open_emit rfl ⟨destination, trail.beginStage "export"⟩ hstill

/-! ### The end of the run -/

theorem Open.endsWith {destination : Option Node} {trail : AuditTrail} {event : AuditEvent}
    (hopen : Open { destination, trail }) (hevent : isEnd event = true) :
    EndsWith (trail.emit event) event :=
  ⟨trail.events, rfl, hevent, hopen⟩

variable {before destination : Option Node} {trail : AuditTrail}

theorem consistent_raised {e : String} (hopen : Open { destination, trail })
    (h : (request.tryRun workbook disk).run ⟨before, ({} : AuditTrail).start⟩ =
      .error e { destination, trail }) :
    request.Consistent workbook before
        ((runReconciliationWorkflow request workbook disk).run ⟨before, {}⟩) ↔
      destination = before := by
  have hrun : (runReconciliationWorkflow request workbook disk).run ⟨before, {}⟩ =
      .error e { destination, trail := trail.fail e } :=
    run_tryCatch_error h _
  rw [hrun]
  exact ⟨And.left, fun heq => ⟨heq, e, trail.stage, _, hopen.endsWith rfl⟩⟩

theorem consistent_returned {x : Inputs × List ReconciliationResult} {document : List UInt8}
    {summary : ReconciliationRunSummary} (hresults : request.results = .ok x)
    (hdocument : request.document workbook x.2 = .ok document)
    (hopen : Open { destination := some (.file document), trail })
    (h : (request.tryRun workbook disk).run ⟨before, ({} : AuditTrail).start⟩ =
      .ok summary { destination := some (.file document), trail := trail.succeed }) :
    request.Consistent workbook before
      ((runReconciliationWorkflow request workbook disk).run ⟨before, {}⟩) := by
  have hrun : (runReconciliationWorkflow request workbook disk).run ⟨before, {}⟩ =
      .ok summary { destination := some (.file document), trail := trail.succeed } :=
    run_tryCatch_ok h _
  rw [hrun]
  exact ⟨x.1, x.2, document, hresults, hdocument, rfl, hopen.endsWith rfl⟩

theorem open_start : Open ⟨before, ({} : AuditTrail).start⟩ := open_emit rfl ⟨before, {}⟩ nofun

variable (request workbook disk before) in
/-- The run is consistent unless the writing breaks off once the destination is opened. -/
theorem consistent_iff :
    request.Consistent workbook before
        ((runReconciliationWorkflow request workbook disk).run ⟨before, {}⟩) ↔
      ∀ document, request.report workbook disk before = .ok document →
        ∀ contents raised, disk.writing = .broken contents raised →
          before = some (.file contents) := by
  unfold WorkflowRequest.report
  cases hresults : request.results with
  | error e =>
    obtain ⟨trail, htry, hopen⟩ := tryRun_unloaded open_start hresults
    exact iff_of_true ((consistent_raised hopen htry).mpr rfl) nofun
  | ok x =>
    change _ ↔ ∀ document, request.reportOf workbook disk x.2 before = .ok document → _
    cases hreport : request.reportOf workbook disk x.2 before with
    | error e =>
      obtain ⟨trail, htry, hopen⟩ := tryRun_raised e before open_start hresults
        (by rw [hreport]; rfl)
      exact iff_of_true ((consistent_raised hopen htry).mpr rfl) nofun
    | ok document =>
      obtain ⟨u, -, hdocument⟩ := bind_eq_ok_iff.mp hreport
      -- the destination is as the writing leaves it
      cases hwriting : disk.writing with
      | refused raised =>
        obtain ⟨trail, htry, hopen⟩ := tryRun_raised raised.typeName before open_start hresults
          (by rw [hreport, hwriting]; rfl)
        exact iff_of_true ((consistent_raised hopen htry).mpr rfl) nofun
      | broken contents raised =>
        obtain ⟨trail, htry, hopen⟩ := tryRun_raised raised.typeName (some (.file contents))
          open_start hresults (by rw [hreport, hwriting]; rfl)
        rw [consistent_raised hopen htry, eq_comm]
        simp
      | complete =>
        obtain ⟨summary, trail, htry, hopen⟩ := tryRun_exported (some (.file document)) open_start
          hresults (by rw [hreport, hwriting]; rfl)
        exact iff_of_true (consistent_returned hresults hdocument hopen htry) nofun

end

/-- A run on empty inputs that may replace an earlier report. -/
def replacing : WorkflowRequest where
  outputPath := "report.csv"
  banks := .ok []
  invoices := .ok []
  engine := ⟨.ascii, .standard⟩
  overwrite := true

/-- The disk is full: the earlier report is emptied, and nothing is written. -/
theorem report_emptied :
    ¬ replacing.Consistent (fun _ => .ok []) (some (.file [111, 108, 100]))
      ((runReconciliationWorkflow replacing (fun _ => .ok []) { writing := .broken [] .os }).run
        ⟨some (.file [111, 108, 100]), {}⟩) := by
  have hleft : (match (runReconciliationWorkflow replacing (fun _ => .ok [])
      { writing := .broken [] .os }).run ⟨some (.file [111, 108, 100]), {}⟩ with
    | .ok .. => none
    | .error _ after => some after.destination) = some (some (.file [])) := by
    decide +kernel
  generalize (runReconciliationWorkflow replacing (fun _ => .ok [])
    { writing := .broken [] .os }).run ⟨some (.file [111, 108, 100]), {}⟩ = result at hleft ⊢
  cases result with
  | ok => cases hleft
  | error e after =>
    rintro ⟨hunchanged, -⟩
    rw [Option.some.inj hleft] at hunchanged
    exact absurd hunchanged (by decide)

end ReconcileFlow
