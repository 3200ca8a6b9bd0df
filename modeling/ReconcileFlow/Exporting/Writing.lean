import ReconcileFlow.Exporting.Results
import ReconcileFlow.Support.Csv
import ReconcileFlow.Support.Effects
import ReconcileFlow.Support.Utf8
import ReconcileFlow.Texts

/-!
# Exporting — Writing

The export of the results to a file, which is opened for writing in place.  What the workbook makes
of the rows is a parameter (`Workbook`), as is what the file system answers (`Disk`): the
destination cannot be opened, or it is opened and the writing breaks off with some contents, or it
holds the document.
-/

namespace ReconcileFlow.Exporting

open Support
open Reconciliation (ReconciliationResult)

/-- What is raised below the exports. -/
inductive Raised
  /-- An `OSError`. -/
  | os
  | other (typeName : String)
deriving DecidableEq, Repr

/-- `type(error).__name__`, after `except OSError`. -/
def Raised.typeName : Raised → String
  | .os => "ResultExportError"
  | .other typeName => typeName

/-- What is at a path. -/
inductive Node
  | file (contents : List UInt8)
  | directory
deriving DecidableEq, Repr

inductive Writing
  /-- The file is not opened. -/
  | refused (raised : Raised)
  /-- The file is opened, and left with these contents. -/
  | broken (contents : List UInt8) (raised : Raised)
  | complete
deriving DecidableEq, Repr

structure Disk where
  /-- `exists()` and `is_dir()`, which may raise an `OSError`. -/
  lookup : Except String Unit := .ok ()
  mkdir : Except Raised Unit := .ok ()
  writing : Writing := .complete

/-- The bytes of the workbook with these rows.  A text that no cell may have is refused when its row
is appended. -/
abbrev Workbook := List ResultRow → Except String (List UInt8)

/-- A computation on the destination, among other things. -/
abbrev ExportAction := EStateM String (Option Node)

/-! ### CSV documents -/

def resultColumns : List String :=
  ["result_id", "status", "rule", "bank_source_record_ids", "erp_invoice_ids",
    "gateway_source_record_ids", "expected_amount", "actual_amount", "amount_difference",
    "currency", "explanation", "requires_review"]

/-- The values of the columns, as the writer turns them into texts. -/
def ResultRow.texts (row : ResultRow) : List String :=
  [row.resultId, row.status, row.rule, row.bankSourceRecordIds, row.erpInvoiceIds,
    row.gatewaySourceRecordIds, row.expectedAmount.getD "", row.actualAmount.getD "",
    row.amountDifference.getD "", row.currency.getD "", row.explanation,
    if row.requiresReview then "True" else "False"]

/-- The rows of the file: the columns, and the texts of each result. -/
def exportedRows (rows : List ResultRow) : List (List String) :=
  resultColumns :: rows.map ResultRow.texts

/-- What the writer of `export_results_csv` writes, in `utf-8-sig`. -/
def csvDocument (rows : List ResultRow) : List UInt8 :=
  Utf8.mark ++
    Utf8.encode (Csv.document ((exportedRows rows).map fun row => row.map String.toList))

/-! ### The exports -/

/-- `Path(path).suffix.casefold()`. -/
def foldedSuffix (casefold : String → String) (path : String) : String :=
  casefold (String.ofList (splitSuffix (pathName path.toList)).2)

/-- `_prepare_output`. -/
def prepareOutput (disk : Disk) (suffix expectedSuffix : String) (overwrite : Bool) :
    ExportAction Unit := do
  if suffix ≠ expectedSuffix then throw "ResultExportError"
  answer disk.lookup
  match ← get with
  | some .directory => throw "ResultExportError"
  | some (.file _) => if overwrite = false then throw "FileExistsError"
  | none => pure ()
  answer (disk.mkdir.mapError Raised.typeName)

/-- The `try` statement of the exports. -/
def writeDocument (writing : Writing) (document : List UInt8) : ExportAction Unit :=
  match writing with
  | .refused raised => throw raised.typeName
  | .broken contents raised => do
    set (some (Node.file contents))
    throw raised.typeName
  | .complete => set (some (Node.file document))

def exportResultsCsv (disk : Disk) (results : List ReconciliationResult)
    (suffix : String) (overwrite : Bool) : ExportAction Unit := do
  let rows := resultsToDicts results
  prepareOutput disk suffix ".csv" overwrite
  writeDocument disk.writing (csvDocument rows)

def exportResultsXlsx (workbook : Workbook) (disk : Disk) (results : List ReconciliationResult)
    (suffix : String) (overwrite : Bool) : ExportAction Unit := do
  let rows := resultsToDicts results
  prepareOutput disk suffix ".xlsx" overwrite
  let document ← answer (workbook rows)
  writeDocument disk.writing document

end ReconcileFlow.Exporting
