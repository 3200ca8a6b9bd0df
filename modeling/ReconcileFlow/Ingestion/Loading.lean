import ReconcileFlow.Ingestion.Schemas
import ReconcileFlow.Support.Grouping

/-!
# Ingestion — Loading

The three loaders, from the cells of a file to records.  Bank transactions and gateway settlement
entries are loaded row by row.  Rows of an ERP export are grouped by the text of their invoice cell;
each group gives an invoice, whose own fields are those of the first row, with a line for each row.
-/

namespace ReconcileFlow.Ingestion

open Support

section Loading

variable (py : Runtime) (config : IngestionConfig)

/-- `except (TypeError, ValueError)` around the construction of a model. -/
def constructionFailure (row : Nat) : ModelError → Failure
  | .typeError message => .ingestion { message, row := some row }
  | .valueError message => .ingestion { message, row := some row }
  | .overflow => .decimalOverflow

/-- The rows of the file under the canonical fields. -/
def mappedRows (canonical required : List String) (data : List (List Cell)) :
    Except Failure (List MappedRow) :=
  Except.mapError .ingestion do
    let (headers, raw) ← read py data
    mapRows py config canonical headers raw required

/-- One turn of the loop of `_load_simple`. -/
def loadRow (model : Model) (checks : List Check) (statusKind : Enumeration) (row : MappedRow) :
    Except Failure Record := do
  let arguments ← kwargs py config (some statusKind) (py.order model.fields) row
  let extraData ← extra py row
  let attributes ← (model.construct checks arguments).mapError (constructionFailure row.number)
  return { attributes, extraData }

/-- `_load_simple`. -/
def loadSimple (model : Model) (checks : List Check) (statusKind : Enumeration)
    (data : List (List Cell)) : Except Failure (List Record) := do
  let mapped ← mappedRows py config (model.fields ++ ["extra_data", "extra_data_json"])
    model.required data
  mapped.mapM (loadRow py config model checks statusKind)

/-- `load_bank_transactions`. -/
def loadBankTransactions (data : List (List Cell)) : Except Failure (List Record) :=
  loadSimple py config bankTransaction bankChecks .bankTransactionStatus data

/-- `load_gateway_settlements`. -/
def loadGatewaySettlements (data : List (List Cell)) : Except Failure (List Record) :=
  let checks := gatewayChecks ++ (gatewayTotals py.limits).map Total.check ++ gatewayRest py
  loadSimple py config gatewaySettlementEntry checks .gatewayStatus data

/-! ### ERP invoices -/

/-- The fields of `load_erp_invoices`. -/
def erpFields : List String := erpInvoice.fields ++ invoiceLine.fields ++ ["extra_data_json"]

/-- The fields that `load_erp_invoices` requires of the headers. -/
def erpRequired : List String := erpInvoice.required ++ invoiceLine.required

/-- `str(row.values["invoice_id"])`, if the row has the cell. -/
def invoiceKey (row : MappedRow) : String := (row.cell "invoice_id").str py

/-- The loop that groups the rows. -/
def groupRows (mapped : List MappedRow) : Except Failure (List (Group String MappedRow)) := do
  -- a short row may lack the cell
  mapped.forM fun row =>
    must ((row.values.lookup "invoice_id").isSome = true) (.keyError "invoice_id")
  return groupOn (· == ·) (invoiceKey py) mapped

/-- One turn of the loop over the rows of an invoice. -/
def loadLine (first row : MappedRow) : Except Failure Record := do
  -- the groups are by the text of the cell, this is by the cell
  must (row.cell "invoice_id" = first.cell "invoice_id") (.ingestion {
    message := "invoice grouping mismatch"
    row := some row.number
    column := some "invoice_id" })
  let arguments ← kwargs py config none (py.order invoiceLine.fields) row
  let checks := lineChecks ++ (lineTotals py.limits).map Total.check
  let attributes ← (invoiceLine.construct checks arguments).mapError
    (constructionFailure row.number)
  return { attributes, extraData := fun _ => none }

/-- `_convert(first.values["invoice_type"], InvoiceType, …)`. -/
def invoiceTypeOf (first : MappedRow) : Except Failure (Option Value) :=
  match first.values.lookup "invoice_type" with
  | none => .error (.keyError "invoice_type")
  | some cell =>
    convert py config.sourceTimezone first.number "invoice_type" (.enum .invoiceType) cell

/-- The fields of the invoice itself, of its first row. -/
def loadHeader (lines : List Record) (first : MappedRow) : Except Failure Invoice := do
  let arguments ← kwargs py config (some .invoiceStatus) (py.order erpInvoice.fields) first
  let invoiceType ← invoiceTypeOf py config first
  let extraData ← extra py first
  let checks := invoiceChecks lines ++ (invoiceTotals py.limits lines).map Total.check
  let attributes ← (erpInvoice.construct checks (("invoice_type", invoiceType) :: arguments)).mapError
    (constructionFailure first.number)
  return { attributes, extraData, lines }

/-- One turn of the loop over the groups. -/
def loadInvoice (group : Group String MappedRow) : Except Failure Invoice := do
  let lines ← group.members.mapM (loadLine py config group.first)
  loadHeader py config lines group.first

/-- `load_erp_invoices`. -/
def loadErpInvoices (data : List (List Cell)) : Except Failure (List Invoice) := do
  let mapped ← mappedRows py config erpFields erpRequired data
  let groups ← groupRows py mapped
  groups.mapM (loadInvoice py config)

end Loading

end ReconcileFlow.Ingestion
