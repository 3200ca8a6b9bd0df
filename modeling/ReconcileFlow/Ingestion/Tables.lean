import ReconcileFlow.Ingestion.Cells
import ReconcileFlow.Support.Sorting

/-!
# Ingestion — Tables

From the cells of a file to rows of canonical fields.  `read` takes the first row as the headers and
drops the rows without a cell; a row that is shorter than the headers lacks the last of them.
`mapRows` resolves each header to a canonical field, by the explicit mapping or by the names and
aliases of the fields, and keeps the cells of all other headers apart.
-/

namespace ReconcileFlow.Ingestion

open Support

/-- Per-source settings. -/
structure IngestionConfig where
  columnMapping : List (String × String) := []
  sourceTimezone : Zone := ⟨"UTC"⟩
deriving DecidableEq

/-- `_Row`, with the cells under the headers. -/
structure Row where
  number : Nat
  values : List (String × Cell)
deriving DecidableEq

/-- `_Row` of `_map_rows`: the cells of the resolved headers under their fields, and under
`__unknown__` the cells of the others that are present. -/
structure MappedRow where
  number : Nat
  values : List (String × Cell)
  unknown : List (String × Cell)
deriving DecidableEq

section Read

variable (py : Runtime)

/-- The text of a cell of the first row. -/
def headerOf : Cell → String
  | .absent => ""
  | cell => strip (cell.str py)

/-- The rows of `_read`: those with a cell, numbered as in the file. -/
def rowsOf (headers : List String) (data : List (List Cell)) : List Row :=
  ((data.zipIdx 2).filter fun (values, _) => values.any Cell.isPresent).map fun (values, index) =>
    -- cells beyond the headers are dropped, and a short row lacks the last ones
    ⟨index, headers.zip values⟩

/-- `_read`, of the cells of the file. -/
def read (data : List (List Cell)) : Except IngestionError (List String × List Row) :=
  match data with
  | [] => .error { message := "file has no header row" }
  | first :: rest => do
    must (first.any Cell.isPresent = true) { message := "file has no header row" }
    let headers := first.map (headerOf py)
    must ("" ∉ headers) { message := "header names cannot be blank", row := some 1 }
    let normalized := headers.map (key py)
    match normalized.find? fun name => decide (1 < normalized.count name) with
    | some duplicate =>
      throw {
        message := "duplicate header after normalization: " ++ py.repr duplicate
        row := some 1 }
    | none => return (headers, rowsOf headers rest)

end Read

/-- `ALIASES`. -/
def aliases : List (String × List String) := [
  ("transaction_id",
    ["transaction id", "bank transaction id", "transaction reference", "txn id"]),
  ("source_record_id", ["source record id", "record id", "external record id"]),
  ("account_id", ["account id", "bank account", "account number"]),
  ("booking_date", ["booking date", "posted date", "transaction date"]),
  ("amount", ["amount", "transaction amount"]),
  ("credit_debit_indicator", ["credit debit indicator", "credit/debit", "dr cr"]),
  ("invoice_id", ["invoice id", "invoice key"]),
  ("invoice_number", ["invoice number", "invoice no", "document number", "docnum"]),
  ("customer_id", ["customer id", "customer code", "account code"]),
  ("issue_date", ["issue date", "invoice date", "document date"]),
  ("settlement_id", ["settlement id", "payout id"]),
  ("gateway_payment_id", ["gateway payment id", "payment id", "charge id"]),
  ("merchant_account_id", ["merchant account id", "merchant id"]),
  ("created_at", ["created at", "transaction timestamp"]),
  ("settlement_date", ["settlement date", "payout date"]),
  ("gross_amount", ["gross amount", "gross"]),
  ("fee_amount", ["fee amount", "processing fee", "fee"]),
  ("net_amount", ["net amount", "net"])]

/-- The value of a key in a dictionary that is built from the pairs: the last one counts. -/
def lastLookup (pairs : List (String × String)) (k : String) : Option String :=
  pairs.reverse.lookup k

section Resolution

variable (py : Runtime) (config : IngestionConfig) (canonical : List String)

/-- The pairs of `lookup`. -/
def lookupPairs : List (String × String) :=
  (canonical.map fun name => (key py name, name)) ++
    (aliases.filter fun (name, _) => decide (name ∈ canonical)).flatMap fun (name, texts) =>
      texts.map fun text => (key py text, name)

/-- The pairs of `explicit`. -/
def explicitPairs : List (String × String) :=
  config.columnMapping.map fun (source, target) => (key py source, target)

/-- The field of a header. -/
def resolve (header : String) : Option String :=
  match lastLookup (explicitPairs py config) (key py header) with
  -- the configured columns come before the aliases
  | some target => some target
  | none => lastLookup (lookupPairs py canonical) (key py header)

/-- The targets of `explicit` that are no fields, in order. -/
def invalidTargets : List String :=
  let explicit := explicitPairs py config
  sortOn id ((explicit.filter fun (source, target) =>
    decide (lastLookup explicit source = some target) && decide (target ∉ canonical)).map
      Prod.snd).dedup

/-- The loop over the headers: `resolved`, or the error of a field that is resolved twice. -/
def resolveHeaders (headers : List String) : Except IngestionError (List (String × String)) :=
  headers.foldlM (fun resolved header =>
    match resolve py config canonical header with
    | none => .ok resolved
    | some target =>
      if target ∈ resolved.map Prod.snd then
        .error {
          message := "multiple source columns map to " ++ py.repr target
          row := some 1 }
      else .ok (resolved ++ [(header, target)])) []

/-- A row under `resolved`. -/
def mapRow (resolved : List (String × String)) (row : Row) : MappedRow where
  number := row.number
  values := row.values.filterMap fun (header, cell) =>
    (resolved.lookup header).map fun target => (target, cell)
  unknown := row.values.filter fun (header, cell) =>
    (resolved.lookup header).isNone && cell.isPresent

/-- `_map_rows`. -/
def mapRows (headers : List String) (rows : List Row) (required : List String) :
    Except IngestionError (List MappedRow) := do
  let invalid := invalidTargets py config canonical
  must (invalid = []) {
    message := "mapping targets unknown fields: " ++ ", ".intercalate invalid }
  let resolved ← resolveHeaders py config canonical headers
  let missing := sortOn id (required.filter fun name => decide (name ∉ resolved.map Prod.snd))
  must (missing = []) {
    message := "missing required columns: " ++ ", ".intercalate missing
    row := some 1 }
  return rows.map (mapRow resolved)

end Resolution

end ReconcileFlow.Ingestion
