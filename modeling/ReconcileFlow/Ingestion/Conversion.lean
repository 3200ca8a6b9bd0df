import ReconcileFlow.Ingestion.Tables

/-!
# Ingestion — Conversion

The conversion of cells to the values of fields.  The name of a field decides the kind of its value
(`kindOf`).  `convert` turns what the conversion catches into an `IngestionError` that names the row,
the column and the value; the `OverflowError` of `int` of an infinity is not among what it catches.
`kwargs` converts the cells of a row that are given and not blank; `extra` joins the cells of unknown
headers with the row's own JSON object.
-/

namespace ReconcileFlow

inductive GatewayTransactionType
  | payment | refund | chargeback | fee | adjustment | reserve
deriving DecidableEq, Repr

end ReconcileFlow

namespace ReconcileFlow.Ingestion

open Support

/-- A member of one of the enumerations. -/
inductive Member
  | creditDebitIndicator (value : CreditDebitIndicator)
  | bankTransactionStatus (value : BankTransactionStatus)
  | invoiceType (value : InvoiceType)
  | invoiceStatus (value : InvoiceStatus)
  | gatewayTransactionType (value : GatewayTransactionType)
  | gatewayStatus (value : GatewayStatus)
deriving DecidableEq, Repr

inductive Enumeration
  | creditDebitIndicator | bankTransactionStatus | invoiceType | invoiceStatus
  | gatewayTransactionType | gatewayStatus
deriving DecidableEq, Repr

namespace Enumeration

/-- The name of the class. -/
def className : Enumeration → String
  | creditDebitIndicator => "CreditDebitIndicator"
  | bankTransactionStatus => "BankTransactionStatus"
  | invoiceType => "InvoiceType"
  | invoiceStatus => "InvoiceStatus"
  | gatewayTransactionType => "GatewayTransactionType"
  | gatewayStatus => "GatewayStatus"

/-- The members, under their values. -/
def members : Enumeration → List (String × Member)
  | creditDebitIndicator => [
      ("CREDIT", .creditDebitIndicator .credit), ("DEBIT", .creditDebitIndicator .debit)]
  | bankTransactionStatus => [
      ("BOOKED", .bankTransactionStatus .booked), ("PENDING", .bankTransactionStatus .pending),
      ("REVERSED", .bankTransactionStatus .reversed),
      ("CANCELLED", .bankTransactionStatus .cancelled)]
  | invoiceType => [
      ("INVOICE", .invoiceType .invoice), ("CREDIT_NOTE", .invoiceType .creditNote),
      ("DEBIT_NOTE", .invoiceType .debitNote), ("PROFORMA", .invoiceType .proforma)]
  | invoiceStatus => [
      ("DRAFT", .invoiceStatus .draft), ("OPEN", .invoiceStatus .open),
      ("PARTIALLY_PAID", .invoiceStatus .partiallyPaid), ("PAID", .invoiceStatus .paid),
      ("VOID", .invoiceStatus .void), ("OVERDUE", .invoiceStatus .overdue)]
  | gatewayTransactionType => [
      ("PAYMENT", .gatewayTransactionType .payment), ("REFUND", .gatewayTransactionType .refund),
      ("CHARGEBACK", .gatewayTransactionType .chargeback), ("FEE", .gatewayTransactionType .fee),
      ("ADJUSTMENT", .gatewayTransactionType .adjustment),
      ("RESERVE", .gatewayTransactionType .reserve)]
  | gatewayStatus => [
      ("PENDING", .gatewayStatus .pending), ("AVAILABLE", .gatewayStatus .available),
      ("PAID", .gatewayStatus .paid), ("FAILED", .gatewayStatus .failed),
      ("REVERSED", .gatewayStatus .reversed)]

end Enumeration

/-- A value of a field. -/
inductive Value
  | text (value : String)
  | decimal (value : DecimalValue)
  | whole (value : Int)
  | flag (value : Bool)
  | date (value : Date)
  | datetime (value : Datetime)
  | member (value : Member)
deriving DecidableEq, Repr

/-- The kind of a field. -/
inductive Kind
  | str | decimal | int | bool | date | datetime
  | enum (enumeration : Enumeration)
deriving DecidableEq, Repr

/-- `kind.__name__`. -/
def Kind.name : Kind → String
  | str => "str"
  | decimal => "Decimal"
  | int => "int"
  | bool => "bool"
  | date => "date"
  | datetime => "datetime"
  | enum enumeration => enumeration.className

/-! ### The kinds of the fields -/

/-- `ENUMS`, without the entries that are no fields. -/
def enums : List (String × Enumeration) := [
  ("credit_debit_indicator", .creditDebitIndicator),
  ("invoice_type", .invoiceType),
  ("transaction_type", .gatewayTransactionType)]

/-- `DECIMALS`. -/
def decimals : List String := [
  "amount", "account_amount", "exchange_rate", "balance_after_transaction", "gross_amount",
  "fee_amount", "tax_on_fee_amount", "refund_amount", "chargeback_amount", "adjustment_amount",
  "net_amount", "quantity", "unit_price", "line_discount_amount", "line_charge_amount",
  "line_net_amount", "tax_rate", "tax_amount", "line_gross_amount", "document_subtotal",
  "document_discount_amount", "document_charge_amount", "document_tax_amount",
  "document_total_amount", "prepaid_amount", "paid_amount", "amount_due"]

/-- `DATES`. -/
def dates : List String := [
  "booking_date", "value_date", "authorized_date", "settlement_date", "available_on", "issue_date",
  "due_date", "service_start_date", "service_end_date", "posting_date", "last_payment_date"]

/-- `DATETIMES`. -/
def datetimes : List String := [
  "booking_datetime", "authorized_datetime", "ingested_at", "created_at", "updated_at"]

/-- `BOOLS`. -/
def bools : List String := ["is_fee", "is_reversal"]

/-- The kind that `_kwargs` finds for a name. -/
def kindOf (statusKind : Option Enumeration) (name : String) : Kind :=
  if name ∈ decimals then .decimal
  else if name ∈ dates then .date
  else if name ∈ datetimes then .datetime
  else if name ∈ bools then .bool
  else if name = "line_number" then .int
  else
    -- a `status` is a member only where the model says of which enumeration
    match (if name = "status" then statusKind else none).or (enums.lookup name) with
    | some enumeration => .enum enumeration
    | none => .str

/-! ### One cell -/

/-- An exception of a conversion: one that is caught, by its text, or an `OverflowError`. -/
inductive Refusal
  | caught (reason : String)
  | overflowError

/-- `Decimal(text)`, of a text that is stripped first. -/
def decimalOf (py : Runtime) (text : String) : Except Refusal DecimalValue :=
  match DecimalText.parse py.digit (strip text).toList with
  | some value => .ok value
  | none => .error (.caught "[<class 'decimal.ConversionSyntax'>]")

/-- `decimal.to_integral_value()`, of a finite number. -/
def toIntegralValue (d : Decimal) : Decimal := d.roundAt 0

/-- `int(decimal)`, of a whole number. -/
def intOf (d : Decimal) : Int :=
  if 0 ≤ d.exponent then d.signed * 10 ^ d.exponent.toNat else d.signed / 10 ^ (-d.exponent).toNat

/-- The conversion to `int`. -/
def wholeOf : DecimalValue → Except Refusal Int
  | .finite d =>
    if d.numEq (toIntegralValue d) then .ok (intOf d)
    else .error (.caught "must be a whole number")
  | .infinity _ => .error .overflowError
  -- a NaN is not equal to itself, and a signaling one may not be rounded
  | .nan false => .error (.caught "must be a whole number")
  | .nan true => .error (.caught "[<class 'decimal.InvalidOperation'>]")

/-- `choices`. -/
def choices : List (String × Bool) := [
  ("true", true), ("1", true), ("yes", true), ("y", true),
  ("false", false), ("0", false), ("no", false), ("n", false)]

section Convert

variable (py : Runtime)

/-- A text or the error of a parser, as a conversion sees it. -/
def caught {α : Type} (parsed : Except String α) : Except Refusal α := parsed.mapError .caught

/-- `text.replace(",", "")`. -/
def dropCommas (text : String) : String := String.ofList (text.toList.filter (· ≠ ','))

/-- `text.replace("Z", "+00:00")`. -/
def replaceZ (text : String) : String :=
  String.ofList (text.toList.flatMap fun c => if c = 'Z' then "+00:00".toList else [c])

/-- The date of a cell. -/
def dateOf : Cell → Except Refusal Date
  | .datetime value => .ok value.date
  | .date value => .ok value
  | cell => caught (py.dateFromIso (strip (cell.str py)))

/-- The datetime of a cell, as it is given. -/
def datetimeOf : Cell → Except Refusal Datetime
  | .datetime value => .ok value
  | cell => caught (py.datetimeFromIso (replaceZ (strip (cell.str py))))

/-- The body of `_convert`, of a cell that is not blank. -/
def convertValue (zone : Zone) (cell : Cell) : Kind → Except Refusal Value
  | .str => .ok (.text (textOf py cell))
  | .decimal => Value.decimal <$> decimalOf py (dropCommas (cell.str py))
  | .int => do
    let value ← decimalOf py (cell.str py)
    -- commas are not dropped here
    Value.whole <$> wholeOf value
  | .bool =>
    match cell with
    -- a number is a choice by its text
    | .bool value => .ok (.flag value)
    | _ =>
      let choice := py.casefold (strip (cell.str py))
      match choices.lookup choice with
      | some value => .ok (.flag value)
      | none => .error (.caught (py.repr choice))
  | .date => Value.date <$> dateOf py cell
  | .datetime => do
    let parsed ← datetimeOf py cell
    -- a time without a zone is in that of the source
    return .datetime { parsed with zone := some (parsed.zone.getD zone) }
  | .enum enumeration =>
    let text := replaceChar (py.upper (strip (cell.str py))) ' ' '_'
    match enumeration.members.lookup text with
    | some value => .ok (.member value)
    | none => .error (.caught (py.repr text ++ " is not a valid " ++ enumeration.className))

/-- `_convert`. -/
def convert (zone : Zone) (row : Nat) (column : String) (kind : Kind) (cell : Cell) :
    Except Failure (Option Value) :=
  if cell.isBlank then .ok none
  else
    match convertValue py zone cell kind with
    | .ok value => .ok (some value)
    | .error (.caught reason) => .error (.ingestion {
        message := "cannot convert to " ++ kind.name ++ " (" ++ reason ++ ")"
        row := some row
        column := some column
        value := some cell })
    | .error .overflowError => .error .overflowError

/-! ### One row -/

/-- `values.get(name)`. -/
def MappedRow.cell (row : MappedRow) (name : String) : Cell :=
  (row.values.lookup name).getD .absent

/-- `name in values and not _blank(values[name])`. -/
def MappedRow.gives (row : MappedRow) (name : String) : Bool := !(row.cell name).isBlank

/-- The argument for one name. -/
def argument (config : IngestionConfig) (statusKind : Option Enumeration) (row : MappedRow)
    (name : String) : Except Failure (String × Option Value) := do
  let value ← convert py config.sourceTimezone row.number name (kindOf statusKind name)
    (row.cell name)
  return (name, value)

/-- `_kwargs`.  The names come in the order in which the run time goes through their set. -/
def kwargs (config : IngestionConfig) (statusKind : Option Enumeration) (names : List String)
    (row : MappedRow) : Except Failure (List (String × Option Value)) :=
  (names.filter row.gives).mapM (argument py config statusKind row)

/-- The cells of the unknown headers, as extra data. -/
def unknownData (row : MappedRow) (header : String) : Option Datum :=
  (row.unknown.lookup header).map .cell

/-- The error of an `extra_data_json`. -/
def invalidExtraData (row : MappedRow) (reason : String) : Failure :=
  .ingestion {
    message := "invalid extra_data_json (" ++ reason ++ ")"
    row := some row.number
    column := some "extra_data_json"
    value := some (row.cell "extra_data_json") }

/-- `_extra`.  The members of the JSON object replace cells of the same name. -/
def extra (row : MappedRow) : Except Failure (String → Option Datum) :=
  if (row.cell "extra_data_json").isBlank then .ok (unknownData row)
  else
    match py.loads ((row.cell "extra_data_json").str py) with
    | .error reason => .error (invalidExtraData row reason)
    | .ok (.object members) =>
      .ok fun header => (members.lookup header).or (unknownData row header)
    | .ok _ => .error (invalidExtraData row "must contain a JSON object")

end Convert

end ReconcileFlow.Ingestion
