import ReconcileFlow.Ingestion.Records

/-!
# Ingestion — Schemas

The fields and the checks of the four models: bank transactions, gateway settlement entries, invoice
lines and ERP invoices.
-/

namespace ReconcileFlow.Ingestion

open Support

/-- A name for each of which the check is made. -/
def forEach (names : List String) (check : String → Check) : List Check := names.map check

/-- A name for each of which the check is made if the attribute is given. -/
def forEachGiven (names : List String) (check : String → Check) : List Check :=
  names.map fun name => ifGiven name (check name)

/-- The attribute is a `bool`. -/
def isFlag (attributes : Attributes) (name : String) : Bool :=
  match attributes name with
  | some (.flag _) => true
  | _ => false

/-! ### Bank transactions -/

def bankTransaction : Model where
  className := "BankTransaction"
  fields := [
    "source_system", "source_record_id", "transaction_id", "account_id", "booking_date", "amount",
    "currency", "credit_debit_indicator", "status", "description", "ingested_at", "statement_id",
    "entry_reference", "account_servicer_reference", "end_to_end_id", "instruction_id",
    "mandate_id", "check_number", "value_date", "authorized_date", "booking_datetime",
    "authorized_datetime", "account_currency", "account_amount", "exchange_rate",
    "transaction_code", "payment_channel", "category", "subcategory", "original_description",
    "remittance_information", "merchant_name", "merchant_category_code", "counterparty_name",
    "counterparty_account_id", "counterparty_iban_masked", "counterparty_bic",
    "counterparty_country", "debtor_name", "creditor_name", "invoice_reference",
    "customer_reference", "bank_reference", "balance_after_transaction", "branch_id",
    "location_country", "location_city", "is_fee", "is_reversal", "reversal_of_transaction_id"]
  required := [
    "source_system", "source_record_id", "transaction_id", "account_id", "booking_date", "amount",
    "currency", "credit_debit_indicator", "status", "description", "ingested_at"]
  defaults := [("is_fee", .flag false), ("is_reversal", .flag false)]

def bankChecks : List Check :=
  forEach ["source_system", "source_record_id", "transaction_id", "account_id", "description"]
    requireText ++
  [requireCurrency "currency", requireDecimal "amount" false false,
    requireAwareDatetime "ingested_at", requireDate "booking_date",
    requireMember "credit_debit_indicator" .creditDebitIndicator,
    requireMember "status" .bankTransactionStatus,
    requireThat (fun attributes => isFlag attributes "is_fee" && isFlag attributes "is_reversal")
      (.typeError "is_fee and is_reversal must be bool")] ++
  forEachGiven ["booking_datetime", "authorized_datetime"] requireAwareDatetime ++
  forEachGiven ["value_date", "authorized_date"] requireDate ++
  forEachGiven ["account_amount"] requireDecimal ++
  forEachGiven ["exchange_rate"] (requireDecimal · false false) ++
  forEachGiven ["balance_after_transaction"] (requireDecimal · true) ++
  forEachGiven ["account_currency"] requireCurrency ++
  [requireThat (fun attributes => !(decide (attributes "is_reversal" = some (.flag true)) &&
        decide (attributes "reversal_of_transaction_id" = none)))
      (.valueError "reversal_of_transaction_id is required for a reversal")] ++
  forEachGiven ["reversal_of_transaction_id"] requireText

/-! ### Gateway settlement entries -/

def gatewaySettlementEntry : Model where
  className := "GatewaySettlementEntry"
  fields := [
    "source_system", "source_record_id", "settlement_id", "gateway_payment_id",
    "merchant_account_id", "transaction_type", "status", "created_at", "settlement_date",
    "gross_amount", "fee_amount", "tax_on_fee_amount", "refund_amount", "chargeback_amount",
    "adjustment_amount", "net_amount", "currency", "settlement_currency", "ingested_at",
    "available_on", "exchange_rate", "customer_id", "customer_name", "invoice_reference",
    "order_reference", "gateway_reference", "bank_reference", "payment_method_type", "card_brand",
    "card_last4", "description"]
  required := [
    "source_system", "source_record_id", "settlement_id", "gateway_payment_id",
    "merchant_account_id", "transaction_type", "status", "created_at", "settlement_date",
    "gross_amount", "fee_amount", "tax_on_fee_amount", "refund_amount", "chargeback_amount",
    "adjustment_amount", "net_amount", "currency", "settlement_currency", "ingested_at"]

/-- `calculated_net` of an entry. -/
def gatewayNet (limits : Decimal.Limits) (attributes : Attributes) : Option Decimal := do
  let net ← limits.sub (amountAt attributes "gross_amount") (amountAt attributes "fee_amount")
  let net ← limits.sub net (amountAt attributes "tax_on_fee_amount")
  let net ← limits.sub net (amountAt attributes "refund_amount")
  let net ← limits.sub net (amountAt attributes "chargeback_amount")
  limits.add net (amountAt attributes "adjustment_amount")

/-- The checks before `calculated_net`. -/
def gatewayChecks : List Check :=
  forEach ["source_system", "source_record_id", "settlement_id", "gateway_payment_id",
    "merchant_account_id"] requireText ++
  [requireMember "transaction_type" .gatewayTransactionType,
    requireMember "status" .gatewayStatus,
    requireCurrency "currency", requireCurrency "settlement_currency",
    requireAwareDatetime "created_at", requireAwareDatetime "ingested_at",
    requireDate "settlement_date"] ++
  forEachGiven ["available_on"] requireDate ++
  forEach ["gross_amount", "fee_amount", "tax_on_fee_amount", "refund_amount",
    "chargeback_amount"] requireDecimal ++
  [requireDecimal "adjustment_amount" true, requireDecimal "net_amount" true] ++
  forEachGiven ["exchange_rate"] (requireDecimal · false false)

def gatewayTotals (limits : Decimal.Limits) : List Total := [{
  name := "net_amount"
  value := gatewayNet limits
  message :=
    "net_amount is inconsistent with gross, fees, refunds, chargebacks, and adjustment" }]

/-- The checks after that of the net amount. -/
def gatewayRest (py : Runtime) : List Check := [
  requireThat (fun attributes =>
      decide (attributes "currency" = attributes "settlement_currency") ||
        decide (attributes "exchange_rate" ≠ none))
    (.valueError "exchange_rate is required for cross-currency settlements"),
  requireThat (fun attributes =>
      match attributes "card_last4" with
      | some (.text value) => decide (value.length = 4) && py.isdigit value
      | _ => true)
    (.valueError "card_last4 must contain exactly four digits")]

/-! ### Invoice lines -/

def invoiceLine : Model where
  className := "InvoiceLine"
  fields := [
    "line_id", "line_number", "item_description", "quantity", "unit_price", "line_net_amount",
    "tax_rate", "tax_amount", "line_gross_amount", "item_id", "unit_code", "line_discount_amount",
    "line_charge_amount", "tax_category"]
  required := [
    "line_id", "line_number", "item_description", "quantity", "unit_price", "line_net_amount",
    "tax_rate", "tax_amount", "line_gross_amount"]
  defaults := [
    ("line_discount_amount", .decimal (.finite (.ofInt 0))),
    ("line_charge_amount", .decimal (.finite (.ofInt 0)))]

/-- `calculated_net` of a line. -/
def lineNet (limits : Decimal.Limits) (attributes : Attributes) : Option Decimal := do
  let net ← limits.mul (amountAt attributes "quantity") (amountAt attributes "unit_price")
  let net ← limits.sub net (amountAt attributes "line_discount_amount")
  limits.add net (amountAt attributes "line_charge_amount")

/-- The checks before `calculated_net`. -/
def lineChecks : List Check :=
  forEach ["line_id", "item_description"] requireText ++
  [requireThat (fun attributes =>
      match attributes "line_number" with
      | some (.whole value) => decide (1 ≤ value)
      | _ => false)
    (.valueError "line_number must be a positive integer")] ++
  forEach ["quantity", "unit_price", "line_net_amount", "tax_rate", "tax_amount",
    "line_gross_amount", "line_discount_amount", "line_charge_amount"] requireDecimal ++
  [requireThat (fun attributes => !(amountAt attributes "quantity").numEq (.ofInt 0))
    (.valueError "quantity must be greater than zero")]

def lineTotals (limits : Decimal.Limits) : List Total := [
  { name := "line_net_amount"
    value := lineNet limits
    message := "line_net_amount does not equal quantity * unit_price - discount + charge" },
  { name := "line_gross_amount"
    value := fun attributes =>
      limits.add (amountAt attributes "line_net_amount") (amountAt attributes "tax_amount")
    message := "line_gross_amount does not equal line_net_amount + tax_amount" }]

/-! ### ERP invoices -/

def erpInvoice : Model where
  className := "ERPInvoice"
  fields := [
    "source_system", "source_record_id", "invoice_id", "invoice_number", "invoice_type", "status",
    "issue_date", "currency", "supplier_id", "supplier_name", "customer_id", "customer_name",
    "document_subtotal", "document_discount_amount", "document_charge_amount",
    "document_tax_amount", "document_total_amount", "prepaid_amount", "paid_amount", "amount_due",
    "ingested_at", "due_date", "service_start_date", "service_end_date", "posting_date",
    "accounting_period", "tax_currency", "exchange_rate", "purchase_order_reference",
    "sales_order_reference", "contract_reference", "project_reference", "payment_reference",
    "supplier_tax_id", "supplier_country", "customer_tax_id", "customer_email", "customer_country",
    "billing_address_line1", "billing_city", "billing_region", "billing_postal_code",
    "billing_country", "delivery_address_line1", "delivery_city", "delivery_country",
    "payment_terms_code", "payment_terms_description", "payment_method",
    "payment_account_reference", "last_payment_date", "notes", "created_at", "updated_at"]
  required := [
    "source_system", "source_record_id", "invoice_id", "invoice_number", "invoice_type", "status",
    "issue_date", "currency", "supplier_id", "supplier_name", "customer_id", "customer_name",
    "document_subtotal", "document_discount_amount", "document_charge_amount",
    "document_tax_amount", "document_total_amount", "prepaid_amount", "paid_amount", "amount_due",
    "ingested_at"]

/-- `sum((line.name for line in self.lines), Decimal("0"))`. -/
def sumOver (limits : Decimal.Limits) (lines : List Record) (name : String) : Option Decimal :=
  limits.sum (lines.map fun line => amountAt line.attributes name)

/-- `calculated_total`. -/
def invoiceTotal (limits : Decimal.Limits) (attributes : Attributes) : Option Decimal := do
  let total ← limits.sub (amountAt attributes "document_subtotal")
    (amountAt attributes "document_discount_amount")
  let total ← limits.add total (amountAt attributes "document_charge_amount")
  limits.add total (amountAt attributes "document_tax_amount")

/-- The amount that should be due. -/
def invoiceDue (limits : Decimal.Limits) (attributes : Attributes) : Option Decimal := do
  let due ← limits.sub (amountAt attributes "document_total_amount")
    (amountAt attributes "prepaid_amount")
  limits.sub due (amountAt attributes "paid_amount")

/-- The checks before the sums. -/
def invoiceChecks (lines : List Record) : List Check :=
  forEach ["source_system", "source_record_id", "invoice_id", "invoice_number", "supplier_id",
    "supplier_name", "customer_id", "customer_name"] requireText ++
  [requireCurrency "currency"] ++
  forEachGiven ["tax_currency"] requireCurrency ++
  [requireMember "invoice_type" .invoiceType, requireMember "status" .invoiceStatus,
    requireDate "issue_date"] ++
  forEachGiven ["due_date", "service_start_date", "service_end_date", "posting_date",
    "last_payment_date"] requireDate ++
  [requireAwareDatetime "ingested_at"] ++
  forEachGiven ["created_at", "updated_at"] requireAwareDatetime ++
  forEach ["document_subtotal", "document_discount_amount", "document_charge_amount",
    "document_tax_amount", "document_total_amount", "prepaid_amount", "paid_amount",
    "amount_due"] requireDecimal ++
  forEachGiven ["exchange_rate"] (requireDecimal · false false) ++
  [requireThat (fun _ => !lines.isEmpty)
      (.valueError "lines must be a non-empty tuple of InvoiceLine values"),
    requireThat (fun _ => decide (lines.map fun line => line.attributes "line_id").Nodup)
      (.valueError "invoice line IDs must be unique")]

def invoiceTotals (limits : Decimal.Limits) (lines : List Record) : List Total := [
  { name := "document_subtotal"
    value := fun _ => sumOver limits lines "line_net_amount"
    message := "document_subtotal does not equal the sum of invoice line net amounts" },
  { name := "document_tax_amount"
    value := fun _ => sumOver limits lines "tax_amount"
    message := "document_tax_amount does not equal the sum of invoice line tax amounts" },
  { name := "document_total_amount"
    value := invoiceTotal limits
    message :=
      "document_total_amount is inconsistent with subtotal, discounts, charges, and tax" },
  { name := "amount_due"
    value := invoiceDue limits
    message := "amount_due is inconsistent with total, prepaid, and paid amounts" }]

end ReconcileFlow.Ingestion
