import Mathlib.Data.List.Dedup
import Mathlib.Data.List.Infix
import Mathlib.Data.Prod.Lex
import Mathlib.Data.String.Basic
import ReconcileFlow.Reconciliation.Config
import ReconcileFlow.Reconciliation.Results
import ReconcileFlow.Support.Grouping
import ReconcileFlow.Support.Selection
import ReconcileFlow.Support.Sorting

/-!
# Reconciliation — Engine

The priority-ordered reconciliation engine.  Each of the eight rules is a loop; the body of the
loop is a step on the state: the three sets of used ids and the results so far.  `reconcile` sorts
the inputs, refuses repeated ids and runs the loops in order.

Two parts of the language's run time are parameters (`Runtime`): the case folding of texts and the
rounding of decimal arithmetic.
-/

namespace ReconcileFlow.Reconciliation

open Support

/-- Case folding and the decimal context. -/
structure Runtime where
  casefold : String → String
  context : Decimal.Context

/-- The default context, and the folding of ASCII letters. -/
def Runtime.ascii : Runtime := ⟨String.toLower, ⟨some 28⟩⟩

structure ReconciliationEngine where
  runtime : Runtime
  config : ReconciliationConfig

/-- `ValueError`, with its message. -/
structure ValueError where
  message : String
deriving DecidableEq, Repr

/-- `needle in reference`. -/
def contains (reference needle : String) : Bool := decide (needle.toList <:+: reference.toList)

/-- The text of `value` if it is present and not empty. -/
def truthy (value : Option String) : Option String := value.filter fun text => text != ""

def references (py : Runtime) (bank : BankTransaction) : List String :=
  let values := [bank.invoiceReference, bank.customerReference, bank.endToEndId,
    bank.remittanceInformation, some bank.description]
  (values.filterMap truthy).map py.casefold

def mentions (py : Runtime) (bank : BankTransaction) (invoice : ERPInvoice) : Bool :=
  let needles := [py.casefold invoice.invoiceId, py.casefold invoice.invoiceNumber] ++
    ((truthy invoice.paymentReference).map py.casefold).toList
  needles.any fun needle => (references py bank).any fun reference => contains reference needle

def eligible (bank : BankTransaction) : Bool :=
  decide (bank.status = .booked) && decide (bank.creditDebitIndicator = .credit) &&
    !bank.isReversal

def withinDays (bank : BankTransaction) (invoice : ERPInvoice) (days : Nat) : Bool :=
  let comparisonDate := invoice.dueDate.getD invoice.issueDate
  decide ((bank.bookingDate - comparisonDate).natAbs ≤ days)

/-- The entry names the invoice by the set membership of rules 3 and 7, `None` included. -/
def referencesInvoice (entry : GatewaySettlementEntry) (invoice : ERPInvoice) : Bool :=
  [some invoice.invoiceId, some invoice.invoiceNumber, invoice.paymentReference].contains
    entry.invoiceReference

/-! ### The state of the loops -/

/-- The used ids and the results, each under the id of its position. -/
structure State where
  usedBanks : List String := []
  usedInvoices : List String := []
  usedGateways : List String := []
  results : List ReconciliationResult := []
  results_numbered : results = number (valuesOf results) := by rfl
deriving DecidableEq

namespace State

/-- `used_banks.update(ids)`. -/
def useBanks (s : State) (ids : List String) : State := { s with usedBanks := s.usedBanks ++ ids }

/-- `used_invoices.update(ids)`. -/
def useInvoices (s : State) (ids : List String) : State :=
  { s with usedInvoices := s.usedInvoices ++ ids }

/-- `used_gateways.update(ids)`. -/
def useGateways (s : State) (ids : List String) : State :=
  { s with usedGateways := s.usedGateways ++ ids }

/-- The inner function `add`. -/
def add (s : State) (values : ResultValues) : State :=
  { s with
    results := s.results ++ [⟨values, formatResultId (s.results.length + 1)⟩]
    results_numbered := by
      rw [valuesOf, List.map_append, List.map_singleton, number_snoc, List.length_map]
      exact congrArg (· ++ _) s.results_numbered }

end State

/-- The inputs, sorted. -/
structure Inputs where
  banks : List BankTransaction
  erp : List ERPInvoice
  gateways : List GatewaySettlementEntry

/-- The key of a duplicate group. -/
structure Fingerprint where
  transactionId : String
  bankReference : Option String
  bookingDate : Date
  currency : String
  amount : Decimal

def fingerprint (bank : BankTransaction) : Fingerprint :=
  ⟨bank.transactionId, bank.bankReference, bank.bookingDate, bank.currency, bank.amount⟩

/-- Equality of the key tuples; amounts are equal as numbers. -/
def Fingerprint.same (a b : Fingerprint) : Bool :=
  decide (a.transactionId = b.transactionId) && decide (a.bankReference = b.bankReference) &&
    decide (a.bookingDate = b.bookingDate) && decide (a.currency = b.currency) &&
    a.amount.numEq b.amount

namespace Fingerprint

@[simp] theorem same_refl (a : Fingerprint) : a.same a = true := by simp [same]

theorem same_comm (a b : Fingerprint) : a.same b = b.same a := by
  simp only [same, eq_comm, Decimal.numEq_comm a.amount b.amount]

theorem same_iff (a b : Fingerprint) : a.same b = true ↔
    a.transactionId = b.transactionId ∧ a.bankReference = b.bankReference ∧
      a.bookingDate = b.bookingDate ∧ a.currency = b.currency ∧
      a.amount.numEq b.amount = true := by
  simp only [same, Bool.and_eq_true, decide_eq_true_eq, and_assoc]

theorem same_trans {a b c : Fingerprint} (hab : a.same b = true) (hbc : b.same c = true) :
    a.same c = true := by
  rw [same_iff] at hab hbc ⊢
  obtain ⟨h₁, h₂, h₃, h₄, h₅⟩ := hab
  obtain ⟨k₁, k₂, k₃, k₄, k₅⟩ := hbc
  exact ⟨h₁.trans k₁, h₂.trans k₂, h₃.trans k₃, h₄.trans k₄, Decimal.numEq_trans h₅ k₅⟩

end Fingerprint

namespace ReconciliationEngine

variable (self : ReconciliationEngine) (inp : Inputs)

/-! ### 1. Duplicates are quarantined before any payment can be consumed -/

def duplicateGroups : List (Group Fingerprint BankTransaction) :=
  sortOn (fun group => group.first.sourceRecordId)
    (groupOn Fingerprint.same fingerprint inp.banks)

def duplicateLinks (s : State) (group : Group Fingerprint BankTransaction) : List ERPInvoice :=
  inp.erp.filter fun invoice =>
    decide (invoice.invoiceId ∉ s.usedInvoices) &&
      group.members.any fun bank =>
        -- neither the amount nor the currency is compared
        mentions self.runtime bank invoice &&
          withinDays bank invoice self.config.dateToleranceDays

def duplicateResult (group : Group Fingerprint BankTransaction) (linked : List ERPInvoice) :
    ResultValues where
  status := .duplicate
  rule := "DUPLICATE_BANK_FINGERPRINT"
  bankSourceRecordIds := group.members.map (·.sourceRecordId)
  erpInvoiceIds := linked.map (·.invoiceId)
  expectedAmount := some group.first.amount
  actualAmount := some group.first.amount
  amountDifference := some (.ofInt 0)
  currency := some group.first.currency
  explanation := "Bank entries share the same transaction ID, bank reference, booking date, " ++
    "currency, and amount."
  requiresReview := true

def duplicateStep (s : State) (group : Group Fingerprint BankTransaction) : State :=
  if group.members.length < 2 then s
  else
    -- the linked invoices are used up, so no later rule matches them
    let linked := self.duplicateLinks inp s group
    ((s.useBanks (group.members.map (·.sourceRecordId))).useInvoices
      (linked.map (·.invoiceId))).add (duplicateResult group linked)

/-! ### 2. Exact invoice-to-bank matches -/

def exactCandidates (s : State) (invoice : ERPInvoice) : List BankTransaction :=
  inp.banks.filter fun bank =>
    decide (bank.sourceRecordId ∉ s.usedBanks) && eligible bank &&
      decide (bank.currency = invoice.currency) && bank.amount.numEq invoice.amountDue &&
      mentions self.runtime bank invoice && withinDays bank invoice self.config.dateToleranceDays

def exactResult (bank : BankTransaction) (invoice : ERPInvoice) : ResultValues where
  status := .exactMatch
  rule := "EXACT_REFERENCE_AMOUNT_CURRENCY"
  bankSourceRecordIds := [bank.sourceRecordId]
  erpInvoiceIds := [invoice.invoiceId]
  expectedAmount := some invoice.amountDue
  actualAmount := some bank.amount
  amountDifference := some (.ofInt 0)
  currency := some invoice.currency
  explanation := "Invoice reference, currency, and amount match exactly."

def exactStep (s : State) (invoice : ERPInvoice) : State :=
  if invoice.invoiceId ∈ s.usedInvoices then s
  else
    match only (self.exactCandidates inp s invoice) with
    | none => s
    | some bank =>
        ((s.useBanks [bank.sourceRecordId]).useInvoices [invoice.invoiceId]).add
          (exactResult bank invoice)

/-! ### 3. Gateway net payouts match bank deposits while gross links the invoice -/

/-- The groups of the entries not in `used`, in the order of their settlement ids. -/
def settlementGroups (used : List String) : List (Group String GatewaySettlementEntry) :=
  sortOn Group.key
    (groupOn (· == ·) GatewaySettlementEntry.settlementId
      (inp.gateways.filter fun gateway => decide (gateway.sourceRecordId ∉ used)))

/-- `sum((entry.net_amount for entry in entries), Decimal("0"))`. -/
def netOf (entries : List GatewaySettlementEntry) : Decimal :=
  self.runtime.context.sum (entries.map (·.netAmount))

/-- `sum((entry.gross_amount for entry in entries), Decimal("0"))`. -/
def grossOf (entries : List GatewaySettlementEntry) : Decimal :=
  self.runtime.context.sum (entries.map (·.grossAmount))

def settlementCandidates (s : State) (group : Group String GatewaySettlementEntry) :
    List BankTransaction :=
  inp.banks.filter fun bank =>
    decide (bank.sourceRecordId ∉ s.usedBanks) && eligible bank &&
      -- the first entry of a group gives its currency
      decide (bank.currency = group.first.settlementCurrency) &&
      bank.amount.numEq (self.netOf group.members) &&
      group.members.any fun entry =>
        (truthy entry.bankReference).isSome &&
          decide (entry.bankReference = bank.bankReference) &&
          decide ((bank.bookingDate - entry.settlementDate).natAbs ≤
            self.config.dateToleranceDays)

def settlementLinks (s : State) (group : Group String GatewaySettlementEntry) :
    List ERPInvoice :=
  inp.erp.filter fun invoice =>
    decide (invoice.invoiceId ∉ s.usedInvoices) &&
      decide (invoice.currency = group.first.currency) &&
      invoice.amountDue.numEq (self.grossOf group.members) &&
      group.members.any fun entry => referencesInvoice entry invoice

def settlementResult (group : Group String GatewaySettlementEntry) (bank : BankTransaction)
    (linked : List ERPInvoice) : ResultValues :=
  let net := self.netOf group.members
  let gross := self.grossOf group.members
  let fees := self.runtime.context.sub gross net
  { status := .settlementMatch
    rule := "GATEWAY_NET_TO_BANK"
    bankSourceRecordIds := [bank.sourceRecordId]
    erpInvoiceIds := linked.map (·.invoiceId)
    gatewaySourceRecordIds := group.members.map (·.sourceRecordId)
    expectedAmount := some net
    actualAmount := some bank.amount
    amountDifference :=
      some (self.runtime.context.abs (self.runtime.context.sub bank.amount net))
    currency := some group.first.settlementCurrency
    explanation := "Gateway gross amount " ++ gross.str ++ " less fees/refunds/adjustments of " ++
      fees.str ++ " equals bank payout " ++ net.str ++ "."
    explanation_nonblank := by
      have hhead : isBlank "Gateway gross amount " = false := by decide
      simp only [isBlank_append, hhead, Bool.false_and]
    amountDifference_nonneg := by
      simp only [Option.all_some, Decimal.Context.abs_not_lt_zero, Bool.not_false] }

def settlementStep (s : State) (group : Group String GatewaySettlementEntry) : State :=
  match only (self.settlementCandidates inp s group) with
  | none => s
  | some bank =>
      let linked := self.settlementLinks inp s group
      (((s.useBanks [bank.sourceRecordId]).useGateways
        (group.members.map (·.sourceRecordId))).useInvoices (linked.map (·.invoiceId))).add
          (self.settlementResult group bank linked)

/-! ### 4. Referenced payments inside the configured tolerance -/

/-- `abs(bank.amount - invoice.amount_due)`. -/
def differenceOf (bank : BankTransaction) (invoice : ERPInvoice) : Decimal :=
  self.runtime.context.abs (self.runtime.context.sub bank.amount invoice.amountDue)

def toleranceCandidates (s : State) (invoice : ERPInvoice) : List BankTransaction :=
  inp.banks.filter fun bank =>
    decide (bank.sourceRecordId ∉ s.usedBanks) && eligible bank &&
      decide (bank.currency = invoice.currency) &&
      (Decimal.lt (.ofInt 0) (self.differenceOf bank invoice) &&
        (self.differenceOf bank invoice).le self.config.amountTolerance) &&
      mentions self.runtime bank invoice && withinDays bank invoice self.config.dateToleranceDays

def toleranceResult (bank : BankTransaction) (invoice : ERPInvoice) : ResultValues :=
  let difference := self.differenceOf bank invoice
  { status := .toleranceMatch
    rule := "REFERENCE_AMOUNT_TOLERANCE"
    bankSourceRecordIds := [bank.sourceRecordId]
    erpInvoiceIds := [invoice.invoiceId]
    expectedAmount := some invoice.amountDue
    actualAmount := some bank.amount
    amountDifference := some difference
    currency := some invoice.currency
    explanation := "Reference and currency match; amount difference " ++ difference.str ++
      " is within tolerance " ++ self.config.amountTolerance.str ++ "."
    explanation_nonblank := by
      have hhead : isBlank "Reference and currency match; amount difference " = false := by decide
      simp only [isBlank_append, hhead, Bool.false_and]
    amountDifference_nonneg := by
      simp only [Option.all_some, difference, differenceOf, Decimal.Context.abs_not_lt_zero,
        Bool.not_false] }

def toleranceStep (s : State) (invoice : ERPInvoice) : State :=
  if invoice.invoiceId ∈ s.usedInvoices then s
  else
    match only (self.toleranceCandidates inp s invoice) with
    | none => s
    | some bank =>
        ((s.useBanks [bank.sourceRecordId]).useInvoices [invoice.invoiceId]).add
          (self.toleranceResult bank invoice)

/-! ### 5 and 6. One record paid by, or paying, several -/

/-- The only combination of the smallest size from two to the maximum that has an only
combination totalling the target, or nothing. -/
def matchingGroup {α : Type} (amount : α → Decimal) (items : List α) (target : Decimal) :
    List α :=
  let sizes := List.range' 2 (min items.length self.config.maximumGroupSize - 1)
  let found := sizes.findSome? fun size =>
    only ((combinations size items).filter fun group =>
      (self.runtime.context.sum (group.map amount)).numEq target)
  found.getD []

def matchingCombination (invoices : List ERPInvoice) (target : Decimal) : List ERPInvoice :=
  self.matchingGroup ERPInvoice.amountDue invoices target

def matchingBankCombination (banks : List BankTransaction) (target : Decimal) :
    List BankTransaction :=
  self.matchingGroup BankTransaction.amount banks target

def manyToOneCandidates (s : State) (bank : BankTransaction) : List ERPInvoice :=
  inp.erp.filter fun invoice =>
    decide (invoice.invoiceId ∉ s.usedInvoices) && decide (invoice.currency = bank.currency) &&
      mentions self.runtime bank invoice && withinDays bank invoice self.config.dateToleranceDays

def manyToOneResult (bank : BankTransaction) (chosen : List ERPInvoice) : ResultValues where
  status := .manyToOneMatch
  rule := "MULTIPLE_INVOICES_TO_BANK"
  bankSourceRecordIds := [bank.sourceRecordId]
  erpInvoiceIds := chosen.map (·.invoiceId)
  expectedAmount := some (self.runtime.context.sum (chosen.map (·.amountDue)))
  actualAmount := some bank.amount
  amountDifference := some (.ofInt 0)
  currency := some bank.currency
  explanation := "Multiple referenced invoices total the single bank payment exactly."

def manyToOneStep (s : State) (bank : BankTransaction) : State :=
  -- in the other rules it is the candidates that have to be eligible
  if bank.sourceRecordId ∈ s.usedBanks ∨ !eligible bank then s
  else
    match self.matchingCombination (self.manyToOneCandidates inp s bank) bank.amount with
    | [] => s
    | chosen =>
        ((s.useBanks [bank.sourceRecordId]).useInvoices (chosen.map (·.invoiceId))).add
          (self.manyToOneResult bank chosen)

def oneToManyCandidates (s : State) (invoice : ERPInvoice) : List BankTransaction :=
  inp.banks.filter fun bank =>
    decide (bank.sourceRecordId ∉ s.usedBanks) && eligible bank &&
      decide (bank.currency = invoice.currency) && mentions self.runtime bank invoice &&
      withinDays bank invoice self.config.dateToleranceDays

def oneToManyResult (invoice : ERPInvoice) (chosen : List BankTransaction) : ResultValues where
  status := .oneToManyMatch
  rule := "INVOICE_TO_MULTIPLE_BANK_PAYMENTS"
  bankSourceRecordIds := chosen.map (·.sourceRecordId)
  erpInvoiceIds := [invoice.invoiceId]
  expectedAmount := some invoice.amountDue
  actualAmount := some (self.runtime.context.sum (chosen.map (·.amount)))
  amountDifference := some (.ofInt 0)
  currency := some invoice.currency
  explanation := "Multiple referenced bank payments total the invoice amount exactly."

def oneToManyStep (s : State) (invoice : ERPInvoice) : State :=
  if invoice.invoiceId ∈ s.usedInvoices then s
  else
    match self.matchingBankCombination (self.oneToManyCandidates inp s invoice)
        invoice.amountDue with
    | [] => s
    | chosen =>
        ((s.useBanks (chosen.map (·.sourceRecordId))).useInvoices [invoice.invoiceId]).add
          (self.oneToManyResult invoice chosen)

/-! ### 7. Gateway funds without a booked bank payout require review -/

def remainingOf (s : State) (group : Group String GatewaySettlementEntry) :
    List GatewaySettlementEntry :=
  group.members.filter fun entry => decide (entry.sourceRecordId ∉ s.usedGateways)

def awaitingLinks (s : State) (remaining : List GatewaySettlementEntry) : List ERPInvoice :=
  inp.erp.filter fun invoice =>
    decide (invoice.invoiceId ∉ s.usedInvoices) &&
      remaining.any fun entry => referencesInvoice entry invoice

/-- The values of the result; `first` is `remaining[0]`. -/
def awaitingResult (first : GatewaySettlementEntry) (remaining : List GatewaySettlementEntry)
    (linked : List ERPInvoice) : ResultValues where
  status := .requiresReview
  rule := "GATEWAY_AWAITING_BANK_SETTLEMENT"
  erpInvoiceIds := linked.map (·.invoiceId)
  gatewaySourceRecordIds := remaining.map (·.sourceRecordId)
  expectedAmount := some (self.netOf remaining)
  currency := some first.settlementCurrency
  explanation := "Gateway funds are available or paid, but no corresponding booked bank payout " ++
    "was found."
  requiresReview := true

def awaitingStep (s : State) (group : Group String GatewaySettlementEntry) : State :=
  match remainingOf s group with
  | [] => s
  | first :: rest =>
      let remaining := first :: rest
      let linked := awaitingLinks inp s remaining
      ((s.useGateways (remaining.map (·.sourceRecordId))).useInvoices
        (linked.map (·.invoiceId))).add (self.awaitingResult first remaining linked)

/-! ### 8. Anything left remains visible rather than silently disappearing -/

def unmatchedBankResult (bank : BankTransaction) : ResultValues where
  status := .requiresReview
  rule := "UNMATCHED_BANK_TRANSACTION"
  bankSourceRecordIds := [bank.sourceRecordId]
  actualAmount := some bank.amount
  currency := some bank.currency
  explanation := "No eligible invoice or gateway settlement matched this bank transaction."
  requiresReview := true

def unmatchedBankStep (s : State) (bank : BankTransaction) : State :=
  if bank.sourceRecordId ∈ s.usedBanks then s else s.add (unmatchedBankResult bank)

def unmatchedInvoiceResult (invoice : ERPInvoice) : ResultValues where
  status := .requiresReview
  rule := "UNMATCHED_ERP_INVOICE"
  erpInvoiceIds := [invoice.invoiceId]
  expectedAmount := some invoice.amountDue
  currency := some invoice.currency
  explanation := "No eligible bank payment or gateway settlement matched this invoice."
  requiresReview := true

def unmatchedInvoiceStep (s : State) (invoice : ERPInvoice) : State :=
  if invoice.invoiceId ∈ s.usedInvoices then s else s.add (unmatchedInvoiceResult invoice)

/-! ### The state after each rule -/

def afterDuplicates : State :=
  (duplicateGroups inp).foldl (self.duplicateStep inp) {}

def afterExact : State := inp.erp.foldl (self.exactStep inp) (self.afterDuplicates inp)

/-- `settlement_groups`, as rules 3 and 7 go through it. -/
def settlements : List (Group String GatewaySettlementEntry) :=
  settlementGroups inp (self.afterExact inp).usedGateways

def afterSettlements : State :=
  (self.settlements inp).foldl (self.settlementStep inp) (self.afterExact inp)

def afterTolerance : State :=
  inp.erp.foldl (self.toleranceStep inp) (self.afterSettlements inp)

def afterManyToOne : State :=
  inp.banks.foldl (self.manyToOneStep inp) (self.afterTolerance inp)

def afterOneToMany : State :=
  inp.erp.foldl (self.oneToManyStep inp) (self.afterManyToOne inp)

def afterAwaiting : State :=
  (self.settlements inp).foldl (self.awaitingStep inp) (self.afterOneToMany inp)

def afterUnmatched : State :=
  inp.erp.foldl unmatchedInvoiceStep
    (inp.banks.foldl unmatchedBankStep (self.afterAwaiting inp))

end ReconciliationEngine

/-! ### The engine -/

def validateUniqueSourceIds (inp : Inputs) : Except ValueError Unit :=
  let inputs := [("bank", inp.banks.map (·.sourceRecordId)),
    ("invoice", inp.erp.map (·.invoiceId)), ("gateway", inp.gateways.map (·.sourceRecordId))]
  inputs.forM fun (label, identifiers) =>
    if identifiers.length ≠ identifiers.dedup.length then
      .error ⟨label ++ " input contains duplicate canonical source IDs"⟩
    else .ok ()

/-- The three sorts at the head of `reconcile`. -/
def sortInputs (bankTransactions : List BankTransaction) (invoices : List ERPInvoice)
    (gatewayEntries : List GatewaySettlementEntry) : Inputs where
  banks := sortOn (fun item => toLex (item.bookingDate, item.sourceRecordId)) bankTransactions
  erp := sortOn (fun item => toLex (item.issueDate, item.invoiceId)) invoices
  gateways := sortOn (fun item => toLex (item.settlementDate, item.sourceRecordId)) gatewayEntries

def ReconciliationEngine.reconcile (self : ReconciliationEngine)
    (bankTransactions : List BankTransaction) (invoices : List ERPInvoice)
    (gatewayEntries : List GatewaySettlementEntry) :
    Except ValueError (List ReconciliationResult) := do
  let inp := sortInputs bankTransactions invoices gatewayEntries
  validateUniqueSourceIds inp
  return (self.afterUnmatched inp).results

end ReconcileFlow.Reconciliation
