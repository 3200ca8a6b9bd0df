import ReconcileFlow.Support.Decimal

/-!
# Models

The normalised financial records: bank transactions, ERP invoices and gateway settlement entries,
each with the fields the reconciliation rules read or that say whether a document represents money
(its type and status), and with what its validation guarantees.

Texts are compared as sequences of characters.  A date is its proleptic ordinal.
-/

namespace ReconcileFlow

open Support (Decimal)

/-- A calendar date, as its ordinal. -/
abbrev Date := Int

inductive CreditDebitIndicator
  | credit | debit
deriving DecidableEq, Repr

inductive BankTransactionStatus
  | booked | pending | reversed | cancelled
deriving DecidableEq, Repr

inductive InvoiceType
  | invoice | creditNote | debitNote | proforma
deriving DecidableEq, Repr

inductive InvoiceStatus
  | draft | open | partiallyPaid | paid | void | overdue
deriving DecidableEq, Repr

inductive GatewayStatus
  | pending | available | paid | failed | reversed
deriving DecidableEq, Repr

inductive ReconciliationStatus
  | exactMatch | settlementMatch | toleranceMatch | manyToOneMatch | oneToManyMatch | duplicate
  | requiresReview
deriving DecidableEq, Repr

/-- `c.isspace()`. -/
def isSpace (c : Char) : Bool :=
  let n := c.toNat
  (9 ≤ n && n ≤ 13) || (28 ≤ n && n ≤ 32) || (8192 ≤ n && n ≤ 8202) ||
    [133, 160, 5760, 8232, 8233, 8239, 8287, 12288].contains n

/-- `not value.strip()`. -/
def isBlank (value : String) : Bool := value.toList.all isSpace

/-- What `require_text` returns: a text that is not blank, without spaces around it. -/
def isText (value : String) : Bool :=
  (value.toList.head?.any fun c => !isSpace c) && (value.toList.getLast?.any fun c => !isSpace c)

/-- `value.strip()`. -/
def strip (value : String) : String :=
  String.ofList ((value.toList.dropWhile isSpace).reverse.dropWhile isSpace).reverse

/-- What `require_currency` accepts: three uppercase ASCII letters. -/
def isCurrencyCode (value : String) : Bool :=
  value.length == 3 && value.toList.all fun c => decide ('A' ≤ c) && decide (c ≤ 'Z')

/-- What `require_decimal` accepts of a finite number, by the two flags. -/
def isAmount (value : Decimal) (allowNegative allowZero : Bool) : Bool :=
  (allowNegative || !value.lt (.ofInt 0)) && (allowZero || !value.numEq (.ofInt 0))

@[simp] theorem isBlank_append (a b : String) : isBlank (a ++ b) = (isBlank a && isBlank b) := by
  simp [isBlank]

theorem strip_of_isText {value : String} (h : isText value = true) : strip value = value := by
  obtain ⟨hhead, hlast⟩ := Bool.and_eq_true_iff.mp h
  have hfront : value.toList.dropWhile isSpace = value.toList := by
    cases hl : value.toList with
    | nil => rfl
    | cons c l =>
        rw [hl] at hhead
        exact List.dropWhile_cons_of_neg (by simpa using hhead)
  have hback : value.toList.reverse.dropWhile isSpace = value.toList.reverse := by
    rw [← List.head?_reverse] at hlast
    cases hl : value.toList.reverse with
    | nil => rfl
    | cons c l =>
        rw [hl] at hlast
        exact List.dropWhile_cons_of_neg (by simpa using hlast)
  rw [strip, hfront, hback, List.reverse_reverse, String.ofList_toList]

theorem all_of_dropWhile {α : Type*} {p : α → Bool} {l : List α}
    (h : (l.dropWhile p).all p = true) : l.all p = true := by
  induction l with
  | nil => rfl
  | cons a l ih =>
    by_cases ha : p a = true
    · rw [List.dropWhile_cons_of_pos ha] at h
      rw [List.all_cons, ha, ih h]
      rfl
    · rw [List.dropWhile_cons_of_neg ha] at h
      exact h

/-- What is dropped is dropped by the predicate. -/
theorem mem_dropWhile_iff {α : Type*} {p : α → Bool} {l : List α} {a : α} (ha : p a = false) :
    a ∈ l.dropWhile p ↔ a ∈ l := by
  induction l with
  | nil => exact Iff.rfl
  | cons b l ih =>
    by_cases hb : p b = true
    · have hne : a ≠ b := by
        rintro rfl
        rw [hb] at ha
        cases ha
      rw [List.dropWhile_cons_of_pos hb, ih, List.mem_cons, or_iff_right hne]
    · rw [List.dropWhile_cons_of_neg hb]

/-- Stripping leaves something of a text that is not blank. -/
theorem isBlank_strip {value : String} (h : isBlank value = false) :
    isBlank (strip value) = false := by
  by_contra hstrip
  simp only [isBlank, strip, String.toList_ofList, List.all_reverse, Bool.not_eq_false] at hstrip
  have hback := all_of_dropWhile hstrip
  rw [List.all_reverse] at hback
  have hall : isBlank value = true := all_of_dropWhile hback
  rw [h] at hall
  cases hall

theorem length_strip_le (value : String) : (strip value).length ≤ value.length := by
  have hback := ((value.toList.dropWhile isSpace).reverse.dropWhile_sublist isSpace).length_le
  have hfront := (value.toList.dropWhile_sublist isSpace).length_le
  rw [List.length_reverse] at hback
  rw [strip, String.length_ofList, List.length_reverse, ← String.length_toList]
  exact hback.trans hfront

structure BankTransaction where
  sourceRecordId : String
  transactionId : String
  bookingDate : Date
  amount : Decimal
  currency : String
  creditDebitIndicator : CreditDebitIndicator
  status : BankTransactionStatus
  description : String
  endToEndId : Option String := none
  remittanceInformation : Option String := none
  invoiceReference : Option String := none
  customerReference : Option String := none
  bankReference : Option String := none
  isReversal : Bool := false
  sourceRecordId_text : isText sourceRecordId = true := by decide
  transactionId_text : isText transactionId = true := by decide
  description_text : isText description = true := by decide
  amount_valid : isAmount amount false false = true := by decide
  currency_valid : isCurrencyCode currency = true := by decide
deriving DecidableEq

structure ERPInvoice where
  invoiceId : String
  invoiceNumber : String
  invoiceType : InvoiceType
  status : InvoiceStatus
  issueDate : Date
  currency : String
  amountDue : Decimal
  dueDate : Option Date := none
  paymentReference : Option String := none
  invoiceId_text : isText invoiceId = true := by decide
  invoiceNumber_text : isText invoiceNumber = true := by decide
  amountDue_valid : isAmount amountDue false true = true := by decide
  currency_valid : isCurrencyCode currency = true := by decide
deriving DecidableEq

structure GatewaySettlementEntry where
  sourceRecordId : String
  settlementId : String
  status : GatewayStatus
  settlementDate : Date
  grossAmount : Decimal
  netAmount : Decimal
  currency : String
  settlementCurrency : String
  invoiceReference : Option String := none
  bankReference : Option String := none
  sourceRecordId_text : isText sourceRecordId = true := by decide
  settlementId_text : isText settlementId = true := by decide
  grossAmount_valid : isAmount grossAmount false true = true := by decide
  currency_valid : isCurrencyCode currency = true := by decide
  settlementCurrency_valid : isCurrencyCode settlementCurrency = true := by decide
deriving DecidableEq

end ReconcileFlow
