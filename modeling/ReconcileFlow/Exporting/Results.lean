import ReconcileFlow.Reconciliation.Outcome
import ReconcileFlow.Support.DecimalFormat

/-!
# Exporting — Results

The results of the engine as rows of texts.  The ids of a source are joined with a vertical bar and
amounts are written without an exponent.  Amounts are always read back as the numbers they are; the
ids, if and only if none of them has a bar in it (`export_recovered_iff`).
-/

namespace ReconcileFlow

/-- `status.value`. -/
def ReconciliationStatus.value : ReconciliationStatus → String
  | exactMatch => "EXACT_MATCH"
  | settlementMatch => "SETTLEMENT_MATCH"
  | toleranceMatch => "TOLERANCE_MATCH"
  | manyToOneMatch => "MANY_TO_ONE_MATCH"
  | oneToManyMatch => "ONE_TO_MANY_MATCH"
  | duplicate => "DUPLICATE"
  | requiresReview => "REQUIRES_REVIEW"

end ReconcileFlow

namespace ReconcileFlow.Exporting

open Support Support.DecimalText
open Reconciliation (ReconciliationEngine ReconciliationResult Source deposit)

/-- The dictionary of one result. -/
structure ResultRow where
  resultId : String
  status : String
  rule : String
  bankSourceRecordIds : String
  erpInvoiceIds : String
  gatewaySourceRecordIds : String
  expectedAmount : Option String
  actualAmount : Option String
  amountDifference : Option String
  currency : Option String
  explanation : String
  requiresReview : Bool
deriving DecidableEq, Repr

/-- `_decimal_text`. -/
def decimalText (value : Option Decimal) : Option String :=
  value.map fun d => String.ofList (fixed d)

/-- `"|".join(ids)`. -/
def joined (ids : List String) : String := "|".intercalate ids

/-- One turn of the loop of `results_to_dicts`. -/
def resultToDict (result : ReconciliationResult) : ResultRow where
  resultId := result.resultId
  status := result.status.value
  rule := result.rule
  bankSourceRecordIds := joined result.bankSourceRecordIds
  erpInvoiceIds := joined result.erpInvoiceIds
  gatewaySourceRecordIds := joined result.gatewaySourceRecordIds
  expectedAmount := decimalText result.expectedAmount
  actualAmount := decimalText result.actualAmount
  amountDifference := decimalText result.amountDifference
  currency := result.currency
  explanation := result.explanation
  requiresReview := result.requiresReview

/-- `results_to_dicts`. -/
def resultsToDicts (results : List ReconciliationResult) : List ResultRow :=
  results.map resultToDict

/-! ### Joined ids -/

/-- The ids that a column lists; an empty column lists none. -/
def splitIds (column : String) : List String :=
  if column = "" then [] else (column.toList.splitOn '|').map String.ofList

/-- Parts of a text between its bars have no bars in them. -/
theorem not_mem_of_mem_splitOn {a : Char} {text part : List Char} (h : part ∈ text.splitOn a) :
    a ∉ part := by
  induction text generalizing part with
  | nil =>
    rw [List.splitOn_nil, List.mem_singleton] at h
    rw [h]
    exact List.not_mem_nil
  | cons c text ih =>
    rw [List.splitOn_cons_eq_if_modifyHead] at h
    split at h
    · rcases List.mem_cons.mp h with rfl | h
      · exact List.not_mem_nil
      · exact ih h
    · next hc =>
      cases hparts : text.splitOn a with
      | nil => exact absurd hparts (List.splitOn_ne_nil _ _)
      | cons first others =>
        rw [hparts] at h ih
        rcases List.mem_cons.mp h with rfl | h
        · intro ha
          rcases List.mem_cons.mp ha with rfl | ha
          · exact hc (beq_self_eq_true _)
          · exact ih List.mem_cons_self ha
        · exact ih (List.mem_cons_of_mem _ h)

theorem toList_joined (ids : List String) :
    (joined ids).toList = ['|'].intercalate (ids.map String.toList) :=
  String.toList_intercalate

/-- A column is empty only if it lists no ids. -/
theorem joined_eq_empty {ids : List String} (hids : ∀ id ∈ ids, id ≠ "") (h : joined ids = "") :
    ids = [] := by
  cases ids with
  | nil => rfl
  | cons id ids =>
    have hlist := congrArg String.toList h
    rw [toList_joined] at hlist
    cases ids with
    | nil =>
      rw [List.map_singleton, List.intercalate_singleton] at hlist
      exact absurd (String.toList_inj.mp hlist) (hids id List.mem_cons_self)
    | cons id' ids =>
      rw [List.map_cons, List.map_cons, List.intercalate_cons_cons] at hlist
      simp at hlist

/-- **When joined ids are split again**: if and only if none of them has a bar in it. -/
theorem splitIds_joined_iff {ids : List String} (hids : ∀ id ∈ ids, id ≠ "") :
    splitIds (joined ids) = ids ↔ ∀ id ∈ ids, '|' ∉ id.toList := by
  by_cases hempty : joined ids = ""
  · obtain rfl := joined_eq_empty hids hempty
    exact ⟨fun _ id hid => absurd hid List.not_mem_nil, fun _ => rfl⟩
  · rw [splitIds, if_neg hempty, toList_joined]
    constructor
    · intro hsplit id hid
      rw [← hsplit] at hid
      obtain ⟨part, hpart, rfl⟩ := List.mem_map.mp hid
      rw [String.toList_ofList]
      exact not_mem_of_mem_splitOn hpart
    · intro hbar
      have hne : ids.map String.toList ≠ [] := by
        intro hnil
        rw [List.map_eq_nil_iff.mp hnil] at hempty
        exact hempty rfl
      rw [List.splitOn_intercalate '|' (List.forall_mem_map.mpr hbar) hne, List.map_map]
      exact (List.map_congr_left fun id _ => String.ofList_toList).trans (List.map_id ids)

/-! ### Reading a row back -/

/-- The three amounts of a result. -/
inductive Amount
  | expected | actual | difference
deriving DecidableEq, Repr

def amountOf (result : ReconciliationResult) : Amount → Option Decimal
  | .expected => result.expectedAmount
  | .actual => result.actualAmount
  | .difference => result.amountDifference

namespace ResultRow

/-- The column of the ids of a source. -/
def ids (row : ResultRow) : Source → String
  | .bank => row.bankSourceRecordIds
  | .erp => row.erpInvoiceIds
  | .gateway => row.gatewaySourceRecordIds

def amount (row : ResultRow) : Amount → Option String
  | .expected => row.expectedAmount
  | .actual => row.actualAmount
  | .difference => row.amountDifference

end ResultRow

/-- The text is read as the number; with its exponent too, unless that is positive. -/
def ReadsAs (other : Char → Option (Fin 10)) (amount : Decimal) (text : String) : Prop :=
  ∃ d, parse other text.toList = some (.finite d) ∧ d.toRat = amount.toRat ∧
    (amount.exponent ≤ 0 → d = amount)

/-- The row gives the ids of a result, in order, and its amounts. -/
structure Recovers (other : Char → Option (Fin 10)) (result : ReconciliationResult)
    (row : ResultRow) : Prop where
  ids : ∀ source, splitIds (row.ids source) = result.ids source
  amounts : ∀ amount, Option.Rel (ReadsAs other) (amountOf result amount) (row.amount amount)

theorem ids_resultToDict (result : ReconciliationResult) (source : Source) :
    (resultToDict result).ids source = joined (result.ids source) := by
  cases source <;> rfl

theorem amount_resultToDict (result : ReconciliationResult) (amount : Amount) :
    (resultToDict result).amount amount = decimalText (amountOf result amount) := by
  cases amount <;> rfl

/-- An amount is read back as the number that it is. -/
theorem readsAs_decimalText (other : Char → Option (Fin 10)) {value : Option Decimal}
    (hrange : ∀ d, value = some d → inRange d = true) :
    Option.Rel (ReadsAs other) value (decimalText value) := by
  cases value with
  | none => exact .none
  | some d =>
    refine .some ⟨fixedNumber d, ?_, toRat_fixedNumber d, fixedNumber_of_nonpos⟩
    rw [String.toList_ofList]
    exact parse_fixed other (hrange d rfl)

theorem recovers_resultToDict_iff (other : Char → Option (Fin 10)) {result : ReconciliationResult}
    (hids : ∀ source, ∀ id ∈ result.ids source, isText id = true)
    (hrange : ∀ amount d, amountOf result amount = some d → inRange d = true) :
    Recovers other result (resultToDict result) ↔
      ∀ source, ∀ id ∈ result.ids source, '|' ∉ id.toList := by
  have hne {source : Source} : ∀ id ∈ result.ids source, id ≠ "" := by
    rintro id hid rfl
    cases hids source _ hid
  constructor
  · intro hrecovers source
    have hsplit := hrecovers.ids source
    rw [ids_resultToDict] at hsplit
    exact (splitIds_joined_iff hne).mp hsplit
  · intro hbar
    refine ⟨fun source => ?_, fun amount => ?_⟩
    · rw [ids_resultToDict]
      exact (splitIds_joined_iff hne).mpr (hbar source)
    · rw [amount_resultToDict]
      exact readsAs_decimalText other (hrange amount)

/-- **When exported results can be read back**: if and only if no id of theirs has a bar in it. -/
theorem export_recovered_iff (other : Char → Option (Fin 10)) (results : List ReconciliationResult)
    (hids : ∀ result ∈ results, ∀ source, ∀ id ∈ result.ids source, isText id = true)
    (hrange : ∀ result ∈ results, ∀ amount d, amountOf result amount = some d →
      inRange d = true) :
    List.Forall₂ (Recovers other) results (resultsToDicts results) ↔
      ∀ result ∈ results, ∀ source, ∀ id ∈ result.ids source, '|' ∉ id.toList := by
  rw [resultsToDicts, List.forall₂_map_right_iff, List.forall₂_same]
  refine forall₂_congr fun result hresult => ?_
  exact recovers_resultToDict_iff other (hids result hresult) (hrange result hresult)

/-- The deposit under an id with a bar in it. -/
def barredDeposit : BankTransaction :=
  { deposit with sourceRecordId := "B|1", sourceRecordId_text := by decide }

/-- What the engine returns for it alone. -/
def barredResults : List ReconciliationResult :=
  Reconciliation.number [ReconciliationEngine.unmatchedBankResult barredDeposit]

theorem reconcile_barred :
    (⟨.ascii, {}⟩ : ReconciliationEngine).reconcile [barredDeposit] [] [] = .ok barredResults := by
  decide +kernel

theorem export_recovered_barred :
    List.Forall₂ (Recovers fun _ => none) barredResults (resultsToDicts barredResults) ↔
      ∀ result ∈ barredResults, ∀ source, ∀ id ∈ result.ids source, '|' ∉ id.toList := by
  refine export_recovered_iff _ _ (fun result hresult source id hid => ?_)
    fun result hresult amount d hd => ?_
  · obtain rfl := List.mem_singleton.mp hresult
    cases source with
    | bank =>
      obtain rfl := List.mem_singleton.mp hid
      decide
    | erp => exact absurd hid List.not_mem_nil
    | gateway => exact absurd hid List.not_mem_nil
  · obtain rfl := List.mem_singleton.mp hresult
    cases amount with
    | expected => cases hd
    | actual =>
      obtain rfl := Option.some.inj hd
      decide
    | difference => cases hd

/-- The id of a deposit is exported as two ids. -/
theorem barred_id_split :
    (⟨.ascii, {}⟩ : ReconciliationEngine).reconcile [barredDeposit] [] [] = .ok barredResults ∧
      ¬ List.Forall₂ (Recovers fun _ => none) barredResults (resultsToDicts barredResults) := by
  refine ⟨reconcile_barred, fun h => ?_⟩
  have hids := (List.forall₂_cons.mp h).1.ids .bank
  revert hids
  decide +kernel

end ReconcileFlow.Exporting
