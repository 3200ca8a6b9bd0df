import ReconcileFlow.Reconciliation.Accounts

/-!
# Reconciliation — Leftovers

What is left when the rules are through.  The second rule takes up each invoice once, in order.
When it comes to an invoice for which several unused entries are exact, it passes it over, and it
does not come back when a later invoice or a later rule uses all of them but one.  So an entry and
an invoice may both be left though they match exactly: only if, when the invoice's turn came, there
was another such entry, and that entry was then used without the invoice (`reconcile_leftovers`).
-/

namespace ReconcileFlow.Reconciliation

open Support ReconciliationEngine

namespace ReconciliationEngine

/-- What the second rule asks of an entry and an invoice, in whatever state. -/
def ExactPair (self : ReconciliationEngine) (bank : BankTransaction) (invoice : ERPInvoice) :
    Prop :=
  eligible bank = true ∧ bank.currency = invoice.currency ∧
    bank.amount.numEq invoice.amountDue = true ∧ mentions self.runtime bank invoice = true ∧
    withinDays bank invoice self.config.dateToleranceDays = true

instance (self : ReconciliationEngine) (bank : BankTransaction) (invoice : ERPInvoice) :
    Decidable (self.ExactPair bank invoice) :=
  inferInstanceAs (Decidable (_ ∧ _))

variable {self : ReconciliationEngine} {inp : Inputs} {s : State} {v : ResultValues}

theorem mem_exactCandidates_iff {invoice : ERPInvoice} {bank : BankTransaction} :
    bank ∈ self.exactCandidates inp s invoice ↔
      bank ∈ inp.banks ∧ bank.sourceRecordId ∉ s.usedBanks ∧ self.ExactPair bank invoice :=
  mem_exactCandidates

/-! ### Used ids stay used -/

theorem used_takeOption {i : String} {source : Source} (o : Option ResultValues)
    (h : i ∈ s.used source) : i ∈ (s.takeOption o).used source := by
  cases o with
  | none => exact h
  | some v => exact State.used_take s v source ▸ List.mem_append_left _ h

theorem used_foldl {α : Type} {i : String} {source : Source}
    (emits : State → α → Option ResultValues) (xs : List α) (h : i ∈ s.used source) :
    i ∈ (xs.foldl (fun s x => s.takeOption (emits s x)) s).used source := by
  induction xs generalizing s with
  | nil => exact h
  | cons x xs ih => exact ih (used_takeOption _ h)

/-- What the exact matches use stays used. -/
theorem used_afterAwaiting_of_afterExact {i : String} {source : Source}
    (h : i ∈ (self.afterExact inp).used source) : i ∈ (self.afterAwaiting inp).used source := by
  rw [afterAwaiting, awaitingStep_eq, afterOneToMany, oneToManyStep_eq, afterManyToOne,
    manyToOneStep_eq, afterTolerance, toleranceStep_eq, afterSettlements, settlementStep_eq]
  exact used_foldl _ _ (used_foldl _ _ (used_foldl _ _ (used_foldl _ _ (used_foldl _ _ h))))

/-- What is used before or by a turn of the second rule stays used. -/
theorem used_afterAwaiting_of_visit {w : State × ERPInvoice}
    (hw : w ∈ visits (self.exactStep inp) (self.afterDuplicates inp) inp.erp) {i : String}
    {source : Source} (h : i ∈ (self.exactStep inp w.1 w.2).used source) :
    i ∈ (self.afterAwaiting inp).used source := by
  refine used_afterAwaiting_of_afterExact ?_
  refine foldl_of_visit (fun s : State => i ∈ s.used source) (fun s invoice hi => ?_) hw h
  rw [exactStep_eq]
  exact used_takeOption _ hi

/-- A turn that finds one exact entry for an unused invoice uses the invoice. -/
theorem used_exactStep {invoice : ERPInvoice} {bank : BankTransaction}
    (hnew : invoice.invoiceId ∉ s.usedInvoices)
    (hone : self.exactCandidates inp s invoice = [bank]) :
    invoice.invoiceId ∈ (self.exactStep inp s invoice).usedInvoices := by
  have hstep : self.exactStep inp s invoice =
      ((s.useBanks [bank.sourceRecordId]).useInvoices [invoice.invoiceId]).add
        (exactResult bank invoice) := by
    rw [exactStep, if_neg hnew, hone]
    rfl
  rw [hstep]
  exact List.mem_append_right _ (List.mem_singleton_self _)

/-! ### The records that are left -/

/-- The first seven rules leave no record under a rule of the eighth. -/
theorem rule_of_mem_afterAwaiting (hv : v ∈ (self.afterAwaiting inp).values) :
    v.rule ≠ "UNMATCHED_BANK_TRANSACTION" ∧ v.rule ≠ "UNMATCHED_ERP_INVOICE" := by
  rcases mem_values_afterAwaiting.mp hv with ⟨w, -, h⟩ | ⟨w, -, h⟩ | ⟨w, -, h⟩ | ⟨w, -, h⟩ |
    ⟨w, -, h⟩ | ⟨w, -, h⟩ | ⟨w, -, h⟩
  · obtain ⟨-, rfl⟩ := duplicateEmits_eq_some.mp h
    exact ⟨by simp [duplicateResult], by simp [duplicateResult]⟩
  · obtain ⟨-, bank, -, rfl⟩ := exactEmits_spec h
    exact ⟨by simp [exactResult], by simp [exactResult]⟩
  · obtain ⟨bank, -, rfl⟩ := settlementEmits_eq_some.mp h
    exact ⟨by simp [settlementResult], by simp [settlementResult]⟩
  · obtain ⟨-, bank, -, rfl⟩ := toleranceEmits_spec h
    exact ⟨by simp [toleranceResult], by simp [toleranceResult]⟩
  · obtain ⟨-, -, chosen, -, -, rfl⟩ := manyToOneEmits_spec h
    exact ⟨by simp [manyToOneResult], by simp [manyToOneResult]⟩
  · obtain ⟨-, chosen, -, -, rfl⟩ := oneToManyEmits_spec h
    exact ⟨by simp [oneToManyResult], by simp [oneToManyResult]⟩
  · obtain ⟨first, rest, -, rfl⟩ := awaitingEmits_eq_some.mp h
    exact ⟨by simp [awaitingResult], by simp [awaitingResult]⟩

/-- A bank entry has its unmatched result when it is unused at the end. -/
theorem unmatchedBank_mem_iff {bank : BankTransaction} (hbank : bank ∈ inp.banks) :
    unmatchedBankResult bank ∈ (self.afterUnmatched inp).values ↔
      bank.sourceRecordId ∉ (self.afterAwaiting inp).usedBanks := by
  rw [mem_values_afterUnmatched]
  constructor
  · rintro (hv | ⟨other, hother, hunused, heq⟩ | ⟨invoice, -, -, heq⟩)
    · exact absurd rfl (rule_of_mem_afterAwaiting hv).1
    · have hid : [other.sourceRecordId] = [bank.sourceRecordId] :=
        congrArg ResultValues.bankSourceRecordIds heq
      rwa [← List.head_eq_of_cons_eq hid]
    · exact absurd (congrArg ResultValues.erpInvoiceIds heq) (List.cons_ne_nil _ _)
  · exact fun hunused => .inr (.inl ⟨bank, hbank, hunused, rfl⟩)

/-- An invoice has its unmatched result when it is unused at the end. -/
theorem unmatchedInvoice_mem_iff {invoice : ERPInvoice} (hinvoice : invoice ∈ inp.erp) :
    unmatchedInvoiceResult invoice ∈ (self.afterUnmatched inp).values ↔
      invoice.invoiceId ∉ (self.afterAwaiting inp).usedInvoices := by
  rw [mem_values_afterUnmatched]
  constructor
  · rintro (hv | ⟨bank, -, -, heq⟩ | ⟨other, hother, hunused, heq⟩)
    · exact absurd rfl (rule_of_mem_afterAwaiting hv).2
    · exact absurd (congrArg ResultValues.bankSourceRecordIds heq) (List.cons_ne_nil _ _)
    · have hid : [other.invoiceId] = [invoice.invoiceId] :=
        congrArg ResultValues.erpInvoiceIds heq
      rwa [← List.head_eq_of_cons_eq hid]
  · exact fun hunused => .inr (.inr ⟨invoice, hinvoice, hunused, rfl⟩)

/-- **A pair that is left had a rival.**  If an exact pair is unused at the end, another entry was
an exact candidate when the invoice's turn came. -/
theorem exists_rival (hids : ∀ source, (inp.ids source).Nodup) {bank : BankTransaction}
    {invoice : ERPInvoice} (hbank : bank ∈ inp.banks) (hinvoice : invoice ∈ inp.erp)
    (hpair : self.ExactPair bank invoice)
    (hb : bank.sourceRecordId ∉ (self.afterAwaiting inp).usedBanks)
    (hi : invoice.invoiceId ∉ (self.afterAwaiting inp).usedInvoices) :
    ∃ t, (t, invoice) ∈ visits (self.exactStep inp) (self.afterDuplicates inp) inp.erp ∧
      ∃ other ∈ self.exactCandidates inp t invoice, other ≠ bank := by
  obtain ⟨t, ht⟩ := exists_visit (f := self.exactStep inp) hinvoice (self.afterDuplicates inp)
  have hlast (source : Source) {i : String} :
      i ∈ (self.exactStep inp t invoice).used source → i ∈ (self.afterAwaiting inp).used source :=
    fun h => used_afterAwaiting_of_visit ht h
  have hkept (source : Source) {i : String} : i ∈ t.used source →
      i ∈ (self.exactStep inp t invoice).used source := fun h => by
    rw [exactStep_eq]
    exact used_takeOption _ h
  have hunused : bank.sourceRecordId ∉ t.usedBanks := fun h =>
    hb (hlast .bank (hkept .bank h))
  have hnew : invoice.invoiceId ∉ t.usedInvoices := fun h =>
    hi (hlast .erp (hkept .erp h))
  have hmem : bank ∈ self.exactCandidates inp t invoice :=
    mem_exactCandidates_iff.mpr ⟨hbank, hunused, hpair⟩
  have hnodup : (self.exactCandidates inp t invoice).Nodup :=
    (List.Nodup.of_map _ (hids .bank)).filter _
  refine ⟨t, ht, ?_⟩
  -- were the entry the only candidate, the turn would have used the invoice
  by_contra hnone
  have hall : ∀ other ∈ self.exactCandidates inp t invoice, other = bank := fun other hother => by
    by_contra hne
    exact hnone ⟨other, hother, hne⟩
  have hone := only_eq_some.mp ((only_eq_some_iff_forall hnodup).mpr ⟨hmem, hall⟩)
  exact hi (hlast .erp (used_exactStep hnew hone))

end ReconciliationEngine

/-- **When an exact pair is left.**  Suppose an eligible bank entry and an invoice, which match
exactly, both end unmatched, and the entry is the only unmatched one that does so.  Then, when the
second rule came to the invoice, another entry matched exactly too and was still unused; and some
rule used that entry later, in a result without the invoice. -/
theorem reconcile_leftovers (self : ReconciliationEngine) (banks : List BankTransaction)
    (erp : List ERPInvoice) (gateways : List GatewaySettlementEntry)
    {results : List ReconciliationResult} (h : self.reconcile banks erp gateways = .ok results)
    {bank : BankTransaction} {invoice : ERPInvoice} (hbank : bank ∈ banks)
    (hinvoice : invoice ∈ erp) (hpair : self.ExactPair bank invoice)
    (hb : unmatchedBankResult bank ∈ valuesOf results)
    (hi : unmatchedInvoiceResult invoice ∈ valuesOf results)
    (honly : ∀ other ∈ banks, unmatchedBankResult other ∈ valuesOf results →
      self.ExactPair other invoice → other = bank) :
    let inp := sortInputs banks erp gateways
    ∃ t, (t, invoice) ∈ visits (self.exactStep inp) (self.afterDuplicates inp) inp.erp ∧
      ∃ other ∈ self.exactCandidates inp t invoice, other ≠ bank ∧
        ∃ v ∈ valuesOf results, other.sourceRecordId ∈ v.bankSourceRecordIds ∧
          v.rule ≠ "UNMATCHED_BANK_TRANSACTION" ∧ invoice.invoiceId ∉ v.erpInvoiceIds := by
  intro inp
  rcases self.reconcile_cases banks erp gateways with ⟨hids, hok⟩ | ⟨source, -, herror⟩
  · have hsorted : ∀ source, (inp.ids source).Nodup := fun source =>
      (ids_sortInputs_perm banks erp gateways source).nodup_iff.mpr (hids source)
    obtain rfl : (self.afterUnmatched inp).results = results := Except.ok.inj (hok.symm.trans h)
    have hbank : bank ∈ inp.banks := (mem_sortOn _).mpr hbank
    have hinvoice : invoice ∈ inp.erp := (mem_sortOn _).mpr hinvoice
    have hi := (unmatchedInvoice_mem_iff hinvoice).mp hi
    obtain ⟨t, ht, other, hother, hne⟩ := exists_rival hsorted hbank hinvoice hpair
      ((unmatchedBank_mem_iff hbank).mp hb) hi
    obtain ⟨hmem, -, hexact⟩ := mem_exactCandidates_iff.mp hother
    -- the rival does not end unmatched, so a result of the first seven rules lists it
    have hused : other.sourceRecordId ∈ (self.afterAwaiting inp).used .bank := by
      by_contra hunused
      exact hne (honly other ((mem_sortOn _).mp hmem) ((unmatchedBank_mem_iff hmem).mpr hunused) hexact)
    have haccounted := self.accounted_afterAwaiting hsorted
    rw [haccounted.used .bank, List.mem_flatten] at hused
    obtain ⟨ids, hids, hid⟩ := hused
    obtain ⟨v, hv, rfl⟩ := List.mem_map.mp hids
    refine ⟨t, ht, other, hother, hne, v, mem_values_afterUnmatched.mpr (.inl hv), hid,
      (rule_of_mem_afterAwaiting hv).1, fun hlisted => hi ?_⟩
    change invoice.invoiceId ∈ (self.afterAwaiting inp).used .erp
    rw [haccounted.used .erp]
    exact List.mem_flatten.mpr ⟨_, List.mem_map_of_mem hv, hlisted⟩
  · cases herror.symm.trans h

/-! ### Two payments, one of them for two invoices -/

/-- A credit of 100 EUR for the invoices `INV-1` and `INV-2`. -/
def jointDeposit : BankTransaction :=
  { deposit with
    sourceRecordId := "B-2", sourceRecordId_text := .refl true
    transactionId := "T-2", transactionId_text := .refl true
    description := "Payment of INV-1 and INV-2", description_text := by decide }

/-- The invoice `INV-2` of 100 EUR. -/
def secondInvoice : ERPInvoice :=
  { depositInvoice with
    invoiceId := "INV-2", invoiceId_text := by decide
    invoiceNumber := "2024-002", invoiceNumber_text := by decide }

/-- `INV-1` is passed over, since both payments name it; `INV-2` then takes the joint one. -/
theorem reconcile_leftovers_jointDeposit :
    ∃ t, (t, depositInvoice) ∈ visits
        ((⟨.ascii, {}⟩ : ReconciliationEngine).exactStep
          (sortInputs [deposit, jointDeposit] [depositInvoice, secondInvoice] []))
        ((⟨.ascii, {}⟩ : ReconciliationEngine).afterDuplicates
          (sortInputs [deposit, jointDeposit] [depositInvoice, secondInvoice] []))
        (sortInputs [deposit, jointDeposit] [depositInvoice, secondInvoice] []).erp ∧
      ∃ other ∈ (⟨.ascii, {}⟩ : ReconciliationEngine).exactCandidates
          (sortInputs [deposit, jointDeposit] [depositInvoice, secondInvoice] []) t depositInvoice,
        other ≠ deposit ∧
        ∃ v ∈ valuesOf ((⟨.ascii, {}⟩ : ReconciliationEngine).afterUnmatched
            (sortInputs [deposit, jointDeposit] [depositInvoice, secondInvoice] [])).results,
          other.sourceRecordId ∈ v.bankSourceRecordIds ∧
            v.rule ≠ "UNMATCHED_BANK_TRANSACTION" ∧
            depositInvoice.invoiceId ∉ v.erpInvoiceIds :=
  reconcile_leftovers ⟨.ascii, {}⟩ [deposit, jointDeposit] [depositInvoice, secondInvoice] [] rfl
    (by decide) (by decide) (by decide +kernel) (by decide +kernel) (by decide +kernel)
    (by decide +kernel)

/-- The payment of `INV-1` and `INV-1` are left, an exact pair. -/
theorem exact_pair_left :
    ¬ ∀ results, (⟨.ascii, {}⟩ : ReconciliationEngine).reconcile [deposit, jointDeposit]
        [depositInvoice, secondInvoice] [] = .ok results →
      ¬ ∃ bank ∈ [deposit, jointDeposit], ∃ invoice ∈ [depositInvoice, secondInvoice],
        (⟨.ascii, {}⟩ : ReconciliationEngine).ExactPair bank invoice ∧
          unmatchedBankResult bank ∈ valuesOf results ∧
          unmatchedInvoiceResult invoice ∈ valuesOf results ∧
          ∀ other ∈ [deposit, jointDeposit], unmatchedBankResult other ∈ valuesOf results →
            (⟨.ascii, {}⟩ : ReconciliationEngine).ExactPair other invoice → other = bank := by
  intro h
  have hnone := h _ rfl
  revert hnone
  decide +kernel

end ReconcileFlow.Reconciliation
