import ReconcileFlow.Reconciliation.Groups

/-!
# Reconciliation — Documents

The documents that automatic matches list.  A bank entry is matched only when its status says that
it was booked (`eligible`).  The rules ask nothing of the kind of an invoice or a gateway entry: a
void invoice or a failed payout is matched like any other.  `reconcile_documents_iff` says when all
automatic matches are of invoices that are receivable and entries that were paid out: when none of
the five matching rules ever takes up others in a state in which it can match them.
-/

namespace ReconcileFlow

/-- A document of money receivable: neither a credit note nor a proforma, nor a draft or void. -/
def ERPInvoice.isReceivable (invoice : ERPInvoice) : Bool :=
  decide (invoice.invoiceType ≠ .creditNote) && decide (invoice.invoiceType ≠ .proforma) &&
    decide (invoice.status ≠ .draft) && decide (invoice.status ≠ .void)

/-- An entry that neither failed nor was reversed. -/
def GatewaySettlementEntry.isPayable (entry : GatewaySettlementEntry) : Bool :=
  decide (entry.status ≠ .failed) && decide (entry.status ≠ .reversed)

end ReconcileFlow

namespace ReconcileFlow.Reconciliation

open Support ReconciliationEngine

/-- A result that needs no review lists only receivable invoices and payable entries. -/
def Documented (erp : List ERPInvoice) (gateways : List GatewaySettlementEntry)
    (v : ResultValues) : Prop :=
  v.requiresReview = false →
    (∀ invoice ∈ erp, invoice.invoiceId ∈ v.erpInvoiceIds → invoice.isReceivable = true) ∧
      ∀ entry ∈ gateways, entry.sourceRecordId ∈ v.gatewaySourceRecordIds →
        entry.isPayable = true

instance (erp : List ERPInvoice) (gateways : List GatewaySettlementEntry) (v : ResultValues) :
    Decidable (Documented erp gateways v) :=
  inferInstanceAs (Decidable (_ → _))

namespace ReconciliationEngine

variable (self : ReconciliationEngine) (inp : Inputs)

/-- In no state in which a matching rule can match what it takes up is a document among it that is
not receivable, or not payable. -/
structure OnlyDocuments : Prop where
  /-- An unused invoice with one exact candidate. -/
  exact : ∀ w ∈ visits (self.exactStep inp) (self.afterDuplicates inp) inp.erp,
    w.2.invoiceId ∉ w.1.usedInvoices → (self.exactCandidates inp w.1 w.2).length = 1 →
    w.2.isReceivable = true
  /-- A group with one candidate payout, and the unused invoices of its gross amount. -/
  settlement : ∀ w ∈ visits (self.settlementStep inp) (self.afterExact inp) (self.settlements inp),
    (self.settlementCandidates inp w.1 w.2).length = 1 →
    (∀ invoice ∈ self.settlementLinks inp w.1 w.2, invoice.isReceivable = true) ∧
      ∀ entry ∈ w.2.members, entry.isPayable = true
  /-- An unused invoice with one candidate within the tolerance. -/
  tolerance : ∀ w ∈ visits (self.toleranceStep inp) (self.afterSettlements inp) inp.erp,
    w.2.invoiceId ∉ w.1.usedInvoices → (self.toleranceCandidates inp w.1 w.2).length = 1 →
    w.2.isReceivable = true
  /-- An unused entry, and the group of candidate invoices that totals its amount. -/
  manyToOne : ∀ w ∈ visits (self.manyToOneStep inp) (self.afterTolerance inp) inp.banks,
    w.2.sourceRecordId ∉ w.1.usedBanks → eligible w.2 = true → ∀ chosen,
    self.SmallestOnly ERPInvoice.amountDue (self.manyToOneCandidates inp w.1 w.2) w.2.amount
      chosen → ∀ invoice ∈ chosen, invoice.isReceivable = true
  /-- An unused invoice that a group of candidate entries totals. -/
  oneToMany : ∀ w ∈ visits (self.oneToManyStep inp) (self.afterManyToOne inp) inp.erp,
    w.2.invoiceId ∉ w.1.usedInvoices → ∀ chosen,
    self.SmallestOnly BankTransaction.amount (self.oneToManyCandidates inp w.1 w.2)
      w.2.amountDue chosen → w.2.isReceivable = true

variable {self inp} {s : State} {v : ResultValues}

/-- The documents of a result that needs no review are the records that it lists. -/
theorem documented_iff (hids : ∀ source, (inp.ids source).Nodup) {recs : Inputs}
    (h : Lists inp v recs) (hreview : v.requiresReview = false) :
    Documented inp.erp inp.gateways v ↔
      (∀ invoice ∈ recs.erp, invoice.isReceivable = true) ∧
        ∀ entry ∈ recs.gateways, entry.isPayable = true := by
  have herp : v.erpInvoiceIds = recs.erp.map (·.invoiceId) := h.ids .erp
  have hgateways : v.gatewaySourceRecordIds = recs.gateways.map (·.sourceRecordId) :=
    h.ids .gateway
  constructor
  · intro hdocuments
    obtain ⟨hinvoices, hentries⟩ := hdocuments hreview
    constructor
    · exact fun invoice hi => hinvoices invoice (h.erp invoice hi)
        (herp ▸ List.mem_map_of_mem hi)
    · exact fun entry he => hentries entry (h.gateways entry he)
        (hgateways ▸ List.mem_map_of_mem he)
  · rintro ⟨hinvoices, hentries⟩ -
    constructor
    · exact fun invoice hi hid => hinvoices invoice
        (mem_of_id_mem (hids .erp) h.erp hi (herp ▸ hid))
    · exact fun entry he hid => hentries entry
        (mem_of_id_mem (hids .gateway) h.gateways he (hgateways ▸ hid))

theorem documented_pair_iff (hids : ∀ source, (inp.ids source).Nodup) {bank : BankTransaction}
    {invoice : ERPInvoice} (h : Lists inp v ⟨[bank], [invoice], []⟩)
    (hreview : v.requiresReview = false) :
    Documented inp.erp inp.gateways v ↔ invoice.isReceivable = true := by
  simp only [documented_iff hids h hreview, List.forall_mem_singleton, List.not_mem_nil,
    false_imp_iff, implies_true, and_true]

/-- The automatic matches are those of the five matching rules. -/
theorem emitted_of_not_review (hv : v ∈ (self.afterUnmatched inp).values)
    (hreview : v.requiresReview = false) :
    v.status ≠ .duplicate ∧ v.status ≠ .requiresReview := by
  rcases mem_values_afterUnmatched.mp hv with hv | ⟨bank, -, -, rfl⟩ | ⟨invoice, -, -, rfl⟩
  · rcases mem_values_afterAwaiting.mp hv with ⟨w, -, h⟩ | ⟨w, -, h⟩ | ⟨w, -, h⟩ | ⟨w, -, h⟩ |
      ⟨w, -, h⟩ | ⟨w, -, h⟩ | ⟨w, -, h⟩
    · obtain ⟨-, rfl⟩ := duplicateEmits_eq_some.mp h
      cases hreview
    · obtain ⟨-, bank, -, rfl⟩ := exactEmits_spec h
      exact ⟨nofun, nofun⟩
    · obtain ⟨bank, -, rfl⟩ := settlementEmits_eq_some.mp h
      exact ⟨nofun, nofun⟩
    · obtain ⟨-, bank, -, rfl⟩ := toleranceEmits_spec h
      exact ⟨nofun, nofun⟩
    · obtain ⟨-, -, chosen, -, -, rfl⟩ := manyToOneEmits_spec h
      exact ⟨nofun, nofun⟩
    · obtain ⟨-, chosen, -, -, rfl⟩ := oneToManyEmits_spec h
      exact ⟨nofun, nofun⟩
    · obtain ⟨first, rest, -, rfl⟩ := awaitingEmits_eq_some.mp h
      cases hreview
  · cases hreview
  · cases hreview

/-! The results of one rule. -/

theorem documented_exact_iff (hids : ∀ source, (inp.ids source).Nodup) :
    (∀ v ∈ (self.afterUnmatched inp).values, v.status = .exactMatch →
        Documented inp.erp inp.gateways v) ↔
      ∀ w ∈ visits (self.exactStep inp) (self.afterDuplicates inp) inp.erp,
        w.2.invoiceId ∉ w.1.usedInvoices → (self.exactCandidates inp w.1 w.2).length = 1 →
        w.2.isReceivable = true := by
  refine (forall_emitted_iff mem_values_exactMatch).trans (forall₂_congr fun w hw => ?_)
  have hpair {bank : BankTransaction} (hbank : self.exactCandidates inp w.1 w.2 = [bank]) :
      Documented inp.erp inp.gateways (exactResult bank w.2) ↔ w.2.isReceivable = true :=
    documented_pair_iff hids
      (lists_exact (hbank ▸ List.mem_singleton_self bank) (mem_of_visits hw)) rfl
  constructor
  · intro h hnew hlen
    obtain ⟨bank, hbank⟩ := List.length_eq_one_iff.mp hlen
    exact (hpair hbank).mp (h _ (exactEmits_eq_some.mpr ⟨hnew, bank, hbank, rfl⟩))
  · intro h v hv
    obtain ⟨hnew, bank, hbank, rfl⟩ := exactEmits_eq_some.mp hv
    exact (hpair hbank).mpr (h hnew (congrArg List.length hbank))

theorem documented_settlement_iff (hids : ∀ source, (inp.ids source).Nodup) :
    (∀ v ∈ (self.afterUnmatched inp).values, v.status = .settlementMatch →
        Documented inp.erp inp.gateways v) ↔
      ∀ w ∈ visits (self.settlementStep inp) (self.afterExact inp) (self.settlements inp),
        (self.settlementCandidates inp w.1 w.2).length = 1 →
        (∀ invoice ∈ self.settlementLinks inp w.1 w.2, invoice.isReceivable = true) ∧
          ∀ entry ∈ w.2.members, entry.isPayable = true := by
  refine (forall_emitted_iff mem_values_settlementMatch).trans (forall₂_congr fun w hw => ?_)
  have hlisted {bank : BankTransaction} (hbank : self.settlementCandidates inp w.1 w.2 = [bank]) :=
    documented_iff hids (lists_settlement (mem_of_visits hw)
      (hbank ▸ List.mem_singleton_self bank)) rfl
  constructor
  · intro h hlen
    obtain ⟨bank, hbank⟩ := List.length_eq_one_iff.mp hlen
    exact (hlisted hbank).mp (h _ (settlementEmits_eq_some.mpr ⟨bank, hbank, rfl⟩))
  · intro h v hv
    obtain ⟨bank, hbank, rfl⟩ := settlementEmits_eq_some.mp hv
    exact (hlisted hbank).mpr (h (congrArg List.length hbank))

theorem documented_tolerance_iff (hids : ∀ source, (inp.ids source).Nodup) :
    (∀ v ∈ (self.afterUnmatched inp).values, v.status = .toleranceMatch →
        Documented inp.erp inp.gateways v) ↔
      ∀ w ∈ visits (self.toleranceStep inp) (self.afterSettlements inp) inp.erp,
        w.2.invoiceId ∉ w.1.usedInvoices → (self.toleranceCandidates inp w.1 w.2).length = 1 →
        w.2.isReceivable = true := by
  refine (forall_emitted_iff mem_values_toleranceMatch).trans (forall₂_congr fun w hw => ?_)
  have hpair {bank : BankTransaction} (hbank : self.toleranceCandidates inp w.1 w.2 = [bank]) :
      Documented inp.erp inp.gateways (self.toleranceResult bank w.2) ↔ w.2.isReceivable = true :=
    documented_pair_iff hids
      (lists_tolerance (hbank ▸ List.mem_singleton_self bank) (mem_of_visits hw)) rfl
  constructor
  · intro h hnew hlen
    obtain ⟨bank, hbank⟩ := List.length_eq_one_iff.mp hlen
    exact (hpair hbank).mp (h _ (toleranceEmits_eq_some.mpr ⟨hnew, bank, hbank, rfl⟩))
  · intro h v hv
    obtain ⟨hnew, bank, hbank, rfl⟩ := toleranceEmits_eq_some.mp hv
    exact (hpair hbank).mpr (h hnew (congrArg List.length hbank))

theorem documented_manyToOne_iff (hids : ∀ source, (inp.ids source).Nodup) :
    (∀ v ∈ (self.afterUnmatched inp).values, v.status = .manyToOneMatch →
        Documented inp.erp inp.gateways v) ↔
      ∀ w ∈ visits (self.manyToOneStep inp) (self.afterTolerance inp) inp.banks,
        w.2.sourceRecordId ∉ w.1.usedBanks → eligible w.2 = true → ∀ chosen,
        self.SmallestOnly ERPInvoice.amountDue (self.manyToOneCandidates inp w.1 w.2) w.2.amount
          chosen → ∀ invoice ∈ chosen, invoice.isReceivable = true := by
  refine (forall_emitted_iff mem_values_manyToOneMatch).trans (forall₂_congr fun w hw => ?_)
  constructor
  · intro h hnew hel chosen hchosen
    have hdocumented := h _ ((manyToOneEmits_iff hids).mpr ⟨hnew, hel, chosen, hchosen, rfl⟩)
    exact ((documented_iff hids (lists_manyToOne (mem_of_visits hw) hchosen.totals.1) rfl).mp
      hdocumented).1
  · intro h v hv
    obtain ⟨hnew, hel, chosen, hchosen, rfl⟩ := (manyToOneEmits_iff hids).mp hv
    refine (documented_iff hids (lists_manyToOne (mem_of_visits hw) hchosen.totals.1) rfl).mpr
      ⟨h hnew hel chosen hchosen, ?_⟩
    exact fun entry he => absurd he List.not_mem_nil

theorem documented_oneToMany_iff (hids : ∀ source, (inp.ids source).Nodup) :
    (∀ v ∈ (self.afterUnmatched inp).values, v.status = .oneToManyMatch →
        Documented inp.erp inp.gateways v) ↔
      ∀ w ∈ visits (self.oneToManyStep inp) (self.afterManyToOne inp) inp.erp,
        w.2.invoiceId ∉ w.1.usedInvoices → ∀ chosen,
        self.SmallestOnly BankTransaction.amount (self.oneToManyCandidates inp w.1 w.2)
          w.2.amountDue chosen → w.2.isReceivable = true := by
  refine (forall_emitted_iff mem_values_oneToManyMatch).trans (forall₂_congr fun w hw => ?_)
  constructor
  · intro h hnew chosen hchosen
    have hdocumented := h _ ((oneToManyEmits_iff hids).mpr ⟨hnew, chosen, hchosen, rfl⟩)
    exact ((documented_iff hids (lists_oneToMany (mem_of_visits hw) hchosen.totals.1) rfl).mp
      hdocumented).1 w.2 (List.mem_singleton_self _)
  · intro h v hv
    obtain ⟨hnew, chosen, hchosen, rfl⟩ := (oneToManyEmits_iff hids).mp hv
    refine (documented_iff hids (lists_oneToMany (mem_of_visits hw) hchosen.totals.1) rfl).mpr
      ⟨List.forall_mem_singleton.mpr (h hnew chosen hchosen), ?_⟩
    exact fun entry he => absurd he List.not_mem_nil

/-- **Every automatic match is of such documents when the rules can match no others.** -/
theorem documented_values_iff (hids : ∀ source, (inp.ids source).Nodup) :
    (∀ v ∈ (self.afterUnmatched inp).values, Documented inp.erp inp.gateways v) ↔
      self.OnlyDocuments inp := by
  constructor
  · intro h
    exact
      { exact := (documented_exact_iff hids).mp fun v hv _ => h v hv
        settlement := (documented_settlement_iff hids).mp fun v hv _ => h v hv
        tolerance := (documented_tolerance_iff hids).mp fun v hv _ => h v hv
        manyToOne := (documented_manyToOne_iff hids).mp fun v hv _ => h v hv
        oneToMany := (documented_oneToMany_iff hids).mp fun v hv _ => h v hv }
  · rintro ⟨hexact, hsettlement, htolerance, hmanyToOne, honeToMany⟩ v hv hreview
    obtain ⟨hduplicate, hnotReview⟩ := emitted_of_not_review hv hreview
    cases hstatus : v.status with
    | duplicate => exact absurd hstatus hduplicate
    | requiresReview => exact absurd hstatus hnotReview
    | exactMatch => exact (documented_exact_iff hids).mpr hexact v hv hstatus hreview
    | settlementMatch =>
      exact (documented_settlement_iff hids).mpr hsettlement v hv hstatus hreview
    | toleranceMatch => exact (documented_tolerance_iff hids).mpr htolerance v hv hstatus hreview
    | manyToOneMatch => exact (documented_manyToOne_iff hids).mpr hmanyToOne v hv hstatus hreview
    | oneToManyMatch => exact (documented_oneToMany_iff hids).mpr honeToMany v hv hstatus hreview

end ReconciliationEngine

/-- **When automatic matches respect the kind of documents.**  Every result that needs no review
lists only receivable invoices and payable gateway entries if and only if, unless the inputs are
refused, no matching rule can match another in a state in which it takes it up. -/
theorem reconcile_documents_iff (self : ReconciliationEngine) (banks : List BankTransaction)
    (erp : List ERPInvoice) (gateways : List GatewaySettlementEntry) :
    (∀ results, self.reconcile banks erp gateways = .ok results →
        ∀ r ∈ results, Documented erp gateways r.toResultValues) ↔
      ((∀ source, (recordIds banks erp gateways source).Nodup) →
        self.OnlyDocuments (sortInputs banks erp gateways)) := by
  rw [self.forall_results_iff]
  refine forall_congr' fun hids => ?_
  have hsorted := fun source =>
    (ids_sortInputs_perm banks erp gateways source).nodup_iff.mpr (hids source)
  rw [← documented_values_iff hsorted]
  refine forall₂_congr fun v _ => ?_
  simp only [Documented, sortInputs, mem_sortOn]

/-- The invoice `INV-1`, voided. -/
def voidedInvoice : ERPInvoice := { depositInvoice with status := .void }

/-- A payment settles a void invoice. -/
theorem void_invoice_matched :
    ¬ ∀ results, (⟨.ascii, {}⟩ : ReconciliationEngine).reconcile [deposit] [voidedInvoice] [] =
        .ok results →
      ∀ r ∈ results, Documented [voidedInvoice] [] r.toResultValues := by
  intro h
  have hdocuments := h _ rfl
  revert hdocuments
  decide +kernel

end ReconcileFlow.Reconciliation
