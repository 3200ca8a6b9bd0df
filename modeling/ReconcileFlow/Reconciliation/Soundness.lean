import ReconcileFlow.Reconciliation.Outcome

/-!
# Reconciliation — Soundness

Why each result is justified, with decimal arithmetic taken as exact.  A rule that matches bank
entries to invoices tests every pair, so its result is as the rule promises (`Emission.justified`).
That its bank entries have no duplicates is not tested again: the first rule uses up every group of
entries that share a fingerprint, so an entry that is unused from then on shares its fingerprint
with no other (`Quarantined`, `quarantined_afterDuplicates`), and entries never become unused.
`reconcile_justified` puts the two together.
-/

namespace ReconcileFlow.Reconciliation

open Support ReconciliationEngine

/-- The sum of the bank entries' amounts. -/
def bankTotal (recs : Inputs) : ℚ := (recs.banks.map (·.amount.toRat)).sum

/-- The sum of the amounts due. -/
def invoiceTotal (recs : Inputs) : ℚ := (recs.erp.map (·.amountDue.toRat)).sum

/-- The statuses of the results that match bank entries to invoices. -/
def matching (status : ReconciliationStatus) : Bool :=
  [.exactMatch, .toleranceMatch, .manyToOneMatch, .oneToManyMatch].contains status

/-- What a match of bank entries to invoices requires of each entry and each pair. -/
structure Matched (engine : ReconciliationEngine) (inp recs : Inputs) : Prop where
  booked : ∀ bank ∈ recs.banks, bank.status = .booked ∧ bank.creditDebitIndicator = .credit ∧
    bank.isReversal = false
  currency : ∀ bank ∈ recs.banks, ∀ invoice ∈ recs.erp, bank.currency = invoice.currency
  mentioned : ∀ bank ∈ recs.banks, ∀ invoice ∈ recs.erp,
    mentions engine.runtime bank invoice = true ∧
      withinDays bank invoice engine.config.dateToleranceDays = true
  unduplicated : ∀ bank ∈ recs.banks, ∀ other ∈ inp.banks, other ≠ bank →
    (fingerprint bank).same (fingerprint other) = false

/-- The values list the records `recs` and say of them what their status promises. -/
structure Justified (engine : ReconciliationEngine) (inp recs : Inputs) (v : ResultValues) :
    Prop where
  lists : Lists inp v recs
  matched : matching v.status = true → Matched engine inp recs
  amounts : matching v.status = true → ∃ expected actual, v.expectedAmount = some expected ∧
    v.actualAmount = some actual ∧ expected.toRat = invoiceTotal recs ∧
    actual.toRat = bankTotal recs
  exactMatch : v.status = .exactMatch → bankTotal recs = invoiceTotal recs
  toleranceMatch : v.status = .toleranceMatch → 0 < |bankTotal recs - invoiceTotal recs| ∧
    |bankTotal recs - invoiceTotal recs| ≤ engine.config.amountTolerance.toRat
  manyToOneMatch : v.status = .manyToOneMatch → recs.banks.length = 1 ∧ 2 ≤ recs.erp.length ∧
    recs.erp.length ≤ engine.config.maximumGroupSize ∧ invoiceTotal recs = bankTotal recs
  oneToManyMatch : v.status = .oneToManyMatch → recs.erp.length = 1 ∧ 2 ≤ recs.banks.length ∧
    recs.banks.length ≤ engine.config.maximumGroupSize ∧ bankTotal recs = invoiceTotal recs
  difference : ∀ actual expected, v.actualAmount = some actual →
    v.expectedAmount = some expected →
    ∃ difference, v.amountDifference = some difference ∧
      difference.toRat = |actual.toRat - expected.toRat|
  review : v.requiresReview = true ↔ v.status = .duplicate ∨ v.status = .requiresReview

namespace ReconciliationEngine

variable {self : ReconciliationEngine} {inp : Inputs} {s : State} {v : ResultValues}

/-! ### The quarantine of duplicates -/

/-- A bank entry that is not used shares its fingerprint with no other entry. -/
def Quarantined (inp : Inputs) (s : State) : Prop :=
  ∀ bank ∈ inp.banks, bank.sourceRecordId ∉ s.usedBanks → ∀ other ∈ inp.banks, other ≠ bank →
    (fingerprint bank).same (fingerprint other) = false

theorem Quarantined.take (h : Quarantined inp s) (v : ResultValues) :
    Quarantined inp (s.take v) := by
  intro bank hb hunused
  exact h bank hb fun hu => hunused (List.mem_append_left _ hu)

theorem quarantined_afterDuplicates : Quarantined inp (self.afterDuplicates inp) := by
  have hdone : ∀ group ∈ duplicateGroups inp, 2 ≤ group.members.length →
      ∀ bank ∈ group.members, bank.sourceRecordId ∈ (self.afterDuplicates inp).usedBanks := by
    refine foldl_achieves (fun (group : Group Fingerprint BankTransaction) (s : State) => 2 ≤ group.members.length →
      ∀ bank ∈ group.members, bank.sourceRecordId ∈ s.usedBanks) ?_ ?_ _ _
    · intro s group hlen bank hb
      rw [duplicateStep, if_neg (Nat.not_lt.mpr hlen)]
      exact List.mem_append_right _ (List.mem_map_of_mem hb)
    · intro s group other h hlen bank hb
      unfold duplicateStep
      split
      · exact h hlen bank hb
      · exact List.mem_append_left _ (h hlen bank hb)
  intro bank hb hunused other ho hne
  obtain ⟨group, hg, hmem⟩ := exists_group Fingerprint.same fingerprint hb
  by_contra hsame
  have hother : other ∈ group.members := mem_members_of_same Fingerprint.same_refl
    Fingerprint.same_comm (fun _ _ _ => Fingerprint.same_trans) hg hmem ho
    (Bool.not_eq_false _ ▸ hsame)
  exact hunused (hdone group ((mem_sortOn _).mpr hg) (Group.two_le_length hother hmem hne)
    bank hmem)

/-! ### What each rule's result says -/

theorem bankTotal_singleton (bank : BankTransaction) (erp : List ERPInvoice)
    (gateways : List GatewaySettlementEntry) :
    bankTotal ⟨[bank], erp, gateways⟩ = bank.amount.toRat := by
  simp [bankTotal]

theorem invoiceTotal_singleton (banks : List BankTransaction) (invoice : ERPInvoice)
    (gateways : List GatewaySettlementEntry) :
    invoiceTotal ⟨banks, [invoice], gateways⟩ = invoice.amountDue.toRat := by
  simp [invoiceTotal]

theorem eligible_iff (bank : BankTransaction) :
    eligible bank = true ↔ bank.status = .booked ∧ bank.creditDebitIndicator = .credit ∧
      bank.isReversal = false := by
  simp [eligible, and_assoc]

/-- A rule that has tested every pair of unused entries and invoices matches them. -/
theorem Quarantined.matched (hq : Quarantined inp s) {recs : Inputs}
    (hbanks : ∀ bank ∈ recs.banks, bank ∈ inp.banks ∧ bank.sourceRecordId ∉ s.usedBanks ∧
      eligible bank = true)
    (hpairs : ∀ bank ∈ recs.banks, ∀ invoice ∈ recs.erp, bank.currency = invoice.currency ∧
      mentions self.runtime bank invoice = true ∧
        withinDays bank invoice self.config.dateToleranceDays = true) :
    Matched self inp recs where
  booked bank hb := (eligible_iff bank).mp (hbanks bank hb).2.2
  currency bank hb invoice hi := (hpairs bank hb invoice hi).1
  mentioned bank hb invoice hi := (hpairs bank hb invoice hi).2
  unduplicated bank hb := hq bank (hbanks bank hb).1 (hbanks bank hb).2.1

/-- A result that matches nothing owes only its difference and its review flag. -/
theorem justified_of_not_matching {recs : Inputs} (hl : Lists inp v recs)
    (hm : matching v.status = false)
    (hd : ∀ actual expected, v.actualAmount = some actual → v.expectedAmount = some expected →
      ∃ difference, v.amountDifference = some difference ∧
        difference.toRat = |actual.toRat - expected.toRat|)
    (hr : v.requiresReview = true ↔ v.status = .duplicate ∨ v.status = .requiresReview) :
    Justified self inp recs v where
  lists := hl
  matched h := absurd (hm.symm.trans h) Bool.false_ne_true
  amounts h := absurd (hm.symm.trans h) Bool.false_ne_true
  exactMatch h := by rw [h] at hm; cases hm
  toleranceMatch h := by rw [h] at hm; cases hm
  manyToOneMatch h := by rw [h] at hm; cases hm
  oneToManyMatch h := by rw [h] at hm; cases hm
  difference := hd
  review := hr

/-- Amounts that are equal differ by the zero that the results state. -/
theorem zero_difference {actual expected : Decimal} (h : actual.toRat = expected.toRat) :
    (Decimal.ofInt 0).toRat = |actual.toRat - expected.toRat| := by
  rw [Decimal.toRat_zero, h, sub_self, abs_zero]

theorem toRat_differenceOf (hctx : self.runtime.context = .exact) (bank : BankTransaction)
    (invoice : ERPInvoice) : (self.differenceOf bank invoice).toRat =
      |bank.amount.toRat - invoice.amountDue.toRat| := by
  rw [differenceOf, hctx, Decimal.toRat_abs, Decimal.toRat_sub]

theorem justified_exact (hq : Quarantined inp s) {bank : BankTransaction} {invoice : ERPInvoice}
    (hi : invoice ∈ inp.erp) (hb : bank ∈ self.exactCandidates inp s invoice) :
    Justified self inp ⟨[bank], [invoice], []⟩ (exactResult bank invoice) := by
  obtain ⟨hbank, hunused, hel, hcurrency, hamount, hpair⟩ := mem_exactCandidates.mp hb
  have heq := (Decimal.numEq_iff _ _).mp hamount
  refine ⟨lists_exact hb hi, fun _ => ?_, fun _ => ?_, fun _ => ?_, nofun, nofun, nofun, ?_, ?_⟩
  · exact hq.matched (List.forall_mem_singleton.mpr ⟨hbank, hunused, hel⟩)
      (List.forall_mem_singleton.mpr (List.forall_mem_singleton.mpr ⟨hcurrency, hpair⟩))
  · exact ⟨_, _, rfl, rfl, (invoiceTotal_singleton _ _ _).symm, (bankTotal_singleton _ _ _).symm⟩
  · rw [bankTotal_singleton, invoiceTotal_singleton, heq]
  · rintro _ _ ⟨⟩ ⟨⟩
    exact ⟨_, rfl, zero_difference heq⟩
  · simp [exactResult]

theorem justified_tolerance (hctx : self.runtime.context = .exact) (hq : Quarantined inp s)
    {bank : BankTransaction} {invoice : ERPInvoice} (hi : invoice ∈ inp.erp)
    (hb : bank ∈ self.toleranceCandidates inp s invoice) :
    Justified self inp ⟨[bank], [invoice], []⟩ (self.toleranceResult bank invoice) := by
  obtain ⟨hbank, hunused, hel, hcurrency, hpos, hle, hpair⟩ := mem_toleranceCandidates.mp hb
  rw [Decimal.lt_iff, Decimal.toRat_zero, toRat_differenceOf hctx] at hpos
  rw [Decimal.le_iff, toRat_differenceOf hctx] at hle
  refine ⟨lists_tolerance hb hi, fun _ => ?_, fun _ => ?_, nofun, fun _ => ?_, nofun, nofun, ?_, ?_⟩
  · exact hq.matched (List.forall_mem_singleton.mpr ⟨hbank, hunused, hel⟩)
      (List.forall_mem_singleton.mpr (List.forall_mem_singleton.mpr ⟨hcurrency, hpair⟩))
  · exact ⟨_, _, rfl, rfl, (invoiceTotal_singleton _ _ _).symm, (bankTotal_singleton _ _ _).symm⟩
  · rw [bankTotal_singleton, invoiceTotal_singleton]
    exact ⟨hpos, hle⟩
  · rintro _ _ ⟨⟩ ⟨⟩
    exact ⟨_, rfl, toRat_differenceOf hctx bank invoice⟩
  · simp [toleranceResult]

/-- The sum that the subset search has compared, in the exact context. -/
theorem toRat_sum_of_numEq (hctx : self.runtime.context = .exact) {amounts : List Decimal}
    {target : Decimal} (h : (self.runtime.context.sum amounts).numEq target = true) :
    (self.runtime.context.sum amounts).toRat = (amounts.map Decimal.toRat).sum ∧
      (amounts.map Decimal.toRat).sum = target.toRat := by
  have hsum : (self.runtime.context.sum amounts).toRat = (amounts.map Decimal.toRat).sum := by
    rw [hctx, Decimal.toRat_sum]
  exact ⟨hsum, hsum.symm.trans ((Decimal.numEq_iff _ _).mp h)⟩

theorem justified_manyToOne (hctx : self.runtime.context = .exact) (hq : Quarantined inp s)
    {bank : BankTransaction} {chosen : List ERPInvoice} (hb : bank ∈ inp.banks)
    (hnew : bank.sourceRecordId ∉ s.usedBanks) (hel : eligible bank = true)
    (hc : self.matchingCombination (self.manyToOneCandidates inp s bank) bank.amount = chosen)
    (hne : chosen ≠ []) :
    Justified self inp ⟨[bank], chosen, []⟩ (self.manyToOneResult bank chosen) := by
  obtain ⟨hsub, hmin, hmax, hnumEq⟩ := matchingGroup_spec hc hne
  obtain ⟨hexpected, htarget⟩ := toRat_sum_of_numEq hctx hnumEq
  rw [List.map_map] at hexpected htarget
  have hpairs : ∀ invoice ∈ chosen, bank.currency = invoice.currency ∧
      mentions self.runtime bank invoice = true ∧
        withinDays bank invoice self.config.dateToleranceDays = true := fun invoice hi => by
    obtain ⟨-, -, hcurrency, hpair⟩ := mem_manyToOneCandidates.mp (hsub.subset hi)
    exact ⟨hcurrency.symm, hpair⟩
  refine ⟨lists_manyToOne hb hsub, fun _ => ?_, fun _ => ?_, nofun, nofun, fun _ => ?_, nofun,
    ?_, ?_⟩
  · exact hq.matched (List.forall_mem_singleton.mpr ⟨hb, hnew, hel⟩)
      (List.forall_mem_singleton.mpr hpairs)
  · exact ⟨_, _, rfl, rfl, hexpected, (bankTotal_singleton _ _ _).symm⟩
  · refine ⟨rfl, hmin, hmax, ?_⟩
    rw [bankTotal_singleton]
    exact htarget
  · rintro _ _ ⟨⟩ ⟨⟩
    exact ⟨_, rfl, zero_difference (htarget.symm.trans hexpected.symm)⟩
  · simp [manyToOneResult]

theorem justified_oneToMany (hctx : self.runtime.context = .exact) (hq : Quarantined inp s)
    {invoice : ERPInvoice} {chosen : List BankTransaction} (hi : invoice ∈ inp.erp)
    (hc : self.matchingBankCombination (self.oneToManyCandidates inp s invoice)
      invoice.amountDue = chosen) (hne : chosen ≠ []) :
    Justified self inp ⟨chosen, [invoice], []⟩ (self.oneToManyResult invoice chosen) := by
  obtain ⟨hsub, hmin, hmax, hnumEq⟩ := matchingGroup_spec hc hne
  obtain ⟨hactual, htarget⟩ := toRat_sum_of_numEq hctx hnumEq
  rw [List.map_map] at hactual htarget
  have hcandidates := fun bank (hb : bank ∈ chosen) =>
    mem_oneToManyCandidates.mp (hsub.subset hb)
  refine ⟨lists_oneToMany hi hsub, fun _ => ?_, fun _ => ?_, nofun, nofun, nofun, fun _ => ?_,
    ?_, ?_⟩
  · refine hq.matched (fun bank hb => ?_) fun bank hb => List.forall_mem_singleton.mpr ?_
    · obtain ⟨hbank, hunused, hel, -⟩ := hcandidates bank hb
      exact ⟨hbank, hunused, hel⟩
    · obtain ⟨-, -, -, hcurrency, hpair⟩ := hcandidates bank hb
      exact ⟨hcurrency, hpair⟩
  · exact ⟨_, _, rfl, rfl, (invoiceTotal_singleton _ _ _).symm, hactual⟩
  · refine ⟨rfl, hmin, hmax, ?_⟩
    rw [invoiceTotal_singleton]
    exact htarget
  · rintro _ _ ⟨⟩ ⟨⟩
    exact ⟨_, rfl, zero_difference (hactual.trans htarget)⟩
  · simp [oneToManyResult]

theorem justified_settlement (hctx : self.runtime.context = .exact)
    {group : Group String GatewaySettlementEntry} {bank : BankTransaction}
    (hg : group ∈ self.settlements inp) (hb : bank ∈ self.settlementCandidates inp s group) :
    Justified self inp ⟨[bank], self.settlementLinks inp s group, group.members⟩
      (self.settlementResult group bank (self.settlementLinks inp s group)) := by
  refine justified_of_not_matching (lists_settlement hg hb) rfl ?_ (by simp [settlementResult])
  rintro _ _ ⟨⟩ ⟨⟩
  refine ⟨_, rfl, ?_⟩
  rw [hctx, Decimal.toRat_abs, Decimal.toRat_sub]

/-- **Every emission is justified** in a state that has no unused duplicates. -/
theorem Emission.justified (hctx : self.runtime.context = .exact) (hq : Quarantined inp s)
    (h : self.Emission inp s v) : ∃ recs, Justified self inp recs v := by
  cases h with
  | duplicate hg =>
      refine ⟨_, justified_of_not_matching (lists_duplicate hg) rfl ?_ (by simp [duplicateResult])⟩
      rintro _ _ ⟨⟩ ⟨⟩
      exact ⟨_, rfl, zero_difference rfl⟩
  | exact hi hnew hb => exact ⟨_, justified_exact hq hi hb⟩
  | settlement hg hnew hb => exact ⟨_, justified_settlement hctx hg hb⟩
  | tolerance hi hnew hb => exact ⟨_, justified_tolerance hctx hq hi hb⟩
  | manyToOne hb hnew hel hc hne => exact ⟨_, justified_manyToOne hctx hq hb hnew hel hc hne⟩
  | oneToMany hi hnew hc hne => exact ⟨_, justified_oneToMany hctx hq hi hc hne⟩
  | awaiting hg hr =>
      exact ⟨_, justified_of_not_matching (lists_awaiting hg hr) rfl (by rintro _ _ ⟨⟩)
        (by simp [awaitingResult])⟩

/-! ### Every run -/

theorem justified_take {recs : Inputs} (h : ∀ w ∈ s.values, ∃ recs, Justified self inp recs w)
    (hv : Justified self inp recs v) : ∀ w ∈ (s.take v).values, ∃ recs, Justified self inp recs w := by
  intro w hw
  rw [State.values_take] at hw
  rcases List.mem_append.mp hw with hw | hw
  · exact h w hw
  · exact ⟨recs, List.mem_singleton.mp hw ▸ hv⟩

theorem justified_afterUnmatched (hctx : self.runtime.context = .exact)
    (hids : ∀ source, (inp.ids source).Nodup) :
    ∀ v ∈ (self.afterUnmatched inp).values, ∃ recs, Justified self inp recs v := by
  have hduplicates : ∀ v ∈ (self.afterDuplicates inp).values, ∃ recs,
      Justified self inp recs v := by
    refine afterDuplicates_invariant (fun s => ∀ v ∈ s.values, ∃ recs,
      Justified self inp recs v) (hids .bank) (fun _ hv => absurd hv List.not_mem_nil) ?_
    intro s group hg _ _ h
    refine justified_take h (justified_of_not_matching (lists_duplicate hg) rfl ?_
      (by simp [duplicateResult]))
    rintro _ _ ⟨⟩ ⟨⟩
    exact ⟨_, rfl, zero_difference rfl⟩
  have hrules : Quarantined inp (self.afterAwaiting inp) ∧
      ∀ v ∈ (self.afterAwaiting inp).values, ∃ recs, Justified self inp recs v := by
    refine afterAwaiting_invariant (fun s => Quarantined inp s ∧ ∀ v ∈ s.values, ∃ recs,
      Justified self inp recs v) (hids .gateway) ⟨quarantined_afterDuplicates, hduplicates⟩ ?_
    rintro s v he ⟨hq, h⟩
    obtain ⟨recs, hv⟩ := he.justified hctx hq
    exact ⟨hq.take v, justified_take h hv⟩
  intro v hv
  rcases mem_values_afterUnmatched.mp hv with hv | ⟨bank, hb, -, rfl⟩ | ⟨invoice, hi, -, rfl⟩
  · exact hrules.2 v hv
  · exact ⟨_, justified_of_not_matching (lists_unmatchedBank hb) rfl (by rintro _ _ - ⟨⟩)
      (by simp [unmatchedBankResult])⟩
  · exact ⟨_, justified_of_not_matching (lists_unmatchedInvoice hi) rfl (by rintro _ _ ⟨⟩)
      (by simp [unmatchedInvoiceResult])⟩

end ReconciliationEngine

/-- Only which records there are matters, not their order. -/
theorem Justified.of_mem {self : ReconciliationEngine} {inp inp' recs : Inputs} {v : ResultValues}
    (hb : ∀ bank, bank ∈ inp.banks ↔ bank ∈ inp'.banks)
    (hi : ∀ invoice, invoice ∈ inp.erp ↔ invoice ∈ inp'.erp)
    (hg : ∀ entry, entry ∈ inp.gateways ↔ entry ∈ inp'.gateways)
    (h : Justified self inp recs v) : Justified self inp' recs v where
  lists := ⟨h.lists.ids, fun bank hm => (hb bank).mp (h.lists.banks bank hm),
    fun invoice hm => (hi invoice).mp (h.lists.erp invoice hm),
    fun entry hm => (hg entry).mp (h.lists.gateways entry hm)⟩
  matched hm := ⟨(h.matched hm).booked, (h.matched hm).currency, (h.matched hm).mentioned,
    fun bank hbank other ho => (h.matched hm).unduplicated bank hbank other ((hb other).mpr ho)⟩
  amounts := h.amounts
  exactMatch := h.exactMatch
  toleranceMatch := h.toleranceMatch
  manyToOneMatch := h.manyToOneMatch
  oneToManyMatch := h.oneToManyMatch
  difference := h.difference
  review := h.review

/-- **Every result is justified**: with exact arithmetic, each result lists records of the inputs
and says of them what its status promises. -/
theorem reconcile_justified (self : ReconciliationEngine) (hctx : self.runtime.context = .exact)
    {banks : List BankTransaction} {erp : List ERPInvoice}
    {gateways : List GatewaySettlementEntry} {results : List ReconciliationResult}
    (h : self.reconcile banks erp gateways = .ok results) :
    ∀ r ∈ results, ∃ recs, Justified self ⟨banks, erp, gateways⟩ recs r.toResultValues := by
  refine (self.forall_results_iff banks erp gateways fun v => ∃ recs,
    Justified self ⟨banks, erp, gateways⟩ recs v).mpr (fun hids v hv => ?_) results h
  have hsorted := fun source =>
    (ids_sortInputs_perm banks erp gateways source).nodup_iff.mpr (hids source)
  obtain ⟨recs, hv⟩ := justified_afterUnmatched hctx hsorted v hv
  exact ⟨recs, hv.of_mem (fun _ => mem_sortOn _) (fun _ => mem_sortOn _) fun _ => mem_sortOn _⟩

theorem reconcile_justified_exact :
    ∃ recs, Justified ⟨⟨String.toLower, .exact⟩, {}⟩ ⟨[deposit], [depositInvoice], []⟩ recs
      (exactResult deposit depositInvoice) := by
  have hok : (⟨⟨String.toLower, .exact⟩, {}⟩ : ReconciliationEngine).reconcile [deposit]
      [depositInvoice] [] = .ok (number [exactResult deposit depositInvoice]) := by decide +kernel
  exact reconcile_justified _ rfl hok _ List.mem_cons_self

end ReconcileFlow.Reconciliation
