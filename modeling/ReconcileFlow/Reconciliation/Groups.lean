import ReconcileFlow.Reconciliation.Outcome

/-!
# Reconciliation — Groups

The groups of rules 5 and 6.  The subset search goes through the sizes from two to the maximum and
takes the first size that has an only group totalling the target.  So a chosen group is the only
one of its size, and no smaller size has an only one (`SmallestOnly`, `matchingGroup_eq_iff`);
sizes with several such groups are passed over.  `reconcile_groups` says which results the two
rules make.
-/

namespace ReconcileFlow.Reconciliation

open Support ReconciliationEngine

namespace ReconciliationEngine

/-- The groups of two to the maximum number of the items whose amounts total the target. -/
def Totals (self : ReconciliationEngine) {α : Type} (amount : α → Decimal) (items : List α)
    (target : Decimal) (group : List α) : Prop :=
  group.Sublist items ∧ 2 ≤ group.length ∧ group.length ≤ self.config.maximumGroupSize ∧
    (self.runtime.context.sum (group.map amount)).numEq target = true

instance (self : ReconciliationEngine) {α : Type} [DecidableEq α] (amount : α → Decimal)
    (items : List α) (target : Decimal) (group : List α) :
    Decidable (self.Totals amount items target group) :=
  inferInstanceAs (Decidable (_ ∧ _))

/-- A group that totals the target, the only one of its size, where no smaller size has an only
one. -/
structure SmallestOnly (engine : ReconciliationEngine) {α : Type} (amount : α → Decimal)
    (items : List α) (target : Decimal) (chosen : List α) : Prop where
  totals : engine.Totals amount items target chosen
  only : ∀ group, engine.Totals amount items target group → group.length = chosen.length →
    group = chosen
  smallest : ∀ size < chosen.length,
    ¬ ∃! group, engine.Totals amount items target group ∧ group.length = size

variable {self : ReconciliationEngine} {inp : Inputs} {s : State} {v : ResultValues}

section Search

variable {α : Type} {amount : α → Decimal} {items chosen : List α} {target : Decimal}

/-- The groups that the search goes through at a size that it tries. -/
theorem mem_filter_combinations {size : Nat} (hsize : 2 ≤ size)
    (hmax : size ≤ self.config.maximumGroupSize) {group : List α} :
    group ∈ (combinations size items).filter (fun group =>
        (self.runtime.context.sum (group.map amount)).numEq target) ↔
      self.Totals amount items target group ∧ group.length = size := by
  rw [List.mem_filter, mem_combinations, Totals]
  constructor
  · rintro ⟨⟨hsub, rfl⟩, htotal⟩
    exact ⟨⟨hsub, hsize, hmax, htotal⟩, rfl⟩
  · rintro ⟨⟨hsub, -, -, htotal⟩, hlen⟩
    exact ⟨⟨hsub, hlen⟩, htotal⟩

/-- **What the subset search chooses.** -/
theorem matchingGroup_eq_iff (hitems : items.Nodup) (hne : chosen ≠ []) :
    self.matchingGroup amount items target = chosen ↔
      self.SmallestOnly amount items target chosen := by
  have hnodup : ∀ size, ((combinations size items).filter fun group =>
      (self.runtime.context.sum (group.map amount)).numEq target).Nodup :=
    fun size => (nodup_combinations hitems size).filter _
  have hfound : self.matchingGroup amount items target = chosen ↔
      (List.range' 2 (min items.length self.config.maximumGroupSize - 1)).findSome? (fun size =>
        Support.only ((combinations size items).filter fun group =>
          (self.runtime.context.sum (group.map amount)).numEq target)) = some chosen := by
    simp only [matchingGroup, Option.getD_eq_iff]
    exact or_iff_left fun h => hne h.2.symm
  rw [hfound, findSome?_range'_eq_some]
  constructor
  · rintro ⟨size, hsize, hlt, honly, hbefore⟩
    have hmax : size ≤ self.config.maximumGroupSize := by omega
    obtain ⟨hmem, hall⟩ := (only_eq_some_iff_forall (hnodup size)).mp honly
    obtain ⟨htotals, rfl⟩ := (mem_filter_combinations hsize hmax).mp hmem
    refine ⟨htotals, fun group hgroup hlen => ?_, fun size hsmaller => ?_⟩
    · exact hall group ((mem_filter_combinations hsize hmax).mpr ⟨hgroup, hlen⟩)
    · rintro ⟨group, ⟨hgroup, rfl⟩, hunique⟩
      obtain ⟨-, htwo, hle, -⟩ := id hgroup
      refine (only_eq_none_iff_forall (hnodup _)).mp (hbefore _ htwo hsmaller) ⟨group, ?_, ?_⟩
      · exact (mem_filter_combinations htwo hle).mpr ⟨hgroup, rfl⟩
      · exact fun other hother => hunique other ((mem_filter_combinations htwo hle).mp hother)
  · rintro ⟨htotals, honly, hsmallest⟩
    obtain ⟨hsub, htwo, hmax, -⟩ := id htotals
    have hlen := hsub.length_le
    refine ⟨chosen.length, htwo, by omega, ?_, fun size hsize hlt => ?_⟩
    · refine (only_eq_some_iff_forall (hnodup _)).mpr ⟨?_, fun group hgroup => ?_⟩
      · exact (mem_filter_combinations htwo hmax).mpr ⟨htotals, rfl⟩
      · obtain ⟨hgroup, heq⟩ := (mem_filter_combinations htwo hmax).mp hgroup
        exact honly group hgroup heq
    · refine (only_eq_none_iff_forall (hnodup _)).mpr fun ⟨group, hgroup, hunique⟩ => ?_
      have hle : size ≤ self.config.maximumGroupSize := by omega
      exact hsmallest size hlt ⟨group, (mem_filter_combinations hsize hle).mp hgroup,
        fun other hother => hunique other ((mem_filter_combinations hsize hle).mpr hother)⟩

theorem SmallestOnly.ne_nil (h : self.SmallestOnly amount items target chosen) : chosen ≠ [] := by
  rintro rfl
  exact absurd h.totals.2.1 (Nat.not_succ_le_zero 1)

end Search

/-! ### What the two rules emit -/

theorem manyToOneEmits_iff (hids : ∀ source, (inp.ids source).Nodup) {bank : BankTransaction} :
    self.manyToOneEmits inp s bank = some v ↔
      bank.sourceRecordId ∉ s.usedBanks ∧ eligible bank = true ∧
        ∃ chosen, self.SmallestOnly ERPInvoice.amountDue (self.manyToOneCandidates inp s bank)
          bank.amount chosen ∧ v = self.manyToOneResult bank chosen := by
  have hnodup : (self.manyToOneCandidates inp s bank).Nodup :=
    (List.Nodup.of_map _ (hids .erp)).filter _
  constructor
  · intro h
    obtain ⟨hnew, hel, chosen, hne, hc, rfl⟩ := manyToOneEmits_spec h
    exact ⟨hnew, hel, chosen, (matchingGroup_eq_iff hnodup hne).mp hc, rfl⟩
  · rintro ⟨hnew, hel, chosen, hsmallest, rfl⟩
    have hc : self.matchingCombination (self.manyToOneCandidates inp s bank) bank.amount =
        chosen := (matchingGroup_eq_iff hnodup hsmallest.ne_nil).mpr hsmallest
    have hopen : ¬ (bank.sourceRecordId ∈ s.usedBanks ∨ (!eligible bank) = true) := by
      simp [hnew, hel]
    rw [manyToOneEmits, if_neg hopen, hc]
    cases chosen with
    | nil => exact absurd rfl hsmallest.ne_nil
    | cons first rest => rfl

theorem oneToManyEmits_iff (hids : ∀ source, (inp.ids source).Nodup) {invoice : ERPInvoice} :
    self.oneToManyEmits inp s invoice = some v ↔ invoice.invoiceId ∉ s.usedInvoices ∧
      ∃ chosen, self.SmallestOnly BankTransaction.amount (self.oneToManyCandidates inp s invoice)
        invoice.amountDue chosen ∧ v = self.oneToManyResult invoice chosen := by
  have hnodup : (self.oneToManyCandidates inp s invoice).Nodup :=
    (List.Nodup.of_map _ (hids .bank)).filter _
  constructor
  · intro h
    obtain ⟨hnew, chosen, hne, hc, rfl⟩ := oneToManyEmits_spec h
    exact ⟨hnew, chosen, (matchingGroup_eq_iff hnodup hne).mp hc, rfl⟩
  · rintro ⟨hnew, chosen, hsmallest, rfl⟩
    have hc : self.matchingBankCombination (self.oneToManyCandidates inp s invoice)
        invoice.amountDue = chosen := (matchingGroup_eq_iff hnodup hsmallest.ne_nil).mpr hsmallest
    rw [oneToManyEmits, if_neg hnew, hc]
    cases chosen with
    | nil => exact absurd rfl hsmallest.ne_nil
    | cons first rest => rfl

end ReconciliationEngine

/-- **The groups of rules 5 and 6.**  The MANY_TO_ONE_MATCH results are those that the fifth rule
makes, at its visits of unused eligible bank entries, of the group of candidate invoices that is
the only one of its size to total the amount, where no smaller size has an only one; and the
ONE_TO_MANY_MATCH results are likewise those of the sixth rule. -/
theorem reconcile_groups (self : ReconciliationEngine) (banks : List BankTransaction)
    (erp : List ERPInvoice) (gateways : List GatewaySettlementEntry)
    {results : List ReconciliationResult} (h : self.reconcile banks erp gateways = .ok results)
    (v : ResultValues) :
    let inp := sortInputs banks erp gateways
    (v ∈ valuesOf results ∧ v.status = .manyToOneMatch ↔
      ∃ w ∈ visits (self.manyToOneStep inp) (self.afterTolerance inp) inp.banks,
        w.2.sourceRecordId ∉ w.1.usedBanks ∧ eligible w.2 = true ∧
          ∃ chosen, self.SmallestOnly ERPInvoice.amountDue (self.manyToOneCandidates inp w.1 w.2)
            w.2.amount chosen ∧ v = self.manyToOneResult w.2 chosen) ∧
    (v ∈ valuesOf results ∧ v.status = .oneToManyMatch ↔
      ∃ w ∈ visits (self.oneToManyStep inp) (self.afterManyToOne inp) inp.erp,
        w.2.invoiceId ∉ w.1.usedInvoices ∧
          ∃ chosen, self.SmallestOnly BankTransaction.amount (self.oneToManyCandidates inp w.1 w.2)
            w.2.amountDue chosen ∧ v = self.oneToManyResult w.2 chosen) := by
  intro inp
  rcases self.reconcile_cases banks erp gateways with ⟨hids, hok⟩ | ⟨source, -, herror⟩
  · have hsorted : ∀ source, (inp.ids source).Nodup := fun source =>
      (ids_sortInputs_perm banks erp gateways source).nodup_iff.mpr (hids source)
    obtain rfl : (self.afterUnmatched inp).results = results := Except.ok.inj (hok.symm.trans h)
    constructor
    · refine mem_values_manyToOneMatch.trans (exists_congr fun w => and_congr_right fun _ => ?_)
      exact manyToOneEmits_iff hsorted
    · refine mem_values_oneToManyMatch.trans (exists_congr fun w => and_congr_right fun _ => ?_)
      exact oneToManyEmits_iff hsorted
  · cases herror.symm.trans h

/-! ### A payment that two pairs of invoices total -/

/-- A credit of 100 EUR that names five invoices. -/
def collectivePayment : BankTransaction :=
  { deposit with
    description := "Payment of INV-A, INV-B, INV-C, INV-D, INV-E"
    description_text := by decide }

/-- Invoices of 60, 40, 70, 30 and 10 EUR.  Two pairs total 100 EUR, and one triple. -/
def invoiceA : ERPInvoice := { depositInvoice with
  invoiceId := "INV-A", invoiceId_text := by decide
  amountDue := ⟨false, 60, 0⟩, amountDue_valid := by decide }

def invoiceB : ERPInvoice := { depositInvoice with
  invoiceId := "INV-B", invoiceId_text := by decide
  amountDue := ⟨false, 40, 0⟩, amountDue_valid := by decide }

def invoiceC : ERPInvoice := { depositInvoice with
  invoiceId := "INV-C", invoiceId_text := by decide
  amountDue := ⟨false, 70, 0⟩, amountDue_valid := by decide }

def invoiceD : ERPInvoice := { depositInvoice with
  invoiceId := "INV-D", invoiceId_text := by decide
  amountDue := ⟨false, 30, 0⟩, amountDue_valid := by decide }

def invoiceE : ERPInvoice := { depositInvoice with
  invoiceId := "INV-E", invoiceId_text := by decide
  amountDue := ⟨false, 10, 0⟩, amountDue_valid := by decide }

def collectiveInvoices : List ERPInvoice := [invoiceA, invoiceB, invoiceC, invoiceD, invoiceE]

/-- The match of the triple, by `reconcile_groups`. -/
theorem reconcile_groups_triple :
    ∃ results, (⟨.ascii, {}⟩ : ReconciliationEngine).reconcile [collectivePayment]
        collectiveInvoices [] = .ok results ∧
      ∃ w ∈ visits ((⟨.ascii, {}⟩ : ReconciliationEngine).manyToOneStep
          (sortInputs [collectivePayment] collectiveInvoices []))
          ((⟨.ascii, {}⟩ : ReconciliationEngine).afterTolerance
            (sortInputs [collectivePayment] collectiveInvoices []))
          (sortInputs [collectivePayment] collectiveInvoices []).banks,
        w.2.sourceRecordId ∉ w.1.usedBanks ∧ eligible w.2 = true ∧
          ∃ chosen, (⟨.ascii, {}⟩ : ReconciliationEngine).SmallestOnly ERPInvoice.amountDue
            ((⟨.ascii, {}⟩ : ReconciliationEngine).manyToOneCandidates
              (sortInputs [collectivePayment] collectiveInvoices []) w.1 w.2) w.2.amount chosen ∧
            (⟨.ascii, {}⟩ : ReconciliationEngine).manyToOneResult collectivePayment
              [invoiceA, invoiceD, invoiceE] =
            (⟨.ascii, {}⟩ : ReconciliationEngine).manyToOneResult w.2 chosen :=
  ⟨_, rfl, ((reconcile_groups ⟨.ascii, {}⟩ [collectivePayment] collectiveInvoices [] rfl _).1).mp
    (by decide +kernel)⟩

/-- The triple is matched, though each of two pairs totals the payment too. -/
theorem ambiguous_total_matched :
    ¬ ∀ results, (⟨.ascii, {}⟩ : ReconciliationEngine).reconcile [collectivePayment]
        collectiveInvoices [] = .ok results →
      ∀ v ∈ valuesOf results, v.status = .manyToOneMatch →
        ∃ w ∈ visits ((⟨.ascii, {}⟩ : ReconciliationEngine).manyToOneStep
            (sortInputs [collectivePayment] collectiveInvoices []))
            ((⟨.ascii, {}⟩ : ReconciliationEngine).afterTolerance
              (sortInputs [collectivePayment] collectiveInvoices []))
            (sortInputs [collectivePayment] collectiveInvoices []).banks,
          ∃ chosen, v = (⟨.ascii, {}⟩ : ReconciliationEngine).manyToOneResult w.2 chosen ∧
            ∀ group, (⟨.ascii, {}⟩ : ReconciliationEngine).Totals ERPInvoice.amountDue
              ((⟨.ascii, {}⟩ : ReconciliationEngine).manyToOneCandidates
                (sortInputs [collectivePayment] collectiveInvoices []) w.1 w.2) w.2.amount
              group → group = chosen := by
  intro h
  obtain ⟨v, hv, hstatus⟩ : ∃ v ∈ valuesOf ((⟨.ascii, {}⟩ : ReconciliationEngine).afterUnmatched
      (sortInputs [collectivePayment] collectiveInvoices [])).results,
      v.status = .manyToOneMatch := by decide +kernel
  obtain ⟨w, hw, chosen, -, honly⟩ := h _ rfl v hv hstatus
  obtain rfl := List.mem_singleton.mp hw
  have hleft := honly [invoiceA, invoiceB] (by decide +kernel)
  have hright := honly [invoiceC, invoiceD] (by decide +kernel)
  revert hleft hright
  rintro rfl
  decide +kernel

end ReconcileFlow.Reconciliation
