import ReconcileFlow.Reconciliation.Emissions

/-!
# Reconciliation — Outcome

What `reconcile` returns.  The results are the emissions of the seven loops, in order, and then one
result for every record that is left (`mem_values_afterAwaiting`, `values_afterUnmatched`).  Each
lists records of the inputs (`Lists`).  `reconcile` returns them when the ids of each source are
distinct and raises a `ValueError` otherwise (`reconcile_cases`), so what holds of every result is
what holds of these values (`forall_results_iff`).
-/

namespace ReconcileFlow.Reconciliation

open Support

namespace ReconciliationEngine

variable {self : ReconciliationEngine} {inp : Inputs} {s : State} {v : ResultValues}

/-! ### The results are the emissions -/

/-- A result of the first seven rules is emitted at a visit of one of the loops. -/
theorem mem_values_afterAwaiting :
    v ∈ (self.afterAwaiting inp).values ↔
      (∃ w ∈ visits (self.duplicateStep inp) {} (duplicateGroups inp),
        self.duplicateEmits inp w.1 w.2 = some v) ∨
      (∃ w ∈ visits (self.exactStep inp) (self.afterDuplicates inp) inp.erp,
        self.exactEmits inp w.1 w.2 = some v) ∨
      (∃ w ∈ visits (self.settlementStep inp) (self.afterExact inp) (self.settlements inp),
        self.settlementEmits inp w.1 w.2 = some v) ∨
      (∃ w ∈ visits (self.toleranceStep inp) (self.afterSettlements inp) inp.erp,
        self.toleranceEmits inp w.1 w.2 = some v) ∨
      (∃ w ∈ visits (self.manyToOneStep inp) (self.afterTolerance inp) inp.banks,
        self.manyToOneEmits inp w.1 w.2 = some v) ∨
      (∃ w ∈ visits (self.oneToManyStep inp) (self.afterManyToOne inp) inp.erp,
        self.oneToManyEmits inp w.1 w.2 = some v) ∨
      ∃ w ∈ visits (self.awaitingStep inp) (self.afterOneToMany inp) (self.settlements inp),
        self.awaitingEmits inp w.1 w.2 = some v := by
  rw [afterAwaiting, awaitingStep_eq, mem_values_foldl_takeOption, afterOneToMany,
    oneToManyStep_eq, mem_values_foldl_takeOption, afterManyToOne, manyToOneStep_eq,
    mem_values_foldl_takeOption, afterTolerance, toleranceStep_eq, mem_values_foldl_takeOption,
    afterSettlements, settlementStep_eq, mem_values_foldl_takeOption, afterExact, exactStep_eq,
    mem_values_foldl_takeOption, afterDuplicates, duplicateStep_eq, mem_values_foldl_takeOption]
  simp only [or_assoc, State.values, valuesOf, List.map_nil, List.not_mem_nil, false_or]

/-- A loop that adds a result for every item not yet used, and uses none. -/
theorem foldl_addUnused {α : Type} (source : Source) (idOf : α → String)
    (result : α → ResultValues) (xs : List α) (s : State) :
    let step := fun (s : State) x => if idOf x ∈ s.used source then s else s.add (result x)
    (xs.foldl step s).values =
        s.values ++ (xs.filter fun x => decide (idOf x ∉ s.used source)).map result ∧
      ∀ src, (xs.foldl step s).used src = s.used src := by
  intro step
  induction xs generalizing s with
  | nil => simp
  | cons x xs ih =>
      obtain ⟨hvalues, hused⟩ := ih (step s x)
      by_cases hx : idOf x ∈ s.used source
      · have hstep : step s x = s := if_pos hx
        rw [hstep] at hvalues hused
        rw [List.foldl_cons, hstep, List.filter_cons_of_neg (by simpa using hx)]
        exact ⟨hvalues, hused⟩
      · have hstep : step s x = s.add (result x) := if_neg hx
        rw [hstep] at hvalues hused
        rw [List.foldl_cons, hstep, List.filter_cons_of_pos (by simpa using hx)]
        refine ⟨?_, fun src => (hused src).trans (s.used_add _ src)⟩
        rw [hvalues]
        simp

/-- The results are those of the first seven rules, then one for every bank and every invoice
that is left. -/
theorem values_afterUnmatched (self : ReconciliationEngine) (inp : Inputs) :
    (self.afterUnmatched inp).values = (self.afterAwaiting inp).values ++
      (inp.banks.filter fun bank =>
        decide (bank.sourceRecordId ∉ (self.afterAwaiting inp).usedBanks)).map
          unmatchedBankResult ++
      (inp.erp.filter fun invoice =>
        decide (invoice.invoiceId ∉ (self.afterAwaiting inp).usedInvoices)).map
          unmatchedInvoiceResult := by
  obtain ⟨hbanks, hused⟩ := foldl_addUnused .bank BankTransaction.sourceRecordId
    unmatchedBankResult inp.banks (self.afterAwaiting inp)
  obtain ⟨hinvoices, -⟩ := foldl_addUnused .erp ERPInvoice.invoiceId unmatchedInvoiceResult
    inp.erp (inp.banks.foldl unmatchedBankStep (self.afterAwaiting inp))
  refine hinvoices.trans ?_
  rw [show (inp.banks.foldl unmatchedBankStep (self.afterAwaiting inp)).values = _ from hbanks,
    show (inp.banks.foldl unmatchedBankStep (self.afterAwaiting inp)).used .erp = _ from
      hused .erp]
  rfl

theorem mem_values_afterUnmatched :
    v ∈ (self.afterUnmatched inp).values ↔ v ∈ (self.afterAwaiting inp).values ∨
      (∃ bank ∈ inp.banks, bank.sourceRecordId ∉ (self.afterAwaiting inp).usedBanks ∧
        unmatchedBankResult bank = v) ∨
      ∃ invoice ∈ inp.erp, invoice.invoiceId ∉ (self.afterAwaiting inp).usedInvoices ∧
        unmatchedInvoiceResult invoice = v := by
  simp only [values_afterUnmatched, List.mem_append, List.mem_map, List.mem_filter,
    decide_eq_true_eq, or_assoc, and_assoc]

/-- The status of a result tells the rule that emitted it, unless it is for review. -/
theorem emitted_of_status (hv : v ∈ (self.afterUnmatched inp).values) :
    match v.status with
    | .duplicate => ∃ w ∈ visits (self.duplicateStep inp) {} (duplicateGroups inp),
        self.duplicateEmits inp w.1 w.2 = some v
    | .exactMatch => ∃ w ∈ visits (self.exactStep inp) (self.afterDuplicates inp) inp.erp,
        self.exactEmits inp w.1 w.2 = some v
    | .settlementMatch =>
        ∃ w ∈ visits (self.settlementStep inp) (self.afterExact inp) (self.settlements inp),
          self.settlementEmits inp w.1 w.2 = some v
    | .toleranceMatch => ∃ w ∈ visits (self.toleranceStep inp) (self.afterSettlements inp) inp.erp,
        self.toleranceEmits inp w.1 w.2 = some v
    | .manyToOneMatch => ∃ w ∈ visits (self.manyToOneStep inp) (self.afterTolerance inp) inp.banks,
        self.manyToOneEmits inp w.1 w.2 = some v
    | .oneToManyMatch => ∃ w ∈ visits (self.oneToManyStep inp) (self.afterManyToOne inp) inp.erp,
        self.oneToManyEmits inp w.1 w.2 = some v
    | .requiresReview => True := by
  rcases mem_values_afterUnmatched.mp hv with hv | ⟨bank, -, -, rfl⟩ | ⟨invoice, -, -, rfl⟩
  · rcases mem_values_afterAwaiting.mp hv with ⟨w, hw, h⟩ | ⟨w, hw, h⟩ | ⟨w, hw, h⟩ |
      ⟨w, hw, h⟩ | ⟨w, hw, h⟩ | ⟨w, hw, h⟩ | ⟨w, -, h⟩
    · obtain ⟨-, rfl⟩ := duplicateEmits_eq_some.mp h
      exact ⟨w, hw, h⟩
    · obtain ⟨-, bank, -, rfl⟩ := exactEmits_spec h
      exact ⟨w, hw, h⟩
    · obtain ⟨bank, -, rfl⟩ := settlementEmits_eq_some.mp h
      exact ⟨w, hw, h⟩
    · obtain ⟨-, bank, -, rfl⟩ := toleranceEmits_spec h
      exact ⟨w, hw, h⟩
    · obtain ⟨-, -, chosen, -, -, rfl⟩ := manyToOneEmits_spec h
      exact ⟨w, hw, h⟩
    · obtain ⟨-, chosen, -, -, rfl⟩ := oneToManyEmits_spec h
      exact ⟨w, hw, h⟩
    · obtain ⟨first, rest, -, rfl⟩ := awaitingEmits_eq_some.mp h
      trivial
  · trivial
  · trivial

/-- Only the second rule makes exact matches. -/
theorem mem_values_exactMatch :
    v ∈ (self.afterUnmatched inp).values ∧ v.status = .exactMatch ↔
      ∃ w ∈ visits (self.exactStep inp) (self.afterDuplicates inp) inp.erp,
        self.exactEmits inp w.1 w.2 = some v := by
  constructor
  · rintro ⟨hv, hstatus⟩
    simpa only [hstatus] using emitted_of_status hv
  · rintro ⟨w, hw, h⟩
    refine ⟨mem_values_afterUnmatched.mpr (.inl (mem_values_afterAwaiting.mpr
      (.inr (.inl ⟨w, hw, h⟩)))), ?_⟩
    obtain ⟨-, bank, -, rfl⟩ := exactEmits_spec h
    rfl

/-- Only the third rule makes settlement matches. -/
theorem mem_values_settlementMatch :
    v ∈ (self.afterUnmatched inp).values ∧ v.status = .settlementMatch ↔
      ∃ w ∈ visits (self.settlementStep inp) (self.afterExact inp) (self.settlements inp),
        self.settlementEmits inp w.1 w.2 = some v := by
  constructor
  · rintro ⟨hv, hstatus⟩
    simpa only [hstatus] using emitted_of_status hv
  · rintro ⟨w, hw, h⟩
    refine ⟨mem_values_afterUnmatched.mpr (.inl (mem_values_afterAwaiting.mpr
      (.inr (.inr (.inl ⟨w, hw, h⟩))))), ?_⟩
    obtain ⟨bank, -, rfl⟩ := settlementEmits_eq_some.mp h
    rfl

/-- Only the fourth rule makes matches within the tolerance. -/
theorem mem_values_toleranceMatch :
    v ∈ (self.afterUnmatched inp).values ∧ v.status = .toleranceMatch ↔
      ∃ w ∈ visits (self.toleranceStep inp) (self.afterSettlements inp) inp.erp,
        self.toleranceEmits inp w.1 w.2 = some v := by
  constructor
  · rintro ⟨hv, hstatus⟩
    simpa only [hstatus] using emitted_of_status hv
  · rintro ⟨w, hw, h⟩
    refine ⟨mem_values_afterUnmatched.mpr (.inl (mem_values_afterAwaiting.mpr
      (.inr (.inr (.inr (.inl ⟨w, hw, h⟩)))))), ?_⟩
    obtain ⟨-, bank, -, rfl⟩ := toleranceEmits_spec h
    rfl

/-- Only the fifth rule makes many-to-one matches. -/
theorem mem_values_manyToOneMatch :
    v ∈ (self.afterUnmatched inp).values ∧ v.status = .manyToOneMatch ↔
      ∃ w ∈ visits (self.manyToOneStep inp) (self.afterTolerance inp) inp.banks,
        self.manyToOneEmits inp w.1 w.2 = some v := by
  constructor
  · rintro ⟨hv, hstatus⟩
    simpa only [hstatus] using emitted_of_status hv
  · rintro ⟨w, hw, h⟩
    refine ⟨mem_values_afterUnmatched.mpr (.inl (mem_values_afterAwaiting.mpr
      (.inr (.inr (.inr (.inr (.inl ⟨w, hw, h⟩))))))), ?_⟩
    obtain ⟨-, -, chosen, -, -, rfl⟩ := manyToOneEmits_spec h
    rfl

/-- Only the sixth rule makes one-to-many matches. -/
theorem mem_values_oneToManyMatch :
    v ∈ (self.afterUnmatched inp).values ∧ v.status = .oneToManyMatch ↔
      ∃ w ∈ visits (self.oneToManyStep inp) (self.afterManyToOne inp) inp.erp,
        self.oneToManyEmits inp w.1 w.2 = some v := by
  constructor
  · rintro ⟨hv, hstatus⟩
    simpa only [hstatus] using emitted_of_status hv
  · rintro ⟨w, hw, h⟩
    refine ⟨mem_values_afterUnmatched.mpr (.inl (mem_values_afterAwaiting.mpr
      (.inr (.inr (.inr (.inr (.inr (.inl ⟨w, hw, h⟩)))))))), ?_⟩
    obtain ⟨-, chosen, -, -, rfl⟩ := oneToManyEmits_spec h
    rfl

/-- What the first rule emits for a group is among the results. -/
theorem mem_values_of_duplicate {w : State × Group Fingerprint BankTransaction}
    (hw : w ∈ visits (self.duplicateStep inp) {} (duplicateGroups inp))
    (h : self.duplicateEmits inp w.1 w.2 = some v) : v ∈ (self.afterUnmatched inp).values :=
  mem_values_afterUnmatched.mpr (.inl (mem_values_afterAwaiting.mpr (.inl ⟨w, hw, h⟩)))

/-- What the last rule emits for a group is among the results. -/
theorem mem_values_of_awaiting {w : State × Group String GatewaySettlementEntry}
    (hw : w ∈ visits (self.awaitingStep inp) (self.afterOneToMany inp) (self.settlements inp))
    (h : self.awaitingEmits inp w.1 w.2 = some v) : v ∈ (self.afterUnmatched inp).values :=
  mem_values_afterUnmatched.mpr (.inl (mem_values_afterAwaiting.mpr
    (.inr (.inr (.inr (.inr (.inr (.inr ⟨w, hw, h⟩))))))))

/-- All results of a status have a property if all that its rule emits have it. -/
theorem forall_emitted_iff {α : Type} {status : ReconciliationStatus} {P : ResultValues → Prop}
    {taken : List (State × α)} {emits : State → α → Option ResultValues}
    (h : ∀ {v}, v ∈ (self.afterUnmatched inp).values ∧ v.status = status ↔
      ∃ w ∈ taken, emits w.1 w.2 = some v) :
    (∀ v ∈ (self.afterUnmatched inp).values, v.status = status → P v) ↔
      ∀ w ∈ taken, ∀ v, emits w.1 w.2 = some v → P v := by
  constructor
  · intro hall w hw v hv
    obtain ⟨hm, hstatus⟩ := h.mpr ⟨w, hw, hv⟩
    exact hall v hm hstatus
  · intro hall v hm hstatus
    obtain ⟨w, hw, hv⟩ := h.mp ⟨hm, hstatus⟩
    exact hall w hw v hv

end ReconciliationEngine

/-! ### The records of a result -/

/-- The ids of the records of one source. -/
def Inputs.ids (inp : Inputs) : Source → List String
  | .bank => inp.banks.map (·.sourceRecordId)
  | .erp => inp.erp.map (·.invoiceId)
  | .gateway => inp.gateways.map (·.sourceRecordId)

/-- Among records with distinct ids, the id tells whether a record is among the chosen. -/
theorem mem_of_id_mem {α : Type} {records chosen : List α} {idOf : α → String}
    (hids : (records.map idOf).Nodup) (hsub : ∀ x ∈ chosen, x ∈ records) {x : α}
    (hx : x ∈ records) (hid : idOf x ∈ chosen.map idOf) : x ∈ chosen := by
  obtain ⟨y, hy, heq⟩ := List.mem_map.mp hid
  rw [← List.inj_on_of_nodup_map hids (hsub y hy) hx heq]
  exact hy

/-- The values list the ids of the records `recs`, which are among those of the inputs. -/
structure Lists (inp : Inputs) (v : ResultValues) (recs : Inputs) : Prop where
  ids : ∀ source, v.ids source = recs.ids source
  banks : ∀ bank ∈ recs.banks, bank ∈ inp.banks
  erp : ∀ invoice ∈ recs.erp, invoice ∈ inp.erp
  gateways : ∀ entry ∈ recs.gateways, entry ∈ inp.gateways

namespace ReconciliationEngine

variable {self : ReconciliationEngine} {inp : Inputs} {s : State}

theorem lists_duplicate {group : Group Fingerprint BankTransaction}
    (hg : group ∈ duplicateGroups inp) :
    Lists inp (duplicateResult group (self.duplicateLinks inp s group))
      ⟨group.members, self.duplicateLinks inp s group, []⟩ where
  ids := by rintro (_ | _ | _) <;> rfl
  banks := mem_banks_of_group hg
  erp _ hi := (mem_duplicateLinks.mp hi).1
  gateways _ he := absurd he List.not_mem_nil

/-- A bank entry and an invoice. -/
theorem lists_pair {v : ResultValues} {bank : BankTransaction} {invoice : ERPInvoice}
    (hids : ∀ source, v.ids source = (Inputs.mk [bank] [invoice] []).ids source)
    (hb : bank ∈ inp.banks) (hi : invoice ∈ inp.erp) :
    Lists inp v ⟨[bank], [invoice], []⟩ where
  ids := hids
  banks := List.forall_mem_singleton.mpr hb
  erp := List.forall_mem_singleton.mpr hi
  gateways _ he := absurd he List.not_mem_nil

theorem lists_exact {bank : BankTransaction} {invoice : ERPInvoice}
    (hb : bank ∈ self.exactCandidates inp s invoice) (hi : invoice ∈ inp.erp) :
    Lists inp (exactResult bank invoice) ⟨[bank], [invoice], []⟩ :=
  lists_pair (by rintro (_ | _ | _) <;> rfl) (mem_exactCandidates.mp hb).1 hi

theorem lists_tolerance {bank : BankTransaction} {invoice : ERPInvoice}
    (hb : bank ∈ self.toleranceCandidates inp s invoice) (hi : invoice ∈ inp.erp) :
    Lists inp (self.toleranceResult bank invoice) ⟨[bank], [invoice], []⟩ :=
  lists_pair (by rintro (_ | _ | _) <;> rfl) (mem_toleranceCandidates.mp hb).1 hi

theorem lists_settlement {group : Group String GatewaySettlementEntry} {bank : BankTransaction}
    (hg : group ∈ self.settlements inp) (hb : bank ∈ self.settlementCandidates inp s group) :
    Lists inp (self.settlementResult group bank (self.settlementLinks inp s group))
      ⟨[bank], self.settlementLinks inp s group, group.members⟩ where
  ids := by rintro (_ | _ | _) <;> rfl
  banks := List.forall_mem_singleton.mpr (mem_settlementCandidates.mp hb).1
  erp _ hi := (mem_settlementLinks.mp hi).1
  gateways := mem_gateways_of_settlement hg

theorem lists_manyToOne {bank : BankTransaction} {chosen : List ERPInvoice}
    (hb : bank ∈ inp.banks) (hsub : chosen.Sublist (self.manyToOneCandidates inp s bank)) :
    Lists inp (self.manyToOneResult bank chosen) ⟨[bank], chosen, []⟩ where
  ids := by rintro (_ | _ | _) <;> rfl
  banks := List.forall_mem_singleton.mpr hb
  erp _ hi := (mem_manyToOneCandidates.mp (hsub.subset hi)).1
  gateways _ he := absurd he List.not_mem_nil

theorem lists_oneToMany {invoice : ERPInvoice} {chosen : List BankTransaction}
    (hi : invoice ∈ inp.erp) (hsub : chosen.Sublist (self.oneToManyCandidates inp s invoice)) :
    Lists inp (self.oneToManyResult invoice chosen) ⟨chosen, [invoice], []⟩ where
  ids := by rintro (_ | _ | _) <;> rfl
  banks _ hb := (mem_oneToManyCandidates.mp (hsub.subset hb)).1
  erp := List.forall_mem_singleton.mpr hi
  gateways _ he := absurd he List.not_mem_nil

theorem lists_awaiting {group : Group String GatewaySettlementEntry}
    {first : GatewaySettlementEntry} {rest : List GatewaySettlementEntry}
    (hg : group ∈ self.settlements inp) (hr : remainingOf s group = first :: rest) :
    Lists inp (self.awaitingResult first (first :: rest) (awaitingLinks inp s (first :: rest)))
      ⟨[], awaitingLinks inp s (first :: rest), first :: rest⟩ where
  ids := by rintro (_ | _ | _) <;> rfl
  banks _ hb := absurd hb List.not_mem_nil
  erp _ hi := (mem_awaitingLinks.mp hi).1
  gateways entry he := mem_gateways_of_settlement hg entry (mem_remainingOf.mp (hr ▸ he)).1

theorem lists_unmatchedBank {bank : BankTransaction} (hb : bank ∈ inp.banks) :
    Lists inp (unmatchedBankResult bank) ⟨[bank], [], []⟩ where
  ids := by rintro (_ | _ | _) <;> rfl
  banks := List.forall_mem_singleton.mpr hb
  erp _ hi := absurd hi List.not_mem_nil
  gateways _ he := absurd he List.not_mem_nil

theorem lists_unmatchedInvoice {invoice : ERPInvoice} (hi : invoice ∈ inp.erp) :
    Lists inp (unmatchedInvoiceResult invoice) ⟨[], [invoice], []⟩ where
  ids := by rintro (_ | _ | _) <;> rfl
  banks _ hb := absurd hb List.not_mem_nil
  erp := List.forall_mem_singleton.mpr hi
  gateways _ he := absurd he List.not_mem_nil

end ReconciliationEngine

/-! ### The whole run -/

/-- The label of a source in the message of a `ValueError`. -/
def Source.label : Source → String
  | .bank => "bank"
  | .erp => "invoice"
  | .gateway => "gateway"

/-- The error of a source with repeated ids. -/
def repeatedIds (source : Source) : ValueError :=
  ⟨source.label ++ " input contains duplicate canonical source IDs"⟩

/-- The first source with repeated ids is refused. -/
theorem validateUniqueSourceIds_eq (inp : Inputs) :
    validateUniqueSourceIds inp =
      if (inp.ids .bank).Nodup then
        if (inp.ids .erp).Nodup then
          if (inp.ids .gateway).Nodup then .ok () else .error (repeatedIds .gateway)
        else .error (repeatedIds .erp)
      else .error (repeatedIds .bank) := by
  have hlength : ∀ l : List String, l.length ≠ l.dedup.length ↔ ¬ l.Nodup := fun l =>
    not_congr (eq_comm.trans ((List.dedup_sublist l).length_eq.trans List.dedup_eq_self))
  have hbank : inp.banks.map (·.sourceRecordId) = inp.ids .bank := rfl
  have herp : inp.erp.map (·.invoiceId) = inp.ids .erp := rfl
  have hgateway : inp.gateways.map (·.sourceRecordId) = inp.ids .gateway := rfl
  simp only [validateUniqueSourceIds, List.forM_eq_forM, List.forM_cons, List.forM_nil, hlength,
    hbank, herp, hgateway]
  split_ifs <;> rfl

theorem validateUniqueSourceIds_cases (inp : Inputs) :
    ((∀ source, (inp.ids source).Nodup) ∧ validateUniqueSourceIds inp = .ok ()) ∨
      ∃ source, ¬ (inp.ids source).Nodup ∧
        validateUniqueSourceIds inp = .error (repeatedIds source) := by
  rw [validateUniqueSourceIds_eq]
  by_cases hbank : (inp.ids .bank).Nodup
  · by_cases herp : (inp.ids .erp).Nodup
    · by_cases hgateway : (inp.ids .gateway).Nodup
      · refine .inl ⟨fun source => ?_, by simp [hbank, herp, hgateway]⟩
        cases source
        · exact hbank
        · exact herp
        · exact hgateway
      · exact .inr ⟨.gateway, hgateway, by simp [hbank, herp, hgateway]⟩
    · exact .inr ⟨.erp, herp, by simp [hbank, herp]⟩
  · exact .inr ⟨.bank, hbank, by simp [hbank]⟩

/-- The ids of the records given to `reconcile`. -/
def recordIds (bankTransactions : List BankTransaction) (invoices : List ERPInvoice)
    (gatewayEntries : List GatewaySettlementEntry) : Source → List String :=
  (Inputs.mk bankTransactions invoices gatewayEntries).ids

/-- Sorting the inputs does not change their ids, but for the order. -/
theorem ids_sortInputs_perm (banks : List BankTransaction) (erp : List ERPInvoice)
    (gateways : List GatewaySettlementEntry) (source : Source) :
    ((sortInputs banks erp gateways).ids source).Perm (recordIds banks erp gateways source) := by
  cases source <;> exact (sortOn_perm _ _).map _

theorem ReconciliationEngine.reconcile_ok (self : ReconciliationEngine)
    {banks : List BankTransaction} {erp : List ERPInvoice}
    {gateways : List GatewaySettlementEntry}
    (h : validateUniqueSourceIds (sortInputs banks erp gateways) = .ok ()) :
    self.reconcile banks erp gateways =
      .ok (self.afterUnmatched (sortInputs banks erp gateways)).results := by
  simp only [reconcile, h]
  rfl

theorem ReconciliationEngine.reconcile_error (self : ReconciliationEngine)
    {banks : List BankTransaction} {erp : List ERPInvoice}
    {gateways : List GatewaySettlementEntry} {e : ValueError}
    (h : validateUniqueSourceIds (sortInputs banks erp gateways) = .error e) :
    self.reconcile banks erp gateways = .error e := by
  simp only [reconcile, h]
  rfl

/-- **The two outcomes.**  Either the ids of each source are distinct and the results are those of
the eight rules on the sorted inputs, or some source has repeated ids and is refused. -/
theorem ReconciliationEngine.reconcile_cases (self : ReconciliationEngine)
    (banks : List BankTransaction) (erp : List ERPInvoice)
    (gateways : List GatewaySettlementEntry) :
    ((∀ source, (recordIds banks erp gateways source).Nodup) ∧
        self.reconcile banks erp gateways =
          .ok (self.afterUnmatched (sortInputs banks erp gateways)).results) ∨
      ∃ source, ¬ (recordIds banks erp gateways source).Nodup ∧
        self.reconcile banks erp gateways = .error (repeatedIds source) := by
  have hnodup : ∀ source, ((sortInputs banks erp gateways).ids source).Nodup ↔
      (recordIds banks erp gateways source).Nodup := fun source =>
    (ids_sortInputs_perm banks erp gateways source).nodup_iff
  rcases validateUniqueSourceIds_cases (sortInputs banks erp gateways) with
    ⟨hall, hok⟩ | ⟨source, hrepeated, herror⟩
  · exact .inl ⟨fun source => (hnodup source).mp (hall source), self.reconcile_ok hok⟩
  · exact .inr ⟨source, fun h => hrepeated ((hnodup source).mpr h), self.reconcile_error herror⟩

/-- What holds of every result is what holds of all values at the end of the eight rules. -/
theorem ReconciliationEngine.forall_results_iff (self : ReconciliationEngine)
    (banks : List BankTransaction) (erp : List ERPInvoice)
    (gateways : List GatewaySettlementEntry) (P : ResultValues → Prop) :
    (∀ results, self.reconcile banks erp gateways = .ok results →
        ∀ r ∈ results, P r.toResultValues) ↔
      ((∀ source, (recordIds banks erp gateways source).Nodup) →
        ∀ v ∈ (self.afterUnmatched (sortInputs banks erp gateways)).values, P v) := by
  rcases self.reconcile_cases banks erp gateways with ⟨hids, hok⟩ | ⟨source, hrepeated, herror⟩
  · constructor
    · intro h _ v hv
      obtain ⟨r, hr, rfl⟩ := List.mem_map.mp hv
      exact h _ hok r hr
    · intro h results hresults r hr
      rw [hok] at hresults
      cases hresults
      exact h hids _ (List.mem_map_of_mem hr)
  · constructor
    · exact fun _ hids => absurd (hids source) hrepeated
    · intro _ results hresults
      rw [herror] at hresults
      cases hresults

/-! ### A deposit and its invoice -/

/-- A credit of 100 EUR for the invoice `INV-1`. -/
def deposit : BankTransaction where
  sourceRecordId := "B-1"
  transactionId := "T-1"
  bookingDate := 739000
  amount := ⟨false, 10000, -2⟩
  currency := "EUR"
  creditDebitIndicator := .credit
  status := .booked
  description := "Payment of INV-1"

/-- The invoice `INV-1` of 100 EUR. -/
def depositInvoice : ERPInvoice where
  invoiceId := "INV-1"
  invoiceNumber := "2024-001"
  invoiceType := .invoice
  status := .open
  issueDate := 738990
  currency := "EUR"
  amountDue := ⟨false, 100, 0⟩

end ReconcileFlow.Reconciliation
