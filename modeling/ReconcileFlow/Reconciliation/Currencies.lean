import ReconcileFlow.Reconciliation.Outcome

/-!
# Reconciliation — Currencies

Whether the records of a result agree in currency.  The five rules that match bank entries to
invoices compare the currencies of every pair, and the results of what is left hold one record,
so theirs always agree.  Three rules do not compare them all: a group of duplicates links
invoices by reference alone; a settlement group is formed by its settlement id and is judged by
its first entry; and an awaiting group links invoices by reference alone.  `reconcile_currencies_iff`
says when their results agree too, in terms of the states in which they take a group.
-/

namespace ReconcileFlow.Reconciliation

open Support ReconciliationEngine

/-- The records that the values list agree in currency. -/
structure CurrenciesAgree (banks : List BankTransaction) (erp : List ERPInvoice)
    (gateways : List GatewaySettlementEntry) (v : ResultValues) : Prop where
  banks : ∀ bank ∈ banks, bank.sourceRecordId ∈ v.bankSourceRecordIds →
    v.currency = some bank.currency
  invoices : v.gatewaySourceRecordIds = [] → ∀ invoice ∈ erp,
    invoice.invoiceId ∈ v.erpInvoiceIds → v.currency = some invoice.currency
  entries : ∀ entry ∈ gateways, entry.sourceRecordId ∈ v.gatewaySourceRecordIds →
    v.currency = some entry.settlementCurrency
  linked : ∀ entry ∈ gateways, entry.sourceRecordId ∈ v.gatewaySourceRecordIds →
    ∀ invoice ∈ erp, invoice.invoiceId ∈ v.erpInvoiceIds → invoice.currency = entry.currency

/-- The records agree in currency, with each other and with `currency`. -/
structure Agree (recs : Inputs) (currency : Option String) : Prop where
  banks : ∀ bank ∈ recs.banks, currency = some bank.currency
  invoices : recs.gateways = [] → ∀ invoice ∈ recs.erp, currency = some invoice.currency
  entries : ∀ entry ∈ recs.gateways, currency = some entry.settlementCurrency
  linked : ∀ entry ∈ recs.gateways, ∀ invoice ∈ recs.erp, invoice.currency = entry.currency

theorem currenciesAgree_iff {inp recs : Inputs} {v : ResultValues}
    (hids : ∀ source, (inp.ids source).Nodup) (h : Lists inp v recs) :
    CurrenciesAgree inp.banks inp.erp inp.gateways v ↔ Agree recs v.currency := by
  have hbanks : v.bankSourceRecordIds = recs.banks.map (·.sourceRecordId) := h.ids .bank
  have herp : v.erpInvoiceIds = recs.erp.map (·.invoiceId) := h.ids .erp
  have hgateways : v.gatewaySourceRecordIds = recs.gateways.map (·.sourceRecordId) :=
    h.ids .gateway
  have hnil : v.gatewaySourceRecordIds = [] ↔ recs.gateways = [] := by
    rw [hgateways, List.map_eq_nil_iff]
  constructor
  · intro hv
    refine ⟨fun bank hb => ?_, fun hn invoice hi => ?_, fun entry he => ?_,
      fun entry he invoice hi => ?_⟩
    · exact hv.banks bank (h.banks bank hb) (hbanks ▸ List.mem_map_of_mem hb)
    · exact hv.invoices (hnil.mpr hn) invoice (h.erp invoice hi) (herp ▸ List.mem_map_of_mem hi)
    · exact hv.entries entry (h.gateways entry he) (hgateways ▸ List.mem_map_of_mem he)
    · exact hv.linked entry (h.gateways entry he) (hgateways ▸ List.mem_map_of_mem he) invoice
        (h.erp invoice hi) (herp ▸ List.mem_map_of_mem hi)
  · intro hr
    refine ⟨fun bank hb hid => ?_, fun hn invoice hi hid => ?_, fun entry he hid => ?_,
      fun entry he hid invoice hi hid' => ?_⟩
    · exact hr.banks bank (mem_of_id_mem (hids .bank) h.banks hb (hbanks ▸ hid))
    · exact hr.invoices (hnil.mp hn) invoice (mem_of_id_mem (hids .erp) h.erp hi (herp ▸ hid))
    · exact hr.entries entry (mem_of_id_mem (hids .gateway) h.gateways he (hgateways ▸ hid))
    · exact hr.linked entry (mem_of_id_mem (hids .gateway) h.gateways he (hgateways ▸ hid))
        invoice (mem_of_id_mem (hids .erp) h.erp hi (herp ▸ hid'))

namespace ReconciliationEngine

variable (self : ReconciliationEngine) (inp : Inputs)

/-- In every state in which one of the three rules takes a group, the currencies that it does not
compare are equal. -/
structure CurrenciesMeet : Prop where
  /-- The first rule: a group of at least two, and the unused invoices it references. -/
  duplicates : ∀ w ∈ visits (self.duplicateStep inp) {} (duplicateGroups inp),
    2 ≤ w.2.members.length → ∀ invoice ∈ inp.erp, invoice.invoiceId ∉ w.1.usedInvoices →
      (∃ bank ∈ w.2.members, mentions self.runtime bank invoice = true ∧
        withinDays bank invoice self.config.dateToleranceDays = true) →
      invoice.currency = w.2.first.currency
  /-- The third rule, where one bank entry is the payout of the group: the settlement currencies
  of the group, and its currencies if there is an invoice to link. -/
  settlements : ∀ w ∈ visits (self.settlementStep inp) (self.afterExact inp)
      (self.settlements inp),
    (self.settlementCandidates inp w.1 w.2).length = 1 → ∀ entry ∈ w.2.members,
      entry.settlementCurrency = w.2.first.settlementCurrency ∧
        ((∃ invoice ∈ inp.erp, invoice.invoiceId ∉ w.1.usedInvoices ∧
            invoice.currency = w.2.first.currency ∧
            invoice.amountDue.numEq (self.grossOf w.2.members) = true ∧
            ∃ entry ∈ w.2.members, referencesInvoice entry invoice = true) →
          entry.currency = w.2.first.currency)
  /-- The seventh rule: the settlement currencies of the entries that remain, and each with the
  unused invoices that one of them references. -/
  awaiting : ∀ w ∈ visits (self.awaitingStep inp) (self.afterOneToMany inp)
      (self.settlements inp),
    ∀ entry ∈ remainingOf w.1 w.2,
      (∀ other ∈ remainingOf w.1 w.2, other.settlementCurrency = entry.settlementCurrency) ∧
        ∀ invoice ∈ inp.erp, invoice.invoiceId ∉ w.1.usedInvoices →
          (∃ other ∈ remainingOf w.1 w.2, referencesInvoice other invoice = true) →
          invoice.currency = entry.currency

variable {self inp} {s : State}

/-- The entries of a duplicate group have the fingerprint of the first. -/
theorem same_of_group {group : Group Fingerprint BankTransaction}
    (hg : group ∈ duplicateGroups inp) :
    ∀ bank ∈ group.members, (fingerprint group.first).same (fingerprint bank) = true := by
  have hkeyed := keyed_groupOn fingerprint Fingerprint.same_refl inp.banks
  have hmem := (mem_sortOn _).mp hg
  intro bank hb
  rw [← hkeyed.first group hmem]
  exact hkeyed.members group hmem bank hb

theorem currency_of_group {group : Group Fingerprint BankTransaction}
    (hg : group ∈ duplicateGroups inp) :
    ∀ bank ∈ group.members, bank.currency = group.first.currency := by
  intro bank hb
  obtain ⟨-, -, -, hcurrency, -⟩ := (Fingerprint.same_iff _ _).mp (same_of_group hg bank hb)
  exact hcurrency.symm

theorem agree_duplicate_iff {group : Group Fingerprint BankTransaction}
    (hg : group ∈ duplicateGroups inp) :
    Agree ⟨group.members, self.duplicateLinks inp s group, []⟩ (some group.first.currency) ↔
      ∀ invoice ∈ inp.erp, invoice.invoiceId ∉ s.usedInvoices →
        (∃ bank ∈ group.members, mentions self.runtime bank invoice = true ∧
          withinDays bank invoice self.config.dateToleranceDays = true) →
        invoice.currency = group.first.currency := by
  constructor
  · intro h invoice hi hunused href
    have hlinked := h.invoices rfl invoice (mem_duplicateLinks.mpr ⟨hi, hunused, href⟩)
    exact (Option.some.inj hlinked).symm
  · intro h
    refine ⟨fun bank hb => congrArg some (currency_of_group hg bank hb).symm,
      fun _ invoice hl => ?_, fun _ he => absurd he List.not_mem_nil,
      fun _ he => absurd he List.not_mem_nil⟩
    obtain ⟨hi, hunused, href⟩ := mem_duplicateLinks.mp hl
    exact congrArg some (h invoice hi hunused href).symm

/-- A bank entry and an invoice that a rule has compared. -/
theorem agree_pairs {banks : List BankTransaction} {erp : List ERPInvoice} {currency : String}
    (hb : ∀ bank ∈ banks, bank.currency = currency)
    (hi : ∀ invoice ∈ erp, invoice.currency = currency) :
    Agree ⟨banks, erp, []⟩ (some currency) where
  banks bank h := congrArg some (hb bank h).symm
  invoices _ invoice h := congrArg some (hi invoice h).symm
  entries _ he := absurd he List.not_mem_nil
  linked _ he := absurd he List.not_mem_nil

theorem agree_settlement_iff {group : Group String GatewaySettlementEntry}
    {bank : BankTransaction} (hb : bank ∈ self.settlementCandidates inp s group) :
    Agree ⟨[bank], self.settlementLinks inp s group, group.members⟩
        (some group.first.settlementCurrency) ↔
      ∀ entry ∈ group.members,
        entry.settlementCurrency = group.first.settlementCurrency ∧
          ((∃ invoice ∈ inp.erp, invoice.invoiceId ∉ s.usedInvoices ∧
              invoice.currency = group.first.currency ∧
              invoice.amountDue.numEq (self.grossOf group.members) = true ∧
              ∃ entry ∈ group.members, referencesInvoice entry invoice = true) →
            entry.currency = group.first.currency) := by
  obtain ⟨-, -, -, hcurrency, -⟩ := mem_settlementCandidates.mp hb
  constructor
  · rintro h entry he
    refine ⟨(Option.some.inj (h.entries entry he)).symm, ?_⟩
    rintro ⟨invoice, hi, hunused, hfirst, hamount, href⟩
    have hlinked := h.linked entry he invoice
      (mem_settlementLinks.mpr ⟨hi, hunused, hfirst, hamount, href⟩)
    exact hlinked.symm.trans hfirst
  · intro h
    refine ⟨List.forall_mem_singleton.mpr (congrArg some hcurrency.symm), fun hnil => ?_,
      fun entry he => congrArg some (h entry he).1.symm, fun entry he invoice hl => ?_⟩
    · exact absurd hnil (List.cons_ne_nil _ _)
    · obtain ⟨hi, hunused, hfirst, hamount, href⟩ := mem_settlementLinks.mp hl
      exact hfirst.trans ((h entry he).2 ⟨invoice, hi, hunused, hfirst, hamount, href⟩).symm

theorem agree_awaiting_iff {group : Group String GatewaySettlementEntry}
    {first : GatewaySettlementEntry} {rest : List GatewaySettlementEntry}
    (hr : remainingOf s group = first :: rest) :
    Agree ⟨[], awaitingLinks inp s (first :: rest), first :: rest⟩
        (some first.settlementCurrency) ↔
      ∀ entry ∈ remainingOf s group,
        (∀ other ∈ remainingOf s group, other.settlementCurrency = entry.settlementCurrency) ∧
          ∀ invoice ∈ inp.erp, invoice.invoiceId ∉ s.usedInvoices →
            (∃ other ∈ remainingOf s group, referencesInvoice other invoice = true) →
            invoice.currency = entry.currency := by
  rw [hr]
  constructor
  · rintro h entry he
    have hfirst : ∀ other ∈ first :: rest, other.settlementCurrency = first.settlementCurrency :=
      fun other ho => (Option.some.inj (h.entries other ho)).symm
    refine ⟨fun other ho => (hfirst other ho).trans (hfirst entry he).symm, ?_⟩
    exact fun invoice hi hunused href =>
      h.linked entry he invoice (mem_awaitingLinks.mpr ⟨hi, hunused, href⟩)
  · intro h
    refine ⟨fun _ hb => absurd hb List.not_mem_nil, fun hnil => absurd hnil (List.cons_ne_nil _ _),
      fun entry he => congrArg some ((h entry he).1 first List.mem_cons_self),
      fun entry he invoice hl => ?_⟩
    obtain ⟨hi, hunused, href⟩ := mem_awaitingLinks.mp hl
    exact (h entry he).2 invoice hi hunused href

theorem currenciesAgree_values_iff (hids : ∀ source, (inp.ids source).Nodup) :
    (∀ v ∈ (self.afterUnmatched inp).values,
        CurrenciesAgree inp.banks inp.erp inp.gateways v) ↔ self.CurrenciesMeet inp := by
  constructor
  · intro h
    refine ⟨fun w hw hlen => ?_, fun w hw hlen => ?_, fun w hw => ?_⟩
    · have hg := mem_of_visits hw
      have hemits : self.duplicateEmits inp w.1 w.2 = some _ :=
        duplicateEmits_eq_some.mpr ⟨hlen, rfl⟩
      have hagree := h _ (mem_values_of_duplicate hw hemits)
      exact (agree_duplicate_iff hg).mp ((currenciesAgree_iff hids (lists_duplicate hg)).mp hagree)
    · obtain ⟨bank, hbank⟩ := List.length_eq_one_iff.mp hlen
      have hb : bank ∈ self.settlementCandidates inp w.1 w.2 :=
        hbank ▸ List.mem_singleton_self bank
      have hemits : self.settlementEmits inp w.1 w.2 = some _ :=
        settlementEmits_eq_some.mpr ⟨bank, hbank, rfl⟩
      have hagree := h _ (mem_values_settlementMatch.mpr ⟨w, hw, hemits⟩).1
      exact (agree_settlement_iff hb).mp
        ((currenciesAgree_iff hids (lists_settlement (mem_of_visits hw) hb)).mp hagree)
    · cases hr : remainingOf w.1 w.2 with
      | nil => exact fun _ he => absurd he List.not_mem_nil
      | cons first rest =>
          have hemits : self.awaitingEmits inp w.1 w.2 = some _ :=
            awaitingEmits_eq_some.mpr ⟨first, rest, hr, rfl⟩
          have hagree := h _ (mem_values_of_awaiting hw hemits)
          rw [← hr]
          exact (agree_awaiting_iff hr).mp
            ((currenciesAgree_iff hids (lists_awaiting (mem_of_visits hw) hr)).mp hagree)
  · rintro ⟨hduplicates, hsettlements, hawaiting⟩ v hv
    rcases mem_values_afterUnmatched.mp hv with hv | ⟨bank, hb, -, rfl⟩ | ⟨invoice, hi, -, rfl⟩
    · rcases mem_values_afterAwaiting.mp hv with ⟨w, hw, h⟩ | ⟨w, hw, h⟩ | ⟨w, hw, h⟩ |
        ⟨w, hw, h⟩ | ⟨w, hw, h⟩ | ⟨w, hw, h⟩ | ⟨w, hw, h⟩
      · obtain ⟨hlen, rfl⟩ := duplicateEmits_eq_some.mp h
        have hg := mem_of_visits hw
        exact (currenciesAgree_iff hids (lists_duplicate hg)).mpr
          ((agree_duplicate_iff hg).mpr (hduplicates w hw hlen))
      · obtain ⟨-, bank, hb, rfl⟩ := exactEmits_spec h
        obtain ⟨-, -, -, hcurrency, -⟩ := mem_exactCandidates.mp hb
        exact (currenciesAgree_iff hids (lists_exact hb (mem_of_visits hw))).mpr
          (agree_pairs (List.forall_mem_singleton.mpr hcurrency)
            (List.forall_mem_singleton.mpr rfl))
      · obtain ⟨bank, hbank, rfl⟩ := settlementEmits_eq_some.mp h
        have hb : bank ∈ self.settlementCandidates inp w.1 w.2 :=
          hbank ▸ List.mem_singleton_self bank
        exact (currenciesAgree_iff hids (lists_settlement (mem_of_visits hw) hb)).mpr
          ((agree_settlement_iff hb).mpr (hsettlements w hw (hbank ▸ rfl)))
      · obtain ⟨-, bank, hb, rfl⟩ := toleranceEmits_spec h
        obtain ⟨-, -, -, hcurrency, -⟩ := mem_toleranceCandidates.mp hb
        exact (currenciesAgree_iff hids (lists_tolerance hb (mem_of_visits hw))).mpr
          (agree_pairs (List.forall_mem_singleton.mpr hcurrency)
            (List.forall_mem_singleton.mpr rfl))
      · obtain ⟨-, -, chosen, hne, hc, rfl⟩ := manyToOneEmits_spec h
        obtain ⟨hsub, -⟩ := matchingGroup_spec hc hne
        exact (currenciesAgree_iff hids (lists_manyToOne (mem_of_visits hw) hsub)).mpr
          (agree_pairs (List.forall_mem_singleton.mpr rfl) fun invoice hi =>
            (mem_manyToOneCandidates.mp (hsub.subset hi)).2.2.1)
      · obtain ⟨-, chosen, hne, hc, rfl⟩ := oneToManyEmits_spec h
        obtain ⟨hsub, -⟩ := matchingGroup_spec hc hne
        exact (currenciesAgree_iff hids (lists_oneToMany (mem_of_visits hw) hsub)).mpr
          (agree_pairs (fun bank hb =>
            (mem_oneToManyCandidates.mp (hsub.subset hb)).2.2.2.1)
            (List.forall_mem_singleton.mpr rfl))
      · obtain ⟨first, rest, hr, rfl⟩ := awaitingEmits_eq_some.mp h
        exact (currenciesAgree_iff hids (lists_awaiting (mem_of_visits hw) hr)).mpr
          ((agree_awaiting_iff hr).mpr (hawaiting w hw))
    · exact (currenciesAgree_iff hids (lists_unmatchedBank hb)).mpr
        (agree_pairs (List.forall_mem_singleton.mpr rfl) fun _ hi => absurd hi List.not_mem_nil)
    · exact (currenciesAgree_iff hids (lists_unmatchedInvoice hi)).mpr
        (agree_pairs (fun _ hb => absurd hb List.not_mem_nil) (List.forall_mem_singleton.mpr rfl))

end ReconciliationEngine

/-- **When the currencies of every result agree.**  They do if and only if the three rules that do
not compare them all meet equal currencies in every state in which they take a group. -/
theorem reconcile_currencies_iff (self : ReconciliationEngine) (banks : List BankTransaction)
    (erp : List ERPInvoice) (gateways : List GatewaySettlementEntry) :
    (∀ results, self.reconcile banks erp gateways = .ok results →
        ∀ r ∈ results, CurrenciesAgree banks erp gateways r.toResultValues) ↔
      ((∀ source, (recordIds banks erp gateways source).Nodup) →
        self.CurrenciesMeet (sortInputs banks erp gateways)) := by
  rw [self.forall_results_iff]
  refine forall_congr' fun hids => ?_
  have hsorted := fun source =>
    (ids_sortInputs_perm banks erp gateways source).nodup_iff.mpr (hids source)
  rw [← currenciesAgree_values_iff hsorted]
  refine forall₂_congr fun v _ => ?_
  constructor
  · rintro ⟨h₁, h₂, h₃, h₄⟩
    constructor <;> simpa only [sortInputs, mem_sortOn]
  · rintro ⟨h₁, h₂, h₃, h₄⟩
    simp only [sortInputs, mem_sortOn] at h₁ h₂ h₃ h₄
    exact ⟨h₁, h₂, h₃, h₄⟩

/-- The deposit, delivered again under another id. -/
def depositAgain : BankTransaction :=
  { deposit with sourceRecordId := "B-2", sourceRecordId_text := by decide }

/-- The invoice of the deposit, but in USD. -/
def dollarInvoice : ERPInvoice :=
  { depositInvoice with currency := "USD", currency_valid := by decide }

/-- A deposit that was delivered twice is reported in EUR with an invoice in USD. -/
theorem duplicate_links_dollars :
    ¬ ∀ results,
      (⟨.ascii, {}⟩ : ReconciliationEngine).reconcile [deposit, depositAgain] [dollarInvoice] [] =
          .ok results →
        ∀ r ∈ results,
          CurrenciesAgree [deposit, depositAgain] [dollarInvoice] [] r.toResultValues := by
  intro h
  have hok : (⟨.ascii, {}⟩ : ReconciliationEngine).reconcile [deposit, depositAgain]
      [dollarInvoice] [] = .ok (number [duplicateResult
        ⟨fingerprint deposit, deposit, [depositAgain]⟩ [dollarInvoice]]) := by decide +kernel
  have hcurrency := (h _ hok _ List.mem_cons_self).invoices rfl dollarInvoice
    List.mem_cons_self List.mem_cons_self
  exact absurd hcurrency (by decide)

end ReconcileFlow.Reconciliation
