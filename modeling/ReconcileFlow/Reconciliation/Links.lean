import ReconcileFlow.Reconciliation.Outcome

/-!
# Reconciliation — Links

The invoices that the two gateway rules link to settlement entries.  An entry should link an
invoice by naming it: its invoice reference is there, and is the invoice's id, its number or its
payment reference (`names`).  The rules test membership of the reference in the set of the three
instead, and an absent reference is a member of the set of an invoice without a payment
reference.  `referencesInvoice_iff` separates the two cases, and `reconcile_links_iff` says when
every link is by name: when no group that a rule takes holds an entry without a reference, next
to an invoice without a payment reference that no entry of the group names.
-/

namespace ReconcileFlow.Reconciliation

open Support ReconciliationEngine

/-- The entry's invoice reference is present and is one of the invoice's. -/
def names (entry : GatewaySettlementEntry) (invoice : ERPInvoice) : Bool :=
  entry.invoiceReference.any fun reference =>
    reference == invoice.invoiceId || reference == invoice.invoiceNumber ||
      invoice.paymentReference == some reference

/-- The entry and the invoice have no reference to compare. -/
def nameless (entry : GatewaySettlementEntry) (invoice : ERPInvoice) : Bool :=
  entry.invoiceReference.isNone && invoice.paymentReference.isNone

/-- The set membership holds of an entry that names the invoice, and when both have nothing to
compare. -/
theorem referencesInvoice_iff (entry : GatewaySettlementEntry) (invoice : ERPInvoice) :
    referencesInvoice entry invoice = true ↔
      names entry invoice = true ∨ nameless entry invoice = true := by
  cases hentry : entry.invoiceReference with
  | none =>
      cases hinvoice : invoice.paymentReference <;>
        simp [referencesInvoice, names, nameless, hentry, hinvoice]
  | some reference =>
      simp [referencesInvoice, names, nameless, hentry, or_assoc,
        @eq_comm _ invoice.paymentReference]

/-- Every invoice that a gateway result lists is named by an entry that it lists. -/
def LinksNamed (erp : List ERPInvoice) (gateways : List GatewaySettlementEntry)
    (v : ResultValues) : Prop :=
  v.rule ∈ ["GATEWAY_NET_TO_BANK", "GATEWAY_AWAITING_BANK_SETTLEMENT"] →
    ∀ invoice ∈ erp, invoice.invoiceId ∈ v.erpInvoiceIds →
      ∃ entry ∈ gateways, entry.sourceRecordId ∈ v.gatewaySourceRecordIds ∧
        names entry invoice = true

instance (erp : List ERPInvoice) (gateways : List GatewaySettlementEntry) (v : ResultValues) :
    Decidable (LinksNamed erp gateways v) :=
  inferInstanceAs (Decidable (_ → _))

/-- An invoice with nothing to compare to an entry is named by another. -/
def NamedIfNameless (entries : List GatewaySettlementEntry) (invoice : ERPInvoice) : Prop :=
  (∃ entry ∈ entries, nameless entry invoice = true) → ∃ entry ∈ entries,
    names entry invoice = true

theorem namedIfNameless_iff {entries : List GatewaySettlementEntry} {invoice : ERPInvoice} :
    NamedIfNameless entries invoice ↔
      ((∃ entry ∈ entries, referencesInvoice entry invoice = true) →
        ∃ entry ∈ entries, names entry invoice = true) := by
  constructor
  · rintro h ⟨entry, he, href⟩
    rcases (referencesInvoice_iff entry invoice).mp href with hnames | hnameless
    · exact ⟨entry, he, hnames⟩
    · exact h ⟨entry, he, hnameless⟩
  · rintro h ⟨entry, he, hnameless⟩
    exact h ⟨entry, he, (referencesInvoice_iff entry invoice).mpr (.inr hnameless)⟩

namespace ReconciliationEngine

variable (self : ReconciliationEngine) (inp : Inputs)

/-- In no state in which a gateway rule takes a group does it find an unused invoice that only
entries without a reference could link. -/
structure NoNamelessLink : Prop where
  /-- The third rule, where one bank entry is the payout of the group. -/
  settlement : ∀ w ∈ visits (self.settlementStep inp) (self.afterExact inp)
      (self.settlements inp),
    (self.settlementCandidates inp w.1 w.2).length = 1 → ∀ invoice ∈ inp.erp,
      invoice.invoiceId ∉ w.1.usedInvoices → invoice.currency = w.2.first.currency →
      invoice.amountDue.numEq (self.grossOf w.2.members) = true →
      NamedIfNameless w.2.members invoice
  /-- The seventh rule. -/
  awaiting : ∀ w ∈ visits (self.awaitingStep inp) (self.afterOneToMany inp)
      (self.settlements inp), ∀ invoice ∈ inp.erp,
    invoice.invoiceId ∉ w.1.usedInvoices → NamedIfNameless (remainingOf w.1 w.2) invoice

variable {self inp}

/-- The links of a gateway result are by name when those of the records that it lists are. -/
theorem linksNamed_iff {v : ResultValues} {recs : Inputs}
    (hrule : v.rule ∈ ["GATEWAY_NET_TO_BANK", "GATEWAY_AWAITING_BANK_SETTLEMENT"])
    (hids : ∀ source, (inp.ids source).Nodup) (h : Lists inp v recs) :
    LinksNamed inp.erp inp.gateways v ↔
      ∀ invoice ∈ recs.erp, ∃ entry ∈ recs.gateways, names entry invoice = true := by
  have herp : v.erpInvoiceIds = recs.erp.map (·.invoiceId) := h.ids .erp
  have hgateways : v.gatewaySourceRecordIds = recs.gateways.map (·.sourceRecordId) :=
    h.ids .gateway
  constructor
  · intro hlinks invoice hi
    obtain ⟨entry, hg, hid, hnames⟩ := hlinks hrule invoice (h.erp invoice hi)
      (herp ▸ List.mem_map_of_mem hi)
    exact ⟨entry, mem_of_id_mem (hids .gateway) h.gateways hg (hgateways ▸ hid), hnames⟩
  · intro hnamed _ invoice hi hid
    obtain ⟨entry, hmem, hnames⟩ := hnamed invoice
      (mem_of_id_mem (hids .erp) h.erp hi (herp ▸ hid))
    exact ⟨entry, h.gateways entry hmem, hgateways ▸ List.mem_map_of_mem hmem, hnames⟩

/-- A link of the third rule is by name unless the condition on its state fails. -/
theorem linksNamed_settlement_iff (hids : ∀ source, (inp.ids source).Nodup) {s : State}
    {group : Group String GatewaySettlementEntry} {bank : BankTransaction}
    (hg : group ∈ self.settlements inp) (hb : bank ∈ self.settlementCandidates inp s group) :
    LinksNamed inp.erp inp.gateways
        (self.settlementResult group bank (self.settlementLinks inp s group)) ↔
      ∀ invoice ∈ inp.erp, invoice.invoiceId ∉ s.usedInvoices →
        invoice.currency = group.first.currency →
        invoice.amountDue.numEq (self.grossOf group.members) = true →
        NamedIfNameless group.members invoice := by
  rw [linksNamed_iff List.mem_cons_self hids (lists_settlement hg hb)]
  constructor
  · intro h invoice hi hunused hcurrency hamount
    exact namedIfNameless_iff.mpr fun href =>
      h invoice (mem_settlementLinks.mpr ⟨hi, hunused, hcurrency, hamount, href⟩)
  · intro h invoice hlinked
    obtain ⟨hi, hunused, hcurrency, hamount, href⟩ := mem_settlementLinks.mp hlinked
    exact namedIfNameless_iff.mp (h invoice hi hunused hcurrency hamount) href

/-- A link of the seventh rule is by name unless the condition on its state fails. -/
theorem linksNamed_awaiting_iff (hids : ∀ source, (inp.ids source).Nodup) {s : State}
    {group : Group String GatewaySettlementEntry} (hg : group ∈ self.settlements inp)
    {first : GatewaySettlementEntry} {rest : List GatewaySettlementEntry}
    (hr : remainingOf s group = first :: rest) :
    LinksNamed inp.erp inp.gateways
        (self.awaitingResult first (first :: rest) (awaitingLinks inp s (first :: rest))) ↔
      ∀ invoice ∈ inp.erp, invoice.invoiceId ∉ s.usedInvoices →
        NamedIfNameless (remainingOf s group) invoice := by
  rw [linksNamed_iff (List.mem_cons_of_mem _ List.mem_cons_self) hids (lists_awaiting hg hr), hr]
  constructor
  · intro h invoice hi hunused
    exact namedIfNameless_iff.mpr fun href =>
      h invoice (mem_awaitingLinks.mpr ⟨hi, hunused, href⟩)
  · intro h invoice hlinked
    obtain ⟨hi, hunused, href⟩ := mem_awaitingLinks.mp hlinked
    exact namedIfNameless_iff.mp (h invoice hi hunused) href

/-- Where no entry is left there is nothing to name. -/
theorem namedIfNameless_nil (invoice : ERPInvoice) : NamedIfNameless [] invoice := by
  rintro ⟨entry, he, -⟩
  exact absurd he List.not_mem_nil

theorem linksNamed_of_rule {erp : List ERPInvoice} {gateways : List GatewaySettlementEntry}
    {v : ResultValues}
    (h : v.rule ∉ ["GATEWAY_NET_TO_BANK", "GATEWAY_AWAITING_BANK_SETTLEMENT"]) :
    LinksNamed erp gateways v :=
  fun hrule => absurd hrule h

theorem linksNamed_values_iff (hids : ∀ source, (inp.ids source).Nodup) :
    (∀ v ∈ (self.afterUnmatched inp).values, LinksNamed inp.erp inp.gateways v) ↔
      self.NoNamelessLink inp := by
  constructor
  · intro h
    constructor
    · intro w hw hlen
      obtain ⟨bank, hbank⟩ := List.length_eq_one_iff.mp hlen
      have hemits : self.settlementEmits inp w.1 w.2 = some _ :=
        settlementEmits_eq_some.mpr ⟨bank, hbank, rfl⟩
      exact (linksNamed_settlement_iff hids (mem_of_visits hw)
        (hbank ▸ List.mem_singleton_self bank)).mp
          (h _ (mem_values_settlementMatch.mpr ⟨w, hw, hemits⟩).1)
    · intro w hw invoice hi hunused
      cases hr : remainingOf w.1 w.2 with
      | nil => exact namedIfNameless_nil invoice
      | cons first rest =>
          have hemits : self.awaitingEmits inp w.1 w.2 = some _ :=
            awaitingEmits_eq_some.mpr ⟨first, rest, hr, rfl⟩
          have hlinks := (linksNamed_awaiting_iff hids (mem_of_visits hw) hr).mp
            (h _ (mem_values_of_awaiting hw hemits))
          exact hr ▸ hlinks invoice hi hunused
  · rintro ⟨hsettlement, hawaiting⟩ v hv
    rcases mem_values_afterUnmatched.mp hv with hv | ⟨bank, -, -, rfl⟩ | ⟨invoice, -, -, rfl⟩
    · rcases mem_values_afterAwaiting.mp hv with ⟨w, -, h⟩ | ⟨w, -, h⟩ | ⟨w, hw, h⟩ |
        ⟨w, -, h⟩ | ⟨w, -, h⟩ | ⟨w, -, h⟩ | ⟨w, hw, h⟩
      · obtain ⟨-, rfl⟩ := duplicateEmits_eq_some.mp h
        exact linksNamed_of_rule (by simp [duplicateResult])
      · obtain ⟨-, bank, -, rfl⟩ := exactEmits_spec h
        exact linksNamed_of_rule (by simp [exactResult])
      · obtain ⟨bank, hbank, rfl⟩ := settlementEmits_eq_some.mp h
        exact (linksNamed_settlement_iff hids (mem_of_visits hw)
          (hbank ▸ List.mem_singleton_self bank)).mpr (hsettlement w hw (hbank ▸ rfl))
      · obtain ⟨-, bank, -, rfl⟩ := toleranceEmits_spec h
        exact linksNamed_of_rule (by simp [toleranceResult])
      · obtain ⟨-, -, chosen, -, -, rfl⟩ := manyToOneEmits_spec h
        exact linksNamed_of_rule (by simp [manyToOneResult])
      · obtain ⟨-, chosen, -, -, rfl⟩ := oneToManyEmits_spec h
        exact linksNamed_of_rule (by simp [oneToManyResult])
      · obtain ⟨first, rest, hr, rfl⟩ := awaitingEmits_eq_some.mp h
        exact (linksNamed_awaiting_iff hids (mem_of_visits hw) hr).mpr (hawaiting w hw)
    · exact linksNamed_of_rule (by simp [unmatchedBankResult])
    · exact linksNamed_of_rule (by simp [unmatchedInvoiceResult])

end ReconciliationEngine

/-- **When every gateway link is by name.**  Every invoice in a result of the two gateway rules is
named by an entry of the result if and only if no rule takes a group with an entry that has no
reference while an unused invoice has none either and no entry of the group names it. -/
theorem reconcile_links_iff (self : ReconciliationEngine) (banks : List BankTransaction)
    (erp : List ERPInvoice) (gateways : List GatewaySettlementEntry) :
    (∀ results, self.reconcile banks erp gateways = .ok results →
        ∀ r ∈ results, LinksNamed erp gateways r.toResultValues) ↔
      ((∀ source, (recordIds banks erp gateways source).Nodup) →
        self.NoNamelessLink (sortInputs banks erp gateways)) := by
  rw [self.forall_results_iff]
  refine forall_congr' fun hids => ?_
  have hsorted := fun source =>
    (ids_sortInputs_perm banks erp gateways source).nodup_iff.mpr (hids source)
  rw [← linksNamed_values_iff hsorted]
  refine forall₂_congr fun v _ => ?_
  simp only [LinksNamed, sortInputs, mem_sortOn]

/-- An open invoice of 250 EUR without a payment reference. -/
def openInvoice : ERPInvoice where
  invoiceId := "INV-7"
  invoiceNumber := "2024-007"
  invoiceType := .invoice
  status := .open
  issueDate := 738990
  currency := "EUR"
  amountDue := ⟨false, 250, 0⟩
  currency_valid := .refl true

/-- A pending payout of 95 EUR that names no invoice. -/
def namelessPayout : GatewaySettlementEntry where
  sourceRecordId := "G-1"
  settlementId := "S-1"
  status := .pending
  settlementDate := 739000
  grossAmount := ⟨false, 100, 0⟩
  netAmount := ⟨false, 95, 0⟩
  currency := "EUR"
  settlementCurrency := "EUR"
  grossAmount_valid := .refl true
  currency_valid := .refl true
  settlementCurrency_valid := .refl true

/-- The payout is reported with an invoice that it does not name. -/
theorem nameless_payout_linked :
    ¬ ∀ results,
      (⟨.ascii, {}⟩ : ReconciliationEngine).reconcile [] [openInvoice] [namelessPayout] =
          .ok results →
        ∀ r ∈ results, LinksNamed [openInvoice] [namelessPayout] r.toResultValues := by
  intro h
  have hlinks := h _ rfl
  revert hlinks
  decide +kernel

end ReconcileFlow.Reconciliation
