import ReconcileFlow.Reconciliation.Accounts
import ReconcileFlow.Reconciliation.Determinism

/-!
# Reconciliation — Populations

Records that have nothing to do with each other do not influence each other.  A population is a part
of the records; it is separate if no bank entry of it shares its fingerprint with one outside, no
mention or reference leads across, and no settlement is divided (`Separate`).  Reconciling the
population alone then gives the results that list its records when everything is reconciled, in the
same order, and no result lists records of the population and others (`reconcile_population`).

The two runs go along with each other: after each loop the population's records are used in both or
in neither, and the results of the smaller run are those of the larger that concern it
(`Agrees.loop`).
-/

namespace ReconcileFlow.Reconciliation

open Support

/-- A part of the records of each source. -/
structure Population where
  bank : BankTransaction → Bool
  invoice : ERPInvoice → Bool
  gateway : GatewaySettlementEntry → Bool

namespace Inputs

/-- The records of the population. -/
def only (inp : Inputs) (p : Population) : Inputs where
  banks := inp.banks.filter p.bank
  erp := inp.erp.filter p.invoice
  gateways := inp.gateways.filter p.gateway

/-- The result lists a record of the population. -/
def concerns (inp : Inputs) (p : Population) (v : ResultValues) : Bool :=
  [Source.bank, .erp, .gateway].any fun source =>
    (v.ids source).any fun id => decide (id ∈ (inp.only p).ids source)

end Inputs

/-- No rule has a reason to look at a record of the population and another one together. -/
structure Separate (py : Runtime) (inp : Inputs) (p : Population) : Prop where
  fingerprints : ∀ a ∈ inp.banks, ∀ b ∈ inp.banks,
    (fingerprint a).same (fingerprint b) = true → p.bank a = p.bank b
  mentions : ∀ bank ∈ inp.banks, ∀ invoice ∈ inp.erp,
    mentions py bank invoice = true → p.bank bank = p.invoice invoice
  settlements : ∀ a ∈ inp.gateways, ∀ b ∈ inp.gateways,
    a.settlementId = b.settlementId → p.gateway a = p.gateway b
  references : ∀ entry ∈ inp.gateways, ∀ invoice ∈ inp.erp,
    referencesInvoice entry invoice = true → p.gateway entry = p.invoice invoice
  payouts : ∀ entry ∈ inp.gateways, ∀ bank ∈ inp.banks, (truthy entry.bankReference).isSome = true →
    entry.bankReference = bank.bankReference → p.gateway entry = p.bank bank

/-! ### Results within the population, or outside -/

/-- The records that the result lists are all in the population, or all outside. -/
structure Within (inp : Inputs) (p : Population) (inside : Bool) (v : ResultValues) : Prop where
  banks : ∀ id ∈ v.ids .bank, ∃ bank ∈ inp.banks, bank.sourceRecordId = id ∧ p.bank bank = inside
  erp : ∀ id ∈ v.ids .erp, ∃ invoice ∈ inp.erp, invoice.invoiceId = id ∧ p.invoice invoice = inside
  gateways : ∀ id ∈ v.ids .gateway,
    ∃ entry ∈ inp.gateways, entry.sourceRecordId = id ∧ p.gateway entry = inside
  listed : ∃ source, v.ids source ≠ []

section

variable {inp : Inputs} {p : Population} {v : ResultValues}

theorem within_of_lists {recs : Inputs} {inside : Bool} (hl : Lists inp v recs)
    (hbanks : ∀ bank ∈ recs.banks, p.bank bank = inside)
    (herp : ∀ invoice ∈ recs.erp, p.invoice invoice = inside)
    (hgateways : ∀ entry ∈ recs.gateways, p.gateway entry = inside)
    (hlisted : ∃ source, recs.ids source ≠ []) : Within inp p inside v where
  banks id hid := by
    rw [hl.ids] at hid
    obtain ⟨bank, hb, rfl⟩ := List.mem_map.mp hid
    exact ⟨bank, hl.banks bank hb, rfl, hbanks bank hb⟩
  erp id hid := by
    rw [hl.ids] at hid
    obtain ⟨invoice, hi, rfl⟩ := List.mem_map.mp hid
    exact ⟨invoice, hl.erp invoice hi, rfl, herp invoice hi⟩
  gateways id hid := by
    rw [hl.ids] at hid
    obtain ⟨entry, he, rfl⟩ := List.mem_map.mp hid
    exact ⟨entry, hl.gateways entry he, rfl, hgateways entry he⟩
  listed := by
    obtain ⟨source, hne⟩ := hlisted
    exact ⟨source, hl.ids source ▸ hne⟩

/-- The ids that a result within the population lists are ids of its records. -/
theorem Within.mem_ids (h : Within inp p true v) (source : Source) {id : String}
    (hid : id ∈ v.ids source) : id ∈ (inp.only p).ids source := by
  cases source with
  | bank =>
    obtain ⟨bank, hb, rfl, hp⟩ := h.banks id hid
    exact List.mem_map_of_mem (List.mem_filter.mpr ⟨hb, hp⟩)
  | erp =>
    obtain ⟨invoice, hi, rfl, hp⟩ := h.erp id hid
    exact List.mem_map_of_mem (List.mem_filter.mpr ⟨hi, hp⟩)
  | gateway =>
    obtain ⟨entry, he, rfl, hp⟩ := h.gateways id hid
    exact List.mem_map_of_mem (List.mem_filter.mpr ⟨he, hp⟩)

/-- Among records with distinct ids, an id of a selected record is no id of another. -/
theorem not_mem_ids_filter {α : Type} {records : List α} {idOf : α → String} {q : α → Bool}
    (hids : (records.map idOf).Nodup) {x : α} (hx : x ∈ records) (hq : q x = false) :
    idOf x ∉ (records.filter q).map idOf := by
  intro hmem
  have hx := mem_of_id_mem hids (fun y hy => List.mem_of_mem_filter hy) hx hmem
  rw [(List.mem_filter.mp hx).2] at hq
  cases hq

/-- The ids that a result outside the population lists are none of its records'. -/
theorem Within.not_mem_ids (hids : ∀ source, (inp.ids source).Nodup) (h : Within inp p false v)
    (source : Source) {id : String} (hid : id ∈ v.ids source) :
    id ∉ (inp.only p).ids source := by
  cases source with
  | bank =>
    obtain ⟨bank, hb, rfl, hp⟩ := h.banks id hid
    exact not_mem_ids_filter (hids .bank) hb hp
  | erp =>
    obtain ⟨invoice, hi, rfl, hp⟩ := h.erp id hid
    exact not_mem_ids_filter (hids .erp) hi hp
  | gateway =>
    obtain ⟨entry, he, rfl, hp⟩ := h.gateways id hid
    exact not_mem_ids_filter (hids .gateway) he hp

theorem concerns_iff : inp.concerns p v = true ↔
    ∃ source, ∃ id ∈ v.ids source, id ∈ (inp.only p).ids source := by
  simp only [Inputs.concerns, List.any_eq_true, decide_eq_true_eq]
  constructor
  · rintro ⟨source, -, id, hid, hmem⟩
    exact ⟨source, id, hid, hmem⟩
  · rintro ⟨source, id, hid, hmem⟩
    exact ⟨source, by cases source <;> simp, id, hid, hmem⟩

theorem Within.concerns_eq (hids : ∀ source, (inp.ids source).Nodup) {inside : Bool}
    (h : Within inp p inside v) : inp.concerns p v = inside := by
  cases inside with
  | true =>
    obtain ⟨source, hne⟩ := h.listed
    obtain ⟨id, hid⟩ := List.exists_mem_of_ne_nil _ hne
    exact concerns_iff.mpr ⟨source, id, hid, h.mem_ids source hid⟩
  | false =>
    refine Bool.eq_false_iff.mpr fun hc => ?_
    obtain ⟨source, id, hid, hmem⟩ := concerns_iff.mp hc
    exact h.not_mem_ids hids source hid hmem

end

/-! ### Two runs side by side -/

/-- The state of the run over the population's records, beside that of the run over all: the
records are used in both or in neither, and the results are those that concern the population. -/
structure Agrees (inp : Inputs) (p : Population) (s t : State) : Prop where
  used : ∀ source, ∀ id ∈ (inp.only p).ids source, id ∈ t.used source ↔ id ∈ s.used source
  values : t.values = s.values.filter (inp.concerns p)
  within : ∀ v ∈ s.values, ∃ inside, Within inp p inside v

section

variable {inp : Inputs} {p : Population} {s t : State} {v : ResultValues}

theorem Agrees.take (hids : ∀ source, (inp.ids source).Nodup) (h : Agrees inp p s t)
    (hv : Within inp p true v) : Agrees inp p (s.take v) (t.take v) where
  used source id hid := by
    simp only [State.used_take, List.mem_append, h.used source id hid]
  values := by
    rw [State.values_take, State.values_take, h.values, List.filter_append, List.filter_singleton,
      hv.concerns_eq hids]
    rfl
  within := by
    rw [State.values_take]
    exact List.forall_mem_append.mpr ⟨h.within, List.forall_mem_singleton.mpr ⟨true, hv⟩⟩

theorem Agrees.skip (hids : ∀ source, (inp.ids source).Nodup) (h : Agrees inp p s t)
    (hv : Within inp p false v) : Agrees inp p (s.take v) t where
  used source id hid := by
    have hnot : id ∉ v.ids source := fun hin => hv.not_mem_ids hids source hin hid
    simp only [State.used_take, List.mem_append, h.used source id hid, hnot, or_false]
  values := by
    rw [State.values_take, h.values, List.filter_append, List.filter_singleton,
      hv.concerns_eq hids]
    exact (List.append_nil _).symm
  within := by
    rw [State.values_take]
    exact List.forall_mem_append.mpr ⟨h.within, List.forall_mem_singleton.mpr ⟨false, hv⟩⟩

/-- **A loop over the items of the population goes along with the loop over all**, if what it emits
for an item is within the population or outside as the item is, and is the same for an item of the
population. -/
theorem Agrees.loop {α : Type} {emits emits' : State → α → Option ResultValues} {q : α → Bool}
    {xs : List α} (hids : ∀ source, (inp.ids source).Nodup)
    (hwithin : ∀ x ∈ xs, ∀ s v, emits s x = some v → Within inp p (q x) v)
    (hsame : ∀ x ∈ xs, q x = true → ∀ s t, Agrees inp p s t → emits' t x = emits s x)
    (h : Agrees inp p s t) :
    Agrees inp p (xs.foldl (fun s x => s.takeOption (emits s x)) s)
      ((xs.filter q).foldl (fun t x => t.takeOption (emits' t x)) t) := by
  refine foldl_filter_related (Agrees inp p) (fun x hx hq s t h => ?_) (fun x hx hq s t h => ?_) h
  · rw [hsame x hx hq s t h]
    cases he : emits s x with
    | none => exact h
    | some v => exact h.take hids (hq ▸ hwithin x hx s v he)
  · cases he : emits s x with
    | none => exact h
    | some v => exact h.skip hids (hq ▸ hwithin x hx s v he)

theorem Agrees.unused_bank (h : Agrees inp p s t) {bank : BankTransaction} (hb : bank ∈ inp.banks)
    (hp : p.bank bank = true) : bank.sourceRecordId ∈ t.usedBanks ↔
      bank.sourceRecordId ∈ s.usedBanks :=
  h.used .bank _ (List.mem_map_of_mem (List.mem_filter.mpr ⟨hb, hp⟩))

theorem Agrees.unused_invoice (h : Agrees inp p s t) {invoice : ERPInvoice}
    (hi : invoice ∈ inp.erp) (hp : p.invoice invoice = true) :
    invoice.invoiceId ∈ t.usedInvoices ↔ invoice.invoiceId ∈ s.usedInvoices :=
  h.used .erp _ (List.mem_map_of_mem (List.mem_filter.mpr ⟨hi, hp⟩))

theorem Agrees.unused_gateway (h : Agrees inp p s t) {entry : GatewaySettlementEntry}
    (he : entry ∈ inp.gateways) (hp : p.gateway entry = true) :
    entry.sourceRecordId ∈ t.usedGateways ↔ entry.sourceRecordId ∈ s.usedGateways :=
  h.used .gateway _ (List.mem_map_of_mem (List.mem_filter.mpr ⟨he, hp⟩))

/-- A selection that picks items of `q` only picks the same among them. -/
theorem filter_eq_filter_filter {α : Type} {q P P' : α → Bool} {l : List α}
    (hin : ∀ x ∈ l, P x = true → q x = true) (hsame : ∀ x ∈ l, q x = true → P' x = P x) :
    (l.filter q).filter P' = l.filter P := by
  rw [List.filter_filter]
  refine List.filter_congr fun x hx => ?_
  cases hq : q x with
  | true => rw [hsame x hx hq, Bool.and_true]
  | false =>
    rw [Bool.and_false]
    refine (Bool.eq_false_iff.mpr fun hP => ?_).symm
    rw [hin x hx hP] at hq
    cases hq

end

/-! ### The rules -/

namespace ReconciliationEngine

variable {self : ReconciliationEngine} {inp : Inputs} {p : Population} {s t : State}
  {v : ResultValues}

/-! #### Duplicates -/

theorem bank_of_group (hsep : Separate self.runtime inp p)
    {group : Group Fingerprint BankTransaction} (hg : group ∈ duplicateGroups inp) :
    ∀ bank ∈ group.members, p.bank bank = p.bank group.first := by
  intro bank hb
  have hgroup : group ∈ groupOn Fingerprint.same fingerprint inp.banks := (mem_sortOn _).mp hg
  have hkeyed : Keyed Fingerprint.same fingerprint (groupOn Fingerprint.same fingerprint inp.banks) :=
    keyed_groupOn fingerprint Fingerprint.same_refl inp.banks
  have hsame := hkeyed.members group hgroup bank hb
  rw [hkeyed.first group hgroup] at hsame
  exact (hsep.fingerprints _ (mem_banks_of_group hg _ group.first_mem) _
    (mem_banks_of_group hg _ hb) hsame).symm

theorem within_duplicate (hsep : Separate self.runtime inp p)
    {group : Group Fingerprint BankTransaction} (hg : group ∈ duplicateGroups inp)
    (hv : self.duplicateEmits inp s group = some v) : Within inp p (p.bank group.first) v := by
  obtain ⟨-, rfl⟩ := duplicateEmits_eq_some.mp hv
  refine within_of_lists (lists_duplicate hg) (bank_of_group hsep hg) (fun invoice hi => ?_)
    (fun entry he => absurd he List.not_mem_nil) ⟨.bank, List.cons_ne_nil _ _⟩
  obtain ⟨hmem, -, bank, hb, hmentions, -⟩ := mem_duplicateLinks.mp hi
  rw [← bank_of_group hsep hg bank hb]
  exact (hsep.mentions bank (mem_banks_of_group hg bank hb) invoice hmem hmentions).symm

theorem duplicateEmits_only (hsep : Separate self.runtime inp p) (h : Agrees inp p s t)
    {group : Group Fingerprint BankTransaction} (hg : group ∈ duplicateGroups inp)
    (hp : p.bank group.first = true) :
    self.duplicateEmits (inp.only p) t group = self.duplicateEmits inp s group := by
  have hlinks : self.duplicateLinks (inp.only p) t group = self.duplicateLinks inp s group := by
    refine filter_eq_filter_filter (fun invoice hi hlinked => ?_) fun invoice hi hpi => ?_
    · obtain ⟨-, bank, hb, hmentions, -⟩ :=
        (mem_duplicateLinks.mp (List.mem_filter.mpr ⟨hi, hlinked⟩)).2
      rw [← hsep.mentions bank (mem_banks_of_group hg bank hb) invoice hi hmentions,
        bank_of_group hsep hg bank hb, hp]
    · simp only [h.unused_invoice hi hpi]
  simp only [duplicateEmits, hlinks]

theorem duplicateGroups_only (hsep : Separate self.runtime inp p)
    (hids : ∀ source, (inp.ids source).Nodup) :
    duplicateGroups (inp.only p) = (duplicateGroups inp).filter fun group => p.bank group.first := by
  have hkeys : ((groupOn Fingerprint.same fingerprint inp.banks).map
      fun group => group.first.sourceRecordId).Nodup := by
    have hbanks : (inp.banks.map (·.sourceRecordId)).Nodup := hids .bank
    have hall := ((groupOn_perm Fingerprint.same fingerprint inp.banks).map _).nodup_iff.mpr hbanks
    have hfirsts := (firsts_sublist (groupOn Fingerprint.same fingerprint inp.banks)).map
      BankTransaction.sourceRecordId
    rw [List.map_map] at hfirsts
    exact hall.sublist hfirsts
  rw [duplicateGroups, Inputs.only, groupOn_filter Fingerprint.same_refl hsep.fingerprints]
  exact sortOn_filter _ _ hkeys

/-! #### One invoice, or one bank entry -/

/-- A bank entry and an invoice that it mentions are a result within or outside. -/
theorem within_pair (hsep : Separate self.runtime inp p) {bank : BankTransaction}
    {invoice : ERPInvoice} (hl : Lists inp v ⟨[bank], [invoice], []⟩)
    (hmentions : mentions self.runtime bank invoice = true) :
    Within inp p (p.invoice invoice) v := by
  have hbank := hsep.mentions bank (hl.banks bank (List.mem_singleton_self _)) invoice
    (hl.erp invoice (List.mem_singleton_self _)) hmentions
  exact within_of_lists hl (List.forall_mem_singleton.mpr hbank)
    (List.forall_mem_singleton.mpr rfl) (fun entry he => absurd he List.not_mem_nil)
    ⟨.bank, List.cons_ne_nil _ _⟩

theorem within_exact (hsep : Separate self.runtime inp p) {invoice : ERPInvoice}
    (hi : invoice ∈ inp.erp) (hv : self.exactEmits inp s invoice = some v) :
    Within inp p (p.invoice invoice) v := by
  obtain ⟨-, bank, hb, rfl⟩ := exactEmits_spec hv
  exact within_pair hsep (lists_exact hb hi) (mem_exactCandidates.mp hb).2.2.2.2.2.1

theorem exactEmits_only (hsep : Separate self.runtime inp p) (h : Agrees inp p s t)
    {invoice : ERPInvoice} (hi : invoice ∈ inp.erp) (hp : p.invoice invoice = true) :
    self.exactEmits (inp.only p) t invoice = self.exactEmits inp s invoice := by
  have hcandidates : self.exactCandidates (inp.only p) t invoice =
      self.exactCandidates inp s invoice := by
    refine filter_eq_filter_filter (fun bank hb hc => ?_) fun bank hb hpb => ?_
    · obtain ⟨-, -, -, -, -, hmentions, -⟩ :=
        mem_exactCandidates.mp (List.mem_filter.mpr ⟨hb, hc⟩)
      rw [hsep.mentions bank hb invoice hi hmentions, hp]
    · simp only [h.unused_bank hb hpb]
  simp only [exactEmits, hcandidates, h.unused_invoice hi hp]

theorem within_tolerance (hsep : Separate self.runtime inp p) {invoice : ERPInvoice}
    (hi : invoice ∈ inp.erp) (hv : self.toleranceEmits inp s invoice = some v) :
    Within inp p (p.invoice invoice) v := by
  obtain ⟨-, bank, hb, rfl⟩ := toleranceEmits_spec hv
  exact within_pair hsep (lists_tolerance hb hi) (mem_toleranceCandidates.mp hb).2.2.2.2.2.2.1

theorem toleranceEmits_only (hsep : Separate self.runtime inp p) (h : Agrees inp p s t)
    {invoice : ERPInvoice} (hi : invoice ∈ inp.erp) (hp : p.invoice invoice = true) :
    self.toleranceEmits (inp.only p) t invoice = self.toleranceEmits inp s invoice := by
  have hcandidates : self.toleranceCandidates (inp.only p) t invoice =
      self.toleranceCandidates inp s invoice := by
    refine filter_eq_filter_filter (fun bank hb hc => ?_) fun bank hb hpb => ?_
    · obtain ⟨-, -, -, -, -, -, hmentions, -⟩ :=
        mem_toleranceCandidates.mp (List.mem_filter.mpr ⟨hb, hc⟩)
      rw [hsep.mentions bank hb invoice hi hmentions, hp]
    · simp only [h.unused_bank hb hpb]
  simp only [toleranceEmits, hcandidates, h.unused_invoice hi hp]

theorem within_manyToOne (hsep : Separate self.runtime inp p) {bank : BankTransaction}
    (hb : bank ∈ inp.banks) (hv : self.manyToOneEmits inp s bank = some v) :
    Within inp p (p.bank bank) v := by
  obtain ⟨-, -, chosen, hne, hc, rfl⟩ := manyToOneEmits_spec hv
  obtain ⟨hsub, -⟩ := matchingGroup_spec hc hne
  refine within_of_lists (lists_manyToOne hb hsub) (List.forall_mem_singleton.mpr rfl)
    (fun invoice hi => ?_) (fun entry he => absurd he List.not_mem_nil)
    ⟨.bank, List.cons_ne_nil _ _⟩
  obtain ⟨hmem, -, -, hmentions, -⟩ := mem_manyToOneCandidates.mp (hsub.subset hi)
  exact (hsep.mentions bank hb invoice hmem hmentions).symm

theorem manyToOneEmits_only (hsep : Separate self.runtime inp p) (h : Agrees inp p s t)
    {bank : BankTransaction} (hb : bank ∈ inp.banks) (hp : p.bank bank = true) :
    self.manyToOneEmits (inp.only p) t bank = self.manyToOneEmits inp s bank := by
  have hcandidates : self.manyToOneCandidates (inp.only p) t bank =
      self.manyToOneCandidates inp s bank := by
    refine filter_eq_filter_filter (fun invoice hi hc => ?_) fun invoice hi hpi => ?_
    · obtain ⟨-, -, -, hmentions, -⟩ :=
        mem_manyToOneCandidates.mp (List.mem_filter.mpr ⟨hi, hc⟩)
      rw [← hsep.mentions bank hb invoice hi hmentions, hp]
    · simp only [h.unused_invoice hi hpi]
  simp only [manyToOneEmits, hcandidates, h.unused_bank hb hp]

theorem within_oneToMany (hsep : Separate self.runtime inp p) {invoice : ERPInvoice}
    (hi : invoice ∈ inp.erp) (hv : self.oneToManyEmits inp s invoice = some v) :
    Within inp p (p.invoice invoice) v := by
  obtain ⟨-, chosen, hne, hc, rfl⟩ := oneToManyEmits_spec hv
  obtain ⟨hsub, -⟩ := matchingGroup_spec hc hne
  refine within_of_lists (lists_oneToMany hi hsub) (fun bank hb => ?_)
    (List.forall_mem_singleton.mpr rfl) (fun entry he => absurd he List.not_mem_nil)
    ⟨.erp, List.cons_ne_nil _ _⟩
  obtain ⟨hmem, -, -, -, hmentions, -⟩ := mem_oneToManyCandidates.mp (hsub.subset hb)
  exact hsep.mentions bank hmem invoice hi hmentions

theorem oneToManyEmits_only (hsep : Separate self.runtime inp p) (h : Agrees inp p s t)
    {invoice : ERPInvoice} (hi : invoice ∈ inp.erp) (hp : p.invoice invoice = true) :
    self.oneToManyEmits (inp.only p) t invoice = self.oneToManyEmits inp s invoice := by
  have hcandidates : self.oneToManyCandidates (inp.only p) t invoice =
      self.oneToManyCandidates inp s invoice := by
    refine filter_eq_filter_filter (fun bank hb hc => ?_) fun bank hb hpb => ?_
    · obtain ⟨-, -, -, -, hmentions, -⟩ :=
        mem_oneToManyCandidates.mp (List.mem_filter.mpr ⟨hb, hc⟩)
      rw [hsep.mentions bank hb invoice hi hmentions, hp]
    · simp only [h.unused_bank hb hpb]
  simp only [oneToManyEmits, hcandidates, h.unused_invoice hi hp]

/-! #### Settlements -/

theorem gateway_of_settlement (hsep : Separate self.runtime inp p)
    {group : Group String GatewaySettlementEntry} (hg : group ∈ self.settlements inp) :
    ∀ entry ∈ group.members, p.gateway entry = p.gateway group.first := by
  intro entry he
  have hgroup := (mem_sortOn Group.key).mp hg
  have hkeyed : Keyed (· == ·) GatewaySettlementEntry.settlementId _ :=
    keyed_groupOn GatewaySettlementEntry.settlementId beq_self_eq_true
      (inp.gateways.filter fun gateway =>
        decide (gateway.sourceRecordId ∉ (self.afterExact inp).usedGateways))
  have hsame : group.first.settlementId = entry.settlementId := by
    rw [← hkeyed.first group hgroup]
    exact eq_of_beq (hkeyed.members group hgroup entry he)
  exact (hsep.settlements _ (mem_gateways_of_settlement hg _ group.first_mem) _
    (mem_gateways_of_settlement hg _ he) hsame).symm

theorem settlements_eq (inp : Inputs) : self.settlements inp =
    sortOn Group.key (groupOn (· == ·) GatewaySettlementEntry.settlementId inp.gateways) := by
  rw [settlements, settlementGroups, usedGateways_afterExact]
  simp

theorem settlements_only (hsep : Separate self.runtime inp p) :
    self.settlements (inp.only p) =
      (self.settlements inp).filter fun group => p.gateway group.first := by
  have hkeys : ((groupOn (· == ·) GatewaySettlementEntry.settlementId inp.gateways).map
      Group.key).Nodup := by
    have hkeyed : Keyed (· == ·) GatewaySettlementEntry.settlementId _ :=
      keyed_groupOn GatewaySettlementEntry.settlementId beq_self_eq_true inp.gateways
    exact List.pairwise_map.mpr (hkeyed.apart.imp fun h => beq_eq_false_iff_ne.mp h)
  rw [settlements_eq, settlements_eq, Inputs.only,
    groupOn_filter beq_self_eq_true fun a ha b hb h => hsep.settlements a ha b hb (eq_of_beq h)]
  exact sortOn_filter _ _ hkeys

theorem invoice_of_settlement (hsep : Separate self.runtime inp p)
    {group : Group String GatewaySettlementEntry} (hg : group ∈ self.settlements inp)
    {invoice : ERPInvoice} (hi : invoice ∈ inp.erp) {entry : GatewaySettlementEntry}
    (he : entry ∈ group.members) (href : referencesInvoice entry invoice = true) :
    p.invoice invoice = p.gateway group.first := by
  rw [← gateway_of_settlement hsep hg entry he]
  exact (hsep.references entry (mem_gateways_of_settlement hg entry he) invoice hi href).symm

theorem bank_of_settlement (hsep : Separate self.runtime inp p)
    {group : Group String GatewaySettlementEntry} (hg : group ∈ self.settlements inp)
    {bank : BankTransaction} (hb : bank ∈ self.settlementCandidates inp s group) :
    p.bank bank = p.gateway group.first := by
  obtain ⟨hmem, -, -, -, -, entry, he, hsome, href, -⟩ := mem_settlementCandidates.mp hb
  rw [← gateway_of_settlement hsep hg entry he]
  exact (hsep.payouts entry (mem_gateways_of_settlement hg entry he) bank hmem hsome href).symm

theorem within_settlement (hsep : Separate self.runtime inp p)
    {group : Group String GatewaySettlementEntry} (hg : group ∈ self.settlements inp)
    (hv : self.settlementEmits inp s group = some v) :
    Within inp p (p.gateway group.first) v := by
  obtain ⟨bank, hc, rfl⟩ := settlementEmits_eq_some.mp hv
  have hb : bank ∈ self.settlementCandidates inp s group := hc ▸ List.mem_singleton_self bank
  refine within_of_lists (lists_settlement hg hb)
    (List.forall_mem_singleton.mpr (bank_of_settlement hsep hg hb)) (fun invoice hi => ?_)
    (gateway_of_settlement hsep hg) ⟨.bank, List.cons_ne_nil _ _⟩
  obtain ⟨hmem, -, -, -, entry, he, href⟩ := mem_settlementLinks.mp hi
  exact invoice_of_settlement hsep hg hmem he href

theorem settlementEmits_only (hsep : Separate self.runtime inp p) (h : Agrees inp p s t)
    {group : Group String GatewaySettlementEntry} (hg : group ∈ self.settlements inp)
    (hp : p.gateway group.first = true) :
    self.settlementEmits (inp.only p) t group = self.settlementEmits inp s group := by
  have hcandidates : self.settlementCandidates (inp.only p) t group =
      self.settlementCandidates inp s group := by
    refine filter_eq_filter_filter (fun bank hb hc => ?_) fun bank hb hpb => ?_
    · rw [bank_of_settlement hsep hg (List.mem_filter.mpr ⟨hb, hc⟩), hp]
    · simp only [h.unused_bank hb hpb]
  have hlinks : self.settlementLinks (inp.only p) t group = self.settlementLinks inp s group := by
    refine filter_eq_filter_filter (fun invoice hi hl => ?_) fun invoice hi hpi => ?_
    · obtain ⟨-, -, -, -, entry, he, href⟩ :=
        mem_settlementLinks.mp (List.mem_filter.mpr ⟨hi, hl⟩)
      rw [invoice_of_settlement hsep hg hi he href, hp]
    · simp only [h.unused_invoice hi hpi]
  simp only [settlementEmits, hcandidates, hlinks]

theorem within_awaiting (hsep : Separate self.runtime inp p)
    {group : Group String GatewaySettlementEntry} (hg : group ∈ self.settlements inp)
    (hv : self.awaitingEmits inp s group = some v) :
    Within inp p (p.gateway group.first) v := by
  obtain ⟨first, rest, hr, rfl⟩ := awaitingEmits_eq_some.mp hv
  have hmembers : ∀ entry ∈ first :: rest, entry ∈ group.members := fun entry he =>
    (mem_remainingOf.mp (hr ▸ he)).1
  refine within_of_lists (lists_awaiting hg hr) (fun bank hb => absurd hb List.not_mem_nil)
    (fun invoice hi => ?_) (fun entry he => gateway_of_settlement hsep hg entry (hmembers entry he))
    ⟨.gateway, List.cons_ne_nil _ _⟩
  obtain ⟨hmem, -, entry, he, href⟩ := mem_awaitingLinks.mp hi
  exact invoice_of_settlement hsep hg hmem (hmembers entry he) href

theorem awaitingEmits_only (hsep : Separate self.runtime inp p) (h : Agrees inp p s t)
    {group : Group String GatewaySettlementEntry} (hg : group ∈ self.settlements inp)
    (hp : p.gateway group.first = true) :
    self.awaitingEmits (inp.only p) t group = self.awaitingEmits inp s group := by
  have hremaining : remainingOf t group = remainingOf s group := by
    refine List.filter_congr fun entry he => ?_
    have hin := mem_gateways_of_settlement hg entry he
    simp only [h.unused_gateway hin ((gateway_of_settlement hsep hg entry he).trans hp)]
  have hlinks {remaining : List GatewaySettlementEntry}
      (hmembers : ∀ entry ∈ remaining, entry ∈ group.members) :
      awaitingLinks (inp.only p) t remaining = awaitingLinks inp s remaining := by
    refine filter_eq_filter_filter (fun invoice hi hl => ?_) fun invoice hi hpi => ?_
    · obtain ⟨-, -, entry, he, href⟩ := mem_awaitingLinks.mp (List.mem_filter.mpr ⟨hi, hl⟩)
      rw [invoice_of_settlement hsep hg hi (hmembers entry he) href, hp]
    · simp only [h.unused_invoice hi hpi]
  unfold awaitingEmits
  rw [hremaining]
  cases hr : remainingOf s group with
  | nil => rfl
  | cons first rest =>
    have hmembers : ∀ entry ∈ first :: rest, entry ∈ group.members := fun entry he =>
      (mem_remainingOf.mp (hr ▸ he)).1
    simp only [hlinks hmembers]

/-! ### All eight rules -/

/-- **After the first seven rules**, the two runs agree on the population. -/
theorem agrees_afterAwaiting (hsep : Separate self.runtime inp p)
    (hids : ∀ source, (inp.ids source).Nodup) :
    Agrees inp p (self.afterAwaiting inp) (self.afterAwaiting (inp.only p)) := by
  have hduplicates : Agrees inp p (self.afterDuplicates inp) (self.afterDuplicates (inp.only p)) := by
    rw [afterDuplicates, afterDuplicates, duplicateStep_eq, duplicateStep_eq,
      duplicateGroups_only hsep hids]
    exact Agrees.loop hids (fun group hg s v => within_duplicate hsep hg)
      (fun group hg hp s t h => duplicateEmits_only hsep h hg hp) 
      ⟨fun _ _ _ => Iff.rfl, rfl, fun v hv => absurd hv List.not_mem_nil⟩
  have hexact : Agrees inp p (self.afterExact inp) (self.afterExact (inp.only p)) := by
    rw [afterExact, afterExact, exactStep_eq, exactStep_eq]
    exact Agrees.loop hids (fun invoice hi s v => within_exact hsep hi)
      (fun invoice hi hp s t h => exactEmits_only hsep h hi hp) hduplicates
  have hsettlements : Agrees inp p (self.afterSettlements inp)
      (self.afterSettlements (inp.only p)) := by
    rw [afterSettlements, afterSettlements, settlementStep_eq, settlementStep_eq,
      settlements_only hsep]
    exact Agrees.loop hids (fun group hg s v => within_settlement hsep hg)
      (fun group hg hp s t h => settlementEmits_only hsep h hg hp) hexact
  have htolerance : Agrees inp p (self.afterTolerance inp) (self.afterTolerance (inp.only p)) := by
    rw [afterTolerance, afterTolerance, toleranceStep_eq, toleranceStep_eq]
    exact Agrees.loop hids (fun invoice hi s v => within_tolerance hsep hi)
      (fun invoice hi hp s t h => toleranceEmits_only hsep h hi hp) hsettlements
  have hmanyToOne : Agrees inp p (self.afterManyToOne inp) (self.afterManyToOne (inp.only p)) := by
    rw [afterManyToOne, afterManyToOne, manyToOneStep_eq, manyToOneStep_eq]
    exact Agrees.loop hids (fun bank hb s v => within_manyToOne hsep hb)
      (fun bank hb hp s t h => manyToOneEmits_only hsep h hb hp) htolerance
  have honeToMany : Agrees inp p (self.afterOneToMany inp) (self.afterOneToMany (inp.only p)) := by
    rw [afterOneToMany, afterOneToMany, oneToManyStep_eq, oneToManyStep_eq]
    exact Agrees.loop hids (fun invoice hi s v => within_oneToMany hsep hi)
      (fun invoice hi hp s t h => oneToManyEmits_only hsep h hi hp) hmanyToOne
  rw [afterAwaiting, afterAwaiting, awaitingStep_eq, awaitingStep_eq, settlements_only hsep]
  exact Agrees.loop hids (fun group hg s v => within_awaiting hsep hg)
    (fun group hg hp s t h => awaitingEmits_only hsep h hg hp) honeToMany

/-- One result for each record that is left: those that concern the population are those of its
records. -/
theorem filter_leftovers {α : Type} {records : List α} {q unused unused' : α → Bool}
    {result : α → ResultValues} (hconcerns : ∀ x ∈ records, inp.concerns p (result x) = q x)
    (hsame : ∀ x ∈ records, q x = true → unused' x = unused x) :
    ((records.filter q).filter unused').map result =
      ((records.filter unused).map result).filter (inp.concerns p) := by
  rw [List.filter_map, List.filter_filter, List.filter_filter]
  refine congrArg (List.map result) (List.filter_congr fun x hx => ?_)
  rw [Function.comp_apply, hconcerns x hx]
  cases hq : q x with
  | true => rw [hsame x hx hq, Bool.and_comm]
  | false => rw [Bool.and_false, Bool.false_and]

theorem within_unmatchedBank (p : Population) {bank : BankTransaction} (hb : bank ∈ inp.banks) :
    Within inp p (p.bank bank) (unmatchedBankResult bank) :=
  within_of_lists (lists_unmatchedBank hb) (List.forall_mem_singleton.mpr rfl)
    (fun _ hi => absurd hi List.not_mem_nil) (fun _ he => absurd he List.not_mem_nil)
    ⟨.bank, List.cons_ne_nil _ _⟩

theorem within_unmatchedInvoice (p : Population) {invoice : ERPInvoice} (hi : invoice ∈ inp.erp) :
    Within inp p (p.invoice invoice) (unmatchedInvoiceResult invoice) :=
  within_of_lists (lists_unmatchedInvoice hi) (fun _ hb => absurd hb List.not_mem_nil)
    (List.forall_mem_singleton.mpr rfl) (fun _ he => absurd he List.not_mem_nil)
    ⟨.erp, List.cons_ne_nil _ _⟩

/-- The results of the population alone are those that concern it. -/
theorem values_only (hsep : Separate self.runtime inp p)
    (hids : ∀ source, (inp.ids source).Nodup) :
    (self.afterUnmatched (inp.only p)).values =
      (self.afterUnmatched inp).values.filter (inp.concerns p) := by
  have h := agrees_afterAwaiting hsep hids
  rw [values_afterUnmatched, values_afterUnmatched, List.filter_append, List.filter_append, h.values,
    ← filter_leftovers (fun bank hb => (within_unmatchedBank p hb).concerns_eq hids)
      fun bank hb hp => ?_,
    ← filter_leftovers (fun invoice hi => (within_unmatchedInvoice p hi).concerns_eq hids)
      fun invoice hi hp => ?_]
  · rfl
  · simp only [h.unused_invoice hi hp]
  · simp only [h.unused_bank hb hp]

/-- No result lists records of the population and others. -/
theorem within_afterUnmatched (hsep : Separate self.runtime inp p)
    (hids : ∀ source, (inp.ids source).Nodup) (hv : v ∈ (self.afterUnmatched inp).values) :
    ∃ inside, Within inp p inside v := by
  rcases mem_values_afterUnmatched.mp hv with hv | ⟨bank, hb, -, rfl⟩ | ⟨invoice, hi, -, rfl⟩
  · exact (agrees_afterAwaiting hsep hids).within v hv
  · exact ⟨_, within_unmatchedBank p hb⟩
  · exact ⟨_, within_unmatchedInvoice p hi⟩

end ReconciliationEngine

/-! ### Everything, and a part of it -/

section

variable {banks : List BankTransaction} {erp : List ERPInvoice}
  {gateways : List GatewaySettlementEntry} {p : Population}

theorem nodup_dates {α : Type} {l : List α} {dateOf : α → Date} {idOf : α → String}
    (hids : (l.map idOf).Nodup) : (l.map fun x => toLex (dateOf x, idOf x)).Nodup := by
  refine List.Nodup.of_map (fun k : Lex (Date × String) => (ofLex k).2) ?_
  rw [List.map_map]
  exact hids

/-- The population is sorted as it stands among all. -/
theorem sortInputs_only (hids : ∀ source, (recordIds banks erp gateways source).Nodup) :
    sortInputs (banks.filter p.bank) (erp.filter p.invoice) (gateways.filter p.gateway) =
      (sortInputs banks erp gateways).only p := by
  simp only [sortInputs, Inputs.only]
  rw [sortOn_filter _ _ (nodup_dates (hids .bank)), sortOn_filter _ _ (nodup_dates (hids .erp)),
    sortOn_filter _ _ (nodup_dates (hids .gateway))]

theorem Separate.sorted {py : Runtime} (h : Separate py ⟨banks, erp, gateways⟩ p) :
    Separate py (sortInputs banks erp gateways) p := by
  have hbank {bank : BankTransaction} : bank ∈ (sortInputs banks erp gateways).banks ↔
      bank ∈ banks := mem_sortOn _
  have hinvoice {invoice : ERPInvoice} : invoice ∈ (sortInputs banks erp gateways).erp ↔
      invoice ∈ erp := mem_sortOn _
  have hgateway {entry : GatewaySettlementEntry} :
      entry ∈ (sortInputs banks erp gateways).gateways ↔ entry ∈ gateways := mem_sortOn _
  exact ⟨fun a ha b hb => h.fingerprints a (hbank.mp ha) b (hbank.mp hb),
    fun bank hb invoice hi => h.mentions bank (hbank.mp hb) invoice (hinvoice.mp hi),
    fun a ha b hb => h.settlements a (hgateway.mp ha) b (hgateway.mp hb),
    fun entry he invoice hi => h.references entry (hgateway.mp he) invoice (hinvoice.mp hi),
    fun entry he bank hb => h.payouts entry (hgateway.mp he) bank (hbank.mp hb)⟩

theorem mem_ids_only_sortInputs (source : Source) (id : String) :
    id ∈ ((sortInputs banks erp gateways).only p).ids source ↔
      id ∈ ((Inputs.mk banks erp gateways).only p).ids source := by
  cases source <;> simp [Inputs.ids, Inputs.only, sortInputs]

theorem concerns_sortInputs : (sortInputs banks erp gateways).concerns p =
    (Inputs.mk banks erp gateways).concerns p := by
  funext v
  simp only [Inputs.concerns, mem_ids_only_sortInputs]

end

/-- **A separate population is reconciled as if it were alone.**  Its records alone give the results
that list any of them, in their order, but for the result ids; and none of these lists any other
record. -/
theorem reconcile_population (self : ReconciliationEngine) {banks : List BankTransaction}
    {erp : List ERPInvoice} {gateways : List GatewaySettlementEntry} {p : Population}
    {results : List ReconciliationResult}
    (hsep : Separate self.runtime ⟨banks, erp, gateways⟩ p)
    (h : self.reconcile banks erp gateways = .ok results) :
    (∃ results', self.reconcile (banks.filter p.bank) (erp.filter p.invoice)
        (gateways.filter p.gateway) = .ok results' ∧
      valuesOf results' = (valuesOf results).filter (Inputs.concerns ⟨banks, erp, gateways⟩ p)) ∧
    ∀ v ∈ valuesOf results, Inputs.concerns ⟨banks, erp, gateways⟩ p v = true →
      ∀ source, ∀ id ∈ v.ids source,
        id ∈ ((Inputs.mk banks erp gateways).only p).ids source := by
  rcases self.reconcile_cases banks erp gateways with ⟨hids, hok⟩ | ⟨source, -, herror⟩
  · obtain rfl := Except.ok.inj (h.symm.trans hok)
    have hsorted : ∀ source, ((sortInputs banks erp gateways).ids source).Nodup := fun source =>
      (ids_sortInputs_perm banks erp gateways source).nodup_iff.mpr (hids source)
    refine ⟨?_, fun v hv hc source id hid => ?_⟩
    · -- a part of the records has distinct ids as well
      rcases self.reconcile_cases (banks.filter p.bank) (erp.filter p.invoice)
          (gateways.filter p.gateway) with ⟨-, hok'⟩ | ⟨source, hrepeated, -⟩
      · refine ⟨_, hok', ?_⟩
        rw [sortInputs_only hids, ← concerns_sortInputs]
        exact ReconciliationEngine.values_only hsep.sorted hsorted
      · refine absurd ?_ hrepeated
        cases source
        · exact (hids .bank).sublist (List.filter_sublist.map _)
        · exact (hids .erp).sublist (List.filter_sublist.map _)
        · exact (hids .gateway).sublist (List.filter_sublist.map _)
    · obtain ⟨inside, hwithin⟩ :=
        ReconciliationEngine.within_afterUnmatched hsep.sorted hsorted hv
      rw [← concerns_sortInputs, hwithin.concerns_eq hsorted] at hc
      exact (mem_ids_only_sortInputs source id).mp ((hc ▸ hwithin).mem_ids source hid)
  · rw [h] at herror
    cases herror

/-- The deposit and its invoice, without the withdrawal. -/
def depositPopulation : Population where
  bank bank := decide (bank.sourceRecordId = "B-1")
  invoice _ := true
  gateway _ := true

theorem separate_deposit :
    Separate .ascii ⟨[deposit, withdrawal], [depositInvoice], []⟩ depositPopulation where
  fingerprints := by decide +kernel
  mentions := by decide +kernel
  settlements := by decide
  references := by decide
  payouts := by decide

theorem reconcile_population_deposit :
    (∃ results', (⟨.ascii, {}⟩ : ReconciliationEngine).reconcile
        ([deposit, withdrawal].filter depositPopulation.bank)
        ([depositInvoice].filter depositPopulation.invoice)
        (List.filter depositPopulation.gateway []) = .ok results' ∧
      valuesOf results' = (valuesOf (number [ReconciliationEngine.exactResult deposit depositInvoice,
        ReconciliationEngine.unmatchedBankResult withdrawal])).filter
          (Inputs.concerns ⟨[deposit, withdrawal], [depositInvoice], []⟩ depositPopulation)) ∧
    ∀ v ∈ valuesOf (number [ReconciliationEngine.exactResult deposit depositInvoice,
        ReconciliationEngine.unmatchedBankResult withdrawal]),
      Inputs.concerns ⟨[deposit, withdrawal], [depositInvoice], []⟩ depositPopulation v = true →
        ∀ source, ∀ id ∈ v.ids source, id ∈
          ((Inputs.mk [deposit, withdrawal] [depositInvoice] []).only depositPopulation).ids source :=
  reconcile_population ⟨.ascii, {}⟩ separate_deposit (by decide +kernel)

end ReconcileFlow.Reconciliation
