import ReconcileFlow.Reconciliation.Accounts
import ReconcileFlow.Reconciliation.Soundness

/-!
# Reconciliation — Balance

The amounts of the results add up to those of the records.  What the results say was paid is what the
bank entries total, each group of duplicates stated once; what the results with gateway entries expect
is what these entries pay out; and what the others expect is what their invoices are due
(`reconcile_balances`).  Nothing is lost, counted twice or made up, whichever rules have matched what.

Each result states amounts of the records that it lists (`Emission.stated`), and the results list every
record once, so the sums over results are sums over records (`sum_of_allotted`).  Arithmetic is
exact here.
-/

namespace ReconcileFlow.Reconciliation

open Support

/-- An amount of a result, or zero. -/
def stated (amount : Option Decimal) : ℚ := amount.elim 0 Decimal.toRat

/-- What a result says was paid by the bank entries it lists. -/
def paidBy (v : ResultValues) : ℚ :=
  -- the entries of a duplicate group have one amount, which is stated once
  if v.status = .duplicate then v.bankSourceRecordIds.length * stated v.actualAmount
  else stated v.actualAmount

/-- The result lists gateway entries. -/
def hasGateways (v : ResultValues) : Bool := decide (v.gatewaySourceRecordIds ≠ [])

/-- The result expects what invoices are due. -/
def expectsInvoices (v : ResultValues) : Bool :=
  decide (v.status ≠ .duplicate) && !hasGateways v

/-- What the gateway entries pay out. -/
def netTotal (recs : Inputs) : ℚ := (recs.gateways.map (·.netAmount.toRat)).sum

/-- The amounts of a result are those of the records `recs`. -/
structure States (v : ResultValues) (recs : Inputs) : Prop where
  paid : paidBy v = bankTotal recs
  net : hasGateways v = true → stated v.expectedAmount = netTotal recs
  due : expectsInvoices v = true → stated v.expectedAmount = invoiceTotal recs

/-! ### Each rule -/

namespace ReconciliationEngine

variable {self : ReconciliationEngine} {inp : Inputs} {s : State} {v : ResultValues}

/-- The entries of a duplicate group have the amount of the first. -/
theorem amount_of_group {group : Group Fingerprint BankTransaction}
    (hg : group ∈ duplicateGroups inp) :
    ∀ bank ∈ group.members, bank.amount.toRat = group.first.amount.toRat := by
  intro bank hb
  have hgroup : group ∈ groupOn Fingerprint.same fingerprint inp.banks := (mem_sortOn _).mp hg
  have hkeyed : Keyed Fingerprint.same fingerprint (groupOn Fingerprint.same fingerprint inp.banks) :=
    keyed_groupOn fingerprint Fingerprint.same_refl inp.banks
  have hsame := hkeyed.members group hgroup bank hb
  rw [hkeyed.first group hgroup, Fingerprint.same_iff] at hsame
  exact ((Decimal.numEq_iff _ _).mp hsame.2.2.2.2).symm

theorem states_duplicate {group : Group Fingerprint BankTransaction}
    (hg : group ∈ duplicateGroups inp) (linked : List ERPInvoice) :
    States (duplicateResult group linked) ⟨group.members, linked, []⟩ where
  paid := by
    have hall : group.members.map (·.amount.toRat) =
        group.members.map fun _ => group.first.amount.toRat :=
      List.map_congr_left (amount_of_group hg)
    rw [bankTotal, hall, List.map_const', List.sum_replicate, nsmul_eq_mul]
    simp [paidBy, duplicateResult, stated]
  net h := by cases h
  due h := by cases h

/-- A result of bank entries and invoices. -/
theorem states_of_amounts {recs : Inputs} (hstatus : v.status ≠ .duplicate)
    (hgateways : v.gatewaySourceRecordIds = []) (hactual : stated v.actualAmount = bankTotal recs)
    (hexpected : stated v.expectedAmount = invoiceTotal recs) : States v recs where
  paid := by rw [paidBy, if_neg hstatus, hactual]
  net h := by simp [hasGateways, hgateways] at h
  due _ := hexpected

/-- A result of gateway entries. -/
theorem states_of_net {recs : Inputs} (hstatus : v.status ≠ .duplicate)
    (hgateways : v.gatewaySourceRecordIds ≠ []) (hactual : stated v.actualAmount = bankTotal recs)
    (hexpected : stated v.expectedAmount = netTotal recs) : States v recs where
  paid := by rw [paidBy, if_neg hstatus, hactual]
  net _ := hexpected
  due h := by simp [expectsInvoices, hasGateways, hgateways] at h

theorem toRat_netOf (hctx : self.runtime.context = .exact)
    (entries : List GatewaySettlementEntry) :
    (self.netOf entries).toRat = (entries.map (·.netAmount.toRat)).sum := by
  rw [netOf, hctx, Decimal.toRat_sum, List.map_map]
  rfl

/-- **The amounts of every emission are those of the records it lists.** -/
theorem Emission.states (hctx : self.runtime.context = .exact) (h : self.Emission inp s v) :
    ∃ recs, Lists inp v recs ∧ States v recs := by
  cases h with
  | duplicate hg => exact ⟨_, lists_duplicate hg, states_duplicate hg _⟩
  | exact hi hnew hb =>
    exact ⟨_, lists_exact hb hi, states_of_amounts (by rintro ⟨⟩) rfl (bankTotal_singleton _ _ _).symm
      (invoiceTotal_singleton _ _ _).symm⟩
  | tolerance hi hnew hb =>
    exact ⟨_, lists_tolerance hb hi, states_of_amounts (by rintro ⟨⟩) rfl (bankTotal_singleton _ _ _).symm
      (invoiceTotal_singleton _ _ _).symm⟩
  | @settlement group bank hg hnew hb =>
    exact ⟨_, lists_settlement hg hb, states_of_net (by rintro ⟨⟩) (List.cons_ne_nil _ _)
      (bankTotal_singleton _ _ _).symm (toRat_netOf hctx _)⟩
  | @manyToOne bank chosen hb hnew hel hc hne =>
    obtain ⟨hsub, -, -, hnumEq⟩ := matchingGroup_spec hc hne
    have hexpected := (toRat_sum_of_numEq hctx hnumEq).1
    rw [List.map_map] at hexpected
    exact ⟨_, lists_manyToOne hb hsub, states_of_amounts (by rintro ⟨⟩) rfl
      (bankTotal_singleton _ _ _).symm hexpected⟩
  | @oneToMany invoice chosen hi hnew hc hne =>
    obtain ⟨hsub, -, -, hnumEq⟩ := matchingGroup_spec hc hne
    have hactual := (toRat_sum_of_numEq hctx hnumEq).1
    rw [List.map_map] at hactual
    exact ⟨_, lists_oneToMany hi hsub, states_of_amounts (by rintro ⟨⟩) rfl hactual
      (invoiceTotal_singleton _ _ _).symm⟩
  | awaiting hg hr =>
    exact ⟨_, lists_awaiting hg hr, states_of_net (by rintro ⟨⟩) (List.cons_ne_nil _ _) rfl
      (toRat_netOf hctx _)⟩

theorem states_afterUnmatched (hctx : self.runtime.context = .exact)
    (hids : ∀ source, (inp.ids source).Nodup) :
    ∀ v ∈ (self.afterUnmatched inp).values, ∃ recs, Lists inp v recs ∧ States v recs := by
  have htake : ∀ s v, self.Emission inp s v →
      (∀ w ∈ s.values, ∃ recs, Lists inp w recs ∧ States w recs) →
      ∀ w ∈ (s.take v).values, ∃ recs, Lists inp w recs ∧ States w recs := by
    intro s v he h
    rw [State.values_take]
    exact List.forall_mem_append.mpr ⟨h, List.forall_mem_singleton.mpr (he.states hctx)⟩
  have hstart := afterDuplicates_invariant
    (fun s => ∀ w ∈ s.values, ∃ recs, Lists inp w recs ∧ States w recs) (hids .bank)
    (fun w hw => absurd hw List.not_mem_nil)
    fun s _ hg hlen hnew => htake s _ (.duplicate hg hlen hnew)
  have hrules := afterAwaiting_invariant
    (fun s => ∀ w ∈ s.values, ∃ recs, Lists inp w recs ∧ States w recs) (hids .gateway) hstart htake
  intro v hv
  rcases mem_values_afterUnmatched.mp hv with hv | ⟨bank, hb, -, rfl⟩ | ⟨invoice, hi, -, rfl⟩
  · exact hrules v hv
  · exact ⟨_, lists_unmatchedBank hb, states_of_amounts (by rintro ⟨⟩) rfl
      (bankTotal_singleton _ _ _).symm rfl⟩
  · exact ⟨_, lists_unmatchedInvoice hi, states_of_amounts (by rintro ⟨⟩) rfl rfl
      (invoiceTotal_singleton _ _ _).symm⟩

end ReconciliationEngine

/-! ### Sums over the results -/

section

variable {α : Type} {source : Source} {inp : Inputs} {records : List α} {idOf : α → String}
  {amount : α → ℚ} {vs : List ResultValues} {state : ResultValues → ℚ}

/-- The amount of the record with an id. -/
def amountUnder (records : List α) (idOf : α → String) (amount : α → ℚ) (id : String) : ℚ :=
  (records.find? fun x => decide (idOf x = id)).elim 0 amount

theorem amountUnder_idOf (hids : (records.map idOf).Nodup) {x : α} (hx : x ∈ records) :
    amountUnder records idOf amount (idOf x) = amount x := by
  have hfind : records.find? (fun y => decide (idOf y = idOf x)) = some x := by
    have hsome : (records.find? fun y => decide (idOf y = idOf x)).isSome = true :=
      List.find?_isSome.mpr ⟨x, hx, decide_eq_true rfl⟩
    obtain ⟨y, hy⟩ := Option.isSome_iff_exists.mp hsome
    have hsame : idOf y = idOf x := by simpa using List.find?_some hy
    rw [hy, List.inj_on_of_nodup_map hids (List.mem_of_find?_eq_some hy) hx hsame]
  rw [amountUnder, hfind]
  rfl

/-- Amounts of records may be summed under their ids. -/
theorem sum_amountUnder (hids : (records.map idOf).Nodup) {chosen : List α}
    (hsub : ∀ x ∈ chosen, x ∈ records) :
    ((chosen.map idOf).map (amountUnder records idOf amount)).sum = (chosen.map amount).sum := by
  rw [List.map_map]
  exact congrArg List.sum (List.map_congr_left fun x hx => amountUnder_idOf hids (hsub x hx))

/-- **What results state of records they list is what the listed records total**, if no two of them
list one record. -/
theorem sum_of_allotted (hpool : inp.ids source = records.map idOf)
    (hids : (inp.ids source).Nodup) (hall : Allotted (inp.ids source) (vs.map (·.ids source)))
    (hstate : ∀ v ∈ vs, ∃ chosen : List α, (∀ x ∈ chosen, x ∈ records) ∧
      v.ids source = chosen.map idOf ∧ state v = (chosen.map amount).sum) :
    (vs.map state).sum = ((records.filter fun x =>
      decide (idOf x ∈ (vs.map (·.ids source)).flatten)).map amount).sum := by
  have hnodup := hpool ▸ hids
  have hstates : vs.map state = (vs.map (·.ids source)).map fun ids =>
      (ids.map (amountUnder records idOf amount)).sum := by
    rw [List.map_map]
    refine List.map_congr_left fun v hv => ?_
    obtain ⟨chosen, hsub, hlisted, hsum⟩ := hstate v hv
    rw [hsum, Function.comp_apply, hlisted, sum_amountUnder hnodup hsub]
  calc (vs.map state).sum
      = ((vs.map (·.ids source)).flatten.map (amountUnder records idOf amount)).sum := by
        rw [hstates, List.map_flatten, List.sum_flatten, List.map_map, List.map_map, List.map_map]
        rfl
    _ = (((records.map idOf).filter fun id =>
          decide (id ∈ (vs.map (·.ids source)).flatten)).map
            (amountUnder records idOf amount)).sum := by
        have hperm := hall.perm_filter hids
        rw [hpool] at hperm
        exact (hperm.map _).sum_eq
    _ = _ := by
        rw [List.filter_map]
        exact sum_amountUnder hnodup fun x hx => List.mem_of_mem_filter hx

end

/-- The amounts of the results and of the records. -/
structure Balances (banks : List BankTransaction) (erp : List ERPInvoice)
    (gateways : List GatewaySettlementEntry) (vs : List ResultValues) : Prop where
  /-- What the results say was paid is what the bank entries total. -/
  paid : (vs.map paidBy).sum = (banks.map (·.amount.toRat)).sum
  /-- What results with gateway entries expect is what all gateway entries pay out. -/
  net : ((vs.filter hasGateways).map fun v => stated v.expectedAmount).sum =
    (gateways.map (·.netAmount.toRat)).sum
  /-- What the other results expect, duplicates apart, is what the invoices that they list are
  due. -/
  due : ((vs.filter expectsInvoices).map fun v => stated v.expectedAmount).sum =
    ((erp.filter fun invoice => vs.any fun v =>
      expectsInvoices v && decide (invoice.invoiceId ∈ v.erpInvoiceIds)).map
        (·.amountDue.toRat)).sum

namespace ReconciliationEngine

theorem balances_afterUnmatched (self : ReconciliationEngine)
    (hctx : self.runtime.context = .exact) {inp : Inputs}
    (hids : ∀ source, (inp.ids source).Nodup) :
    Balances inp.banks inp.erp inp.gateways (self.afterUnmatched inp).values := by
  have hstates := states_afterUnmatched hctx hids
  have hwhole := self.whole_afterUnmatched hids
  generalize (self.afterUnmatched inp).values = vs at hstates hwhole
  have hsome {q : ResultValues → Bool} (source : Source) :
      Allotted (inp.ids source) ((vs.filter q).map (·.ids source)) :=
    (hwhole source).toAllotted.sublist (List.filter_sublist.map _)
  refine ⟨?_, ?_, ?_⟩
  · have hlisted : ∀ v ∈ vs, ∃ chosen : List BankTransaction, (∀ bank ∈ chosen, bank ∈ inp.banks) ∧
        v.ids .bank = chosen.map (·.sourceRecordId) ∧
        paidBy v = (chosen.map (·.amount.toRat)).sum := by
      intro v hv
      obtain ⟨recs, hl, hamounts⟩ := hstates v hv
      exact ⟨recs.banks, hl.banks, hl.ids .bank, hamounts.paid⟩
    rw [sum_of_allotted rfl (hids .bank) (hwhole .bank).toAllotted hlisted,
      List.filter_eq_self.mpr fun bank hb => decide_eq_true ?_]
    exact (hwhole .bank).covers _ (List.mem_map_of_mem hb)
  · have hlisted : ∀ v ∈ vs.filter hasGateways, ∃ chosen : List GatewaySettlementEntry,
        (∀ entry ∈ chosen, entry ∈ inp.gateways) ∧
        v.ids .gateway = chosen.map (·.sourceRecordId) ∧
        stated v.expectedAmount = (chosen.map (·.netAmount.toRat)).sum := by
      intro v hv
      obtain ⟨hv, hgateways⟩ := List.mem_filter.mp hv
      obtain ⟨recs, hl, hamounts⟩ := hstates v hv
      exact ⟨recs.gateways, hl.gateways, hl.ids .gateway, hamounts.net hgateways⟩
    rw [sum_of_allotted rfl (hids .gateway) (hsome .gateway) hlisted,
      List.filter_eq_self.mpr fun entry he => decide_eq_true ?_]
    -- the result that lists an entry lists one
    obtain ⟨ids, hmem, hid⟩ := List.mem_flatten.mp
      ((hwhole .gateway).covers _ (List.mem_map_of_mem he))
    obtain ⟨v, hv, rfl⟩ := List.mem_map.mp hmem
    exact List.mem_flatten.mpr ⟨_, List.mem_map_of_mem (List.mem_filter.mpr
      ⟨hv, decide_eq_true (List.ne_nil_of_mem hid)⟩), hid⟩
  · have hlisted : ∀ v ∈ vs.filter expectsInvoices, ∃ chosen : List ERPInvoice,
        (∀ invoice ∈ chosen, invoice ∈ inp.erp) ∧ v.ids .erp = chosen.map (·.invoiceId) ∧
        stated v.expectedAmount = (chosen.map (·.amountDue.toRat)).sum := by
      intro v hv
      obtain ⟨hv, hexpects⟩ := List.mem_filter.mp hv
      obtain ⟨recs, hl, hamounts⟩ := hstates v hv
      exact ⟨recs.erp, hl.erp, hl.ids .erp, hamounts.due hexpects⟩
    rw [sum_of_allotted rfl (hids .erp) (hsome .erp) hlisted]
    refine congrArg (fun invoices => (List.map _ invoices).sum)
      (List.filter_congr fun invoice hi => ?_)
    rw [Bool.eq_iff_iff, decide_eq_true_eq, List.any_eq_true]
    simp only [List.mem_flatten, List.mem_map, List.mem_filter, Bool.and_eq_true,
      decide_eq_true_eq]
    constructor
    · rintro ⟨_, ⟨v, ⟨hv, hexpects⟩, rfl⟩, hid⟩
      exact ⟨v, hv, hexpects, hid⟩
    · rintro ⟨v, hv, hexpects, hid⟩
      exact ⟨_, ⟨v, ⟨hv, hexpects⟩, rfl⟩, hid⟩

end ReconciliationEngine

/-- **The results balance**: what they state adds up to what the records amount to. -/
theorem reconcile_balances (self : ReconciliationEngine) (hctx : self.runtime.context = .exact)
    {banks : List BankTransaction} {erp : List ERPInvoice}
    {gateways : List GatewaySettlementEntry} {results : List ReconciliationResult}
    (h : self.reconcile banks erp gateways = .ok results) :
    Balances banks erp gateways (valuesOf results) := by
  rcases self.reconcile_cases banks erp gateways with ⟨hids, hok⟩ | ⟨source, -, herror⟩
  · obtain rfl := Except.ok.inj (h.symm.trans hok)
    obtain ⟨hpaid, hnet, hdue⟩ := self.balances_afterUnmatched hctx fun source =>
      (ids_sortInputs_perm banks erp gateways source).nodup_iff.mpr (hids source)
    exact ⟨hpaid.trans ((sortOn_perm _ banks).map _).sum_eq,
      hnet.trans ((sortOn_perm _ gateways).map _).sum_eq,
      hdue.trans (((sortOn_perm _ erp).filter _).map _).sum_eq⟩
  · rw [h] at herror
    cases herror

theorem reconcile_balances_deposit :
    Balances [deposit] [depositInvoice] []
      (valuesOf (number [ReconciliationEngine.exactResult deposit depositInvoice])) :=
  reconcile_balances ⟨⟨String.toLower, .exact⟩, {}⟩ rfl (by decide +kernel)

end ReconcileFlow.Reconciliation
