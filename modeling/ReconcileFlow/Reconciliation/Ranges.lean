import ReconcileFlow.Reconciliation.Engine
import ReconcileFlow.Support.DecimalRange

/-!
# Reconciliation — Ranges

The arithmetic of the engine within the exponents of its context.  The engine adds up amounts of
some of its records and takes differences of what it has; `InRange` says that each of these has a
result where exponents are bounded, and the one that the engine goes on with.  On amounts of
ordinary size, of fewer records than the precision can count, it holds (`inRange`): nothing
overflows there.
-/

namespace ReconcileFlow.Reconciliation

open Support

variable (self : ReconciliationEngine) (inp : Inputs) (limits : Decimal.Limits)

/-- Nothing that the engine computes with these records overflows. -/
structure InRange : Prop where
  nets : ∀ entries, entries.Subperm inp.gateways →
    limits.sum (entries.map (·.netAmount)) = some (self.netOf entries)
  grosses : ∀ entries, entries.Subperm inp.gateways →
    limits.sum (entries.map (·.grossAmount)) = some (self.grossOf entries)
  fees : ∀ entries, entries.Subperm inp.gateways →
    limits.sub (self.grossOf entries) (self.netOf entries) =
      some (self.runtime.context.sub (self.grossOf entries) (self.netOf entries))
  settlements : ∀ bank ∈ inp.banks, ∀ entries, entries.Subperm inp.gateways →
    (limits.sub bank.amount (self.netOf entries)).bind limits.abs =
      some (self.runtime.context.abs (self.runtime.context.sub bank.amount (self.netOf entries)))
  differences : ∀ bank ∈ inp.banks, ∀ invoice ∈ inp.erp,
    (limits.sub bank.amount invoice.amountDue).bind limits.abs =
      some (self.differenceOf bank invoice)
  invoiceGroups : ∀ chosen : List ERPInvoice, chosen.Subperm inp.erp →
    limits.sum (chosen.map (·.amountDue)) =
      some (self.runtime.context.sum (chosen.map (·.amountDue)))
  bankGroups : ∀ chosen : List BankTransaction, chosen.Subperm inp.banks →
    limits.sum (chosen.map (·.amount)) = some (self.runtime.context.sum (chosen.map (·.amount)))

/-- The amounts are at most `10 ^ bound`, and there are fewer of them than the precision counts. -/
structure Ordinary (bound : ℕ) : Prop where
  banks : ∀ bank ∈ inp.banks, limits.Moderate bound bank.amount
  invoices : ∀ invoice ∈ inp.erp, limits.Moderate bound invoice.amountDue
  nets : ∀ entry ∈ inp.gateways, limits.Moderate bound entry.netAmount
  grosses : ∀ entry ∈ inp.gateways, limits.Moderate bound entry.grossAmount
  fewBanks : inp.banks.length < 10 ^ limits.precision
  fewInvoices : inp.erp.length < 10 ^ limits.precision
  fewEntries : inp.gateways.length < 10 ^ limits.precision

variable {self inp limits} {bound : ℕ}

/-- The entries of a settlement, whose amounts the engine adds up, are some of the records. -/
theorem subperm_settlement {used : List String} {group : Group String GatewaySettlementEntry}
    (h : group ∈ ReconciliationEngine.settlementGroups inp used) :
    group.members.Subperm inp.gateways := by
  have hmembers : group.members.Sublist
      ((ReconciliationEngine.settlementGroups inp used).flatMap Group.members) :=
    List.sublist_flatten_of_mem (List.mem_map_of_mem h)
  have hperm := ((sortOn_perm Group.key _).flatMap_right Group.members).trans
    (groupOn_perm (· == ·) GatewaySettlementEntry.settlementId
      (inp.gateways.filter fun gateway => decide (gateway.sourceRecordId ∉ used)))
  exact hmembers.subperm.trans (hperm.subperm.trans List.filter_sublist.subperm)

/-- The difference that the engine compares with a settlement. -/
theorem InRange.settlement (h : InRange self inp limits) {used : List String}
    {group : Group String GatewaySettlementEntry}
    (hgroup : group ∈ ReconciliationEngine.settlementGroups inp used)
    {bank : BankTransaction} (hbank : bank ∈ inp.banks) :
    limits.sum (group.members.map (·.netAmount)) = some (self.netOf group.members) ∧
      (limits.sub bank.amount (self.netOf group.members)).bind limits.abs =
        some (self.runtime.context.abs
          (self.runtime.context.sub bank.amount (self.netOf group.members))) := by
  obtain ⟨hnets, -, -, hsettlements, -⟩ := h
  have hmembers := subperm_settlement hgroup
  exact ⟨hnets _ hmembers, hsettlements bank hbank _ hmembers⟩

section

variable (hemax : (bound : ℤ) + limits.precision + 1 < limits.emax) (hetiny : limits.etiny ≤ 0)
  (hprecision : 0 < limits.precision)
include hemax hetiny hprecision

/-- The amounts of some of the records add up. -/
theorem sum_subperm {α : Type} {amount : α → Decimal} {records chosen : List α}
    (hmoderate : ∀ record ∈ records, limits.Moderate bound (amount record))
    (hfew : records.length < 10 ^ limits.precision) (hchosen : chosen.Subperm records) :
    limits.sum (chosen.map amount) = some (limits.context.sum (chosen.map amount)) ∧
      ∃ c < 10 ^ limits.precision,
        limits.Total bound c (limits.context.sum (chosen.map amount)) := by
  have hlength : (chosen.map amount).length < 10 ^ limits.precision := by
    rw [List.length_map]
    exact hchosen.length_le.trans_lt hfew
  have hamounts : ∀ d ∈ chosen.map amount, limits.Moderate bound d := by
    intro d hd
    obtain ⟨record, hm, rfl⟩ := List.mem_map.mp hd
    exact hmoderate record (hchosen.subset hm)
  have hsum := Decimal.Limits.sum_total hprecision hemax hetiny hamounts hlength
  exact ⟨hsum.1, _, hlength, hsum.2⟩

/-- **The engine does not overflow** on amounts of ordinary size. -/
theorem inRange (hcontext : self.runtime.context = limits.context)
    (h : Ordinary inp limits bound) : InRange self inp limits := by
  have hone : 1 < 10 ^ limits.precision := Nat.one_lt_pow (by omega) (by decide)
  have hgrosses {entries : List GatewaySettlementEntry} (hentries : entries.Subperm inp.gateways) :=
    sum_subperm hemax hetiny hprecision h.grosses h.fewEntries hentries
  have hnet {entries : List GatewaySettlementEntry} (hentries : entries.Subperm inp.gateways) :
      limits.sum (entries.map (·.netAmount)) = some (self.netOf entries) ∧
        ∃ c < 10 ^ limits.precision, limits.Total bound c (self.netOf entries) := by
    rw [ReconciliationEngine.netOf, hcontext]
    exact sum_subperm hemax hetiny hprecision h.nets h.fewEntries hentries
  constructor
  · exact fun entries hentries => (hnet hentries).1
  · intro entries hentries
    rw [ReconciliationEngine.grossOf, hcontext]
    exact (hgrosses hentries).1
  · intro entries hentries
    obtain ⟨-, c, hc, hnet⟩ := hnet hentries
    obtain ⟨-, c', hc', hgross⟩ := hgrosses hentries
    rw [ReconciliationEngine.grossOf, hcontext]
    exact (Decimal.Limits.sub_total hprecision hemax hgross hnet hc' hc).1
  · intro bank hbank entries hentries
    obtain ⟨-, c, hc, hnet⟩ := hnet hentries
    obtain ⟨hsub, habs⟩ := Decimal.Limits.sub_total hprecision hemax (h.banks bank hbank).total
      hnet hone hc
    rw [hcontext, hsub, Option.bind_some, habs]
  · intro bank hbank invoice hinvoice
    obtain ⟨hsub, habs⟩ := Decimal.Limits.sub_total hprecision hemax (h.banks bank hbank).total
      (h.invoices invoice hinvoice).total hone hone
    rw [ReconciliationEngine.differenceOf, hcontext, hsub, Option.bind_some, habs]
  · intro chosen hchosen
    rw [hcontext]
    exact (sum_subperm hemax hetiny hprecision h.invoices h.fewInvoices hchosen).1
  · intro chosen hchosen
    rw [hcontext]
    exact (sum_subperm hemax hetiny hprecision h.banks h.fewBanks hchosen).1

end

example (h : Ordinary inp .default 900000) : InRange ⟨.ascii, {}⟩ inp .default :=
  inRange (by decide) (by decide) (by decide) rfl h

end ReconcileFlow.Reconciliation
