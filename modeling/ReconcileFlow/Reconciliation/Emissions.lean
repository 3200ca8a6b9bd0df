import ReconcileFlow.Reconciliation.Engine
import ReconcileFlow.Support.Folding

/-!
# Reconciliation — Emissions

What the rules add, told apart from how the loops thread the state.  In each state a rule emits
the values of one result for an item, or nothing (`exactEmits` and its siblings); the state then
takes the values, which uses every id they list (`State.take`).  This is what the steps of the
engine do (`exactStep_eq` and its siblings).

`Emission` lists, rule by rule, all that a rule has tested when it emits in a state.  A property of
states that every emission keeps holds after the rules (`afterDuplicates_invariant`,
`afterAwaiting_invariant`).
-/

namespace ReconcileFlow.Reconciliation

open Support

namespace State

/-- The used ids of one source. -/
def used (s : State) : Source → List String
  | .bank => s.usedBanks
  | .erp => s.usedInvoices
  | .gateway => s.usedGateways

/-- The values of the results. -/
def values (s : State) : List ResultValues := valuesOf s.results

/-- Uses every id that `v` lists, and adds `v`. -/
def take (s : State) (v : ResultValues) : State :=
  (((s.useBanks v.bankSourceRecordIds).useInvoices v.erpInvoiceIds).useGateways
    v.gatewaySourceRecordIds).add v

def takeOption (s : State) : Option ResultValues → State
  | none => s
  | some v => s.take v

@[simp] theorem used_take (s : State) (v : ResultValues) (source : Source) :
    (s.take v).used source = s.used source ++ v.ids source := by
  cases source <;> rfl

@[simp] theorem results_take (s : State) (v : ResultValues) :
    (s.take v).results = s.results ++ [⟨v, formatResultId (s.results.length + 1)⟩] := rfl

@[simp] theorem values_take (s : State) (v : ResultValues) :
    (s.take v).values = s.values ++ [v] := by
  simp [values, valuesOf]

@[simp] theorem values_takeOption (s : State) (o : Option ResultValues) :
    (s.takeOption o).values = s.values ++ o.toList := by
  cases o <;> simp [takeOption]

theorem take_of_no_gateways (s : State) (v : ResultValues) (h : v.gatewaySourceRecordIds = []) :
    s.take v = ((s.useBanks v.bankSourceRecordIds).useInvoices v.erpInvoiceIds).add v := by
  simp [take, h, useGateways]

@[simp] theorem used_add (s : State) (v : ResultValues) (source : Source) :
    (s.add v).used source = s.used source := by
  cases source <;> rfl

@[simp] theorem values_add (s : State) (v : ResultValues) : (s.add v).values = s.values ++ [v] := by
  simp [values, valuesOf, add]

theorem resultId_getElem (s : State) (n : Nat) (h : n < s.results.length) :
    s.results[n].resultId = formatResultId (n + 1) := by
  rw [List.getElem_of_eq s.results_numbered h]
  simp [number]

theorem nodup_resultIds (s : State) : (s.results.map (·.resultId)).Nodup :=
  s.results_numbered ▸ nodup_resultIds_number _

end State

namespace ReconciliationEngine

variable (self : ReconciliationEngine) (inp : Inputs)

/-! ### What each rule emits -/

def duplicateEmits (s : State) (group : Group Fingerprint BankTransaction) :
    Option ResultValues :=
  if group.members.length < 2 then none
  else some (duplicateResult group (self.duplicateLinks inp s group))

def exactEmits (s : State) (invoice : ERPInvoice) : Option ResultValues :=
  if invoice.invoiceId ∈ s.usedInvoices then none
  else (only (self.exactCandidates inp s invoice)).map fun bank => exactResult bank invoice

def settlementEmits (s : State) (group : Group String GatewaySettlementEntry) :
    Option ResultValues :=
  (only (self.settlementCandidates inp s group)).map fun bank =>
    self.settlementResult group bank (self.settlementLinks inp s group)

def toleranceEmits (s : State) (invoice : ERPInvoice) : Option ResultValues :=
  if invoice.invoiceId ∈ s.usedInvoices then none
  else
    (only (self.toleranceCandidates inp s invoice)).map fun bank =>
      self.toleranceResult bank invoice

def manyToOneEmits (s : State) (bank : BankTransaction) : Option ResultValues :=
  if bank.sourceRecordId ∈ s.usedBanks ∨ !eligible bank then none
  else
    match self.matchingCombination (self.manyToOneCandidates inp s bank) bank.amount with
    | [] => none
    | chosen => some (self.manyToOneResult bank chosen)

def oneToManyEmits (s : State) (invoice : ERPInvoice) : Option ResultValues :=
  if invoice.invoiceId ∈ s.usedInvoices then none
  else
    match self.matchingBankCombination (self.oneToManyCandidates inp s invoice)
        invoice.amountDue with
    | [] => none
    | chosen => some (self.oneToManyResult invoice chosen)

def awaitingEmits (s : State) (group : Group String GatewaySettlementEntry) :
    Option ResultValues :=
  match remainingOf s group with
  | [] => none
  | first :: rest =>
      some (self.awaitingResult first (first :: rest) (awaitingLinks inp s (first :: rest)))

/-! ### A step takes what the rule emits -/

theorem duplicateStep_eq :
    self.duplicateStep inp = fun s group => s.takeOption (self.duplicateEmits inp s group) := by
  funext s group
  unfold duplicateStep duplicateEmits
  split
  · rfl
  · exact (State.take_of_no_gateways s (duplicateResult _ _) rfl).symm

theorem exactStep_eq :
    self.exactStep inp = fun s invoice => s.takeOption (self.exactEmits inp s invoice) := by
  funext s invoice
  unfold exactStep exactEmits
  split
  · rfl
  · cases only (self.exactCandidates inp s invoice) with
    | none => rfl
    | some bank =>
        exact (State.take_of_no_gateways s (exactResult bank invoice) rfl).symm

theorem settlementStep_eq :
    self.settlementStep inp = fun s group =>
      s.takeOption (self.settlementEmits inp s group) := by
  funext s group
  unfold settlementStep settlementEmits
  cases only (self.settlementCandidates inp s group) with
  | none => rfl
  | some bank => rfl

theorem toleranceStep_eq :
    self.toleranceStep inp = fun s invoice =>
      s.takeOption (self.toleranceEmits inp s invoice) := by
  funext s invoice
  unfold toleranceStep toleranceEmits
  split
  · rfl
  · cases only (self.toleranceCandidates inp s invoice) with
    | none => rfl
    | some bank =>
        exact (State.take_of_no_gateways s (self.toleranceResult bank invoice) rfl).symm

theorem manyToOneStep_eq :
    self.manyToOneStep inp = fun s bank => s.takeOption (self.manyToOneEmits inp s bank) := by
  funext s bank
  unfold manyToOneStep manyToOneEmits
  split
  · rfl
  · cases self.matchingCombination (self.manyToOneCandidates inp s bank) bank.amount with
    | nil => rfl
    | cons first rest =>
        exact
          (State.take_of_no_gateways s (self.manyToOneResult bank (first :: rest)) rfl).symm

theorem oneToManyStep_eq :
    self.oneToManyStep inp = fun s invoice =>
      s.takeOption (self.oneToManyEmits inp s invoice) := by
  funext s invoice
  unfold oneToManyStep oneToManyEmits
  split
  · rfl
  · cases self.matchingBankCombination (self.oneToManyCandidates inp s invoice)
        invoice.amountDue with
    | nil => rfl
    | cons first rest =>
        exact
          (State.take_of_no_gateways s (self.oneToManyResult invoice (first :: rest)) rfl).symm

theorem awaitingStep_eq :
    self.awaitingStep inp = fun s group => s.takeOption (self.awaitingEmits inp s group) := by
  funext s group
  unfold awaitingStep awaitingEmits
  cases remainingOf s group with
  | nil => rfl
  | cons first rest =>
      -- the banks are untouched, and gateways are used before invoices
      simp only [State.takeOption, State.take, State.useBanks, State.useInvoices,
        State.useGateways, awaitingResult, State.add, List.append_nil]

/-! ### What the lists of candidates and links hold -/

variable {self inp}

theorem mem_duplicateLinks {s : State} {group : Group Fingerprint BankTransaction}
    {invoice : ERPInvoice} :
    invoice ∈ self.duplicateLinks inp s group ↔
      invoice ∈ inp.erp ∧ invoice.invoiceId ∉ s.usedInvoices ∧
        ∃ bank ∈ group.members, mentions self.runtime bank invoice = true ∧
          withinDays bank invoice self.config.dateToleranceDays = true := by
  simp [duplicateLinks]

theorem mem_exactCandidates {s : State} {invoice : ERPInvoice} {bank : BankTransaction} :
    bank ∈ self.exactCandidates inp s invoice ↔
      bank ∈ inp.banks ∧ bank.sourceRecordId ∉ s.usedBanks ∧ eligible bank = true ∧
        bank.currency = invoice.currency ∧ bank.amount.numEq invoice.amountDue = true ∧
        mentions self.runtime bank invoice = true ∧
        withinDays bank invoice self.config.dateToleranceDays = true := by
  simp [exactCandidates, and_assoc]

theorem mem_settlementCandidates {s : State} {group : Group String GatewaySettlementEntry}
    {bank : BankTransaction} :
    bank ∈ self.settlementCandidates inp s group ↔
      bank ∈ inp.banks ∧ bank.sourceRecordId ∉ s.usedBanks ∧ eligible bank = true ∧
        bank.currency = group.first.settlementCurrency ∧
        bank.amount.numEq (self.netOf group.members) = true ∧
        ∃ entry ∈ group.members, (truthy entry.bankReference).isSome = true ∧
          entry.bankReference = bank.bankReference ∧
          (bank.bookingDate - entry.settlementDate).natAbs ≤ self.config.dateToleranceDays := by
  simp [settlementCandidates, and_assoc]

theorem mem_settlementLinks {s : State} {group : Group String GatewaySettlementEntry}
    {invoice : ERPInvoice} :
    invoice ∈ self.settlementLinks inp s group ↔
      invoice ∈ inp.erp ∧ invoice.invoiceId ∉ s.usedInvoices ∧
        invoice.currency = group.first.currency ∧
        invoice.amountDue.numEq (self.grossOf group.members) = true ∧
        ∃ entry ∈ group.members, referencesInvoice entry invoice = true := by
  simp [settlementLinks, and_assoc]

theorem mem_toleranceCandidates {s : State} {invoice : ERPInvoice} {bank : BankTransaction} :
    bank ∈ self.toleranceCandidates inp s invoice ↔
      bank ∈ inp.banks ∧ bank.sourceRecordId ∉ s.usedBanks ∧ eligible bank = true ∧
        bank.currency = invoice.currency ∧
        Decimal.lt (.ofInt 0) (self.differenceOf bank invoice) = true ∧
        (self.differenceOf bank invoice).le self.config.amountTolerance = true ∧
        mentions self.runtime bank invoice = true ∧
        withinDays bank invoice self.config.dateToleranceDays = true := by
  simp [toleranceCandidates, and_assoc]

theorem mem_manyToOneCandidates {s : State} {bank : BankTransaction} {invoice : ERPInvoice} :
    invoice ∈ self.manyToOneCandidates inp s bank ↔
      invoice ∈ inp.erp ∧ invoice.invoiceId ∉ s.usedInvoices ∧
        invoice.currency = bank.currency ∧ mentions self.runtime bank invoice = true ∧
        withinDays bank invoice self.config.dateToleranceDays = true := by
  simp [manyToOneCandidates, and_assoc]

theorem mem_oneToManyCandidates {s : State} {invoice : ERPInvoice} {bank : BankTransaction} :
    bank ∈ self.oneToManyCandidates inp s invoice ↔
      bank ∈ inp.banks ∧ bank.sourceRecordId ∉ s.usedBanks ∧ eligible bank = true ∧
        bank.currency = invoice.currency ∧ mentions self.runtime bank invoice = true ∧
        withinDays bank invoice self.config.dateToleranceDays = true := by
  simp [oneToManyCandidates, and_assoc]

theorem mem_remainingOf {s : State} {group : Group String GatewaySettlementEntry}
    {entry : GatewaySettlementEntry} :
    entry ∈ remainingOf s group ↔
      entry ∈ group.members ∧ entry.sourceRecordId ∉ s.usedGateways := by
  simp [remainingOf]

theorem mem_awaitingLinks {s : State} {remaining : List GatewaySettlementEntry}
    {invoice : ERPInvoice} :
    invoice ∈ awaitingLinks inp s remaining ↔
      invoice ∈ inp.erp ∧ invoice.invoiceId ∉ s.usedInvoices ∧
        ∃ entry ∈ remaining, referencesInvoice entry invoice = true := by
  simp [awaitingLinks]

/-- What the subset search returns, when it returns anything. -/
theorem matchingGroup_spec {α : Type} {amount : α → Decimal}
    {items chosen : List α} {target : Decimal}
    (h : self.matchingGroup amount items target = chosen) (hne : chosen ≠ []) :
    chosen.Sublist items ∧ 2 ≤ chosen.length ∧ chosen.length ≤ self.config.maximumGroupSize ∧
      (self.runtime.context.sum (chosen.map amount)).numEq target = true := by
  unfold matchingGroup at h
  cases hf : (List.range' 2 (min items.length self.config.maximumGroupSize - 1)).findSome?
      fun size => only ((combinations size items).filter fun group =>
        (self.runtime.context.sum (group.map amount)).numEq target) with
  | none =>
      simp only [hf, Option.getD_none] at h
      exact absurd h.symm hne
  | some found =>
      simp only [hf, Option.getD_some] at h
      subst h
      obtain ⟨size, hsize, honly⟩ := List.exists_of_findSome?_eq_some hf
      have hmem := List.mem_filter.mp (mem_of_only honly)
      obtain ⟨hsub, hlen⟩ := mem_combinations.mp hmem.1
      rw [List.mem_range'_1] at hsize
      refine ⟨hsub, by omega, by omega, hmem.2⟩

/-! ### What a rule has tested when it emits -/

variable (self inp)

/-- What a rule may add in the state `s`, with all that it has tested there.  A group is whole
when its rule takes it: no other group shares a record with it. -/
inductive Emission (s : State) : ResultValues → Prop
  | duplicate {group : Group Fingerprint BankTransaction} (hg : group ∈ duplicateGroups inp)
      (hlen : 2 ≤ group.members.length)
      (hnew : ∀ bank ∈ group.members, bank.sourceRecordId ∉ s.usedBanks) :
      Emission s (duplicateResult group (self.duplicateLinks inp s group))
  | exact {invoice : ERPInvoice} {bank : BankTransaction} (hi : invoice ∈ inp.erp)
      (hnew : invoice.invoiceId ∉ s.usedInvoices)
      (hb : bank ∈ self.exactCandidates inp s invoice) : Emission s (exactResult bank invoice)
  | settlement {group : Group String GatewaySettlementEntry} {bank : BankTransaction}
      (hg : group ∈ self.settlements inp)
      (hnew : ∀ entry ∈ group.members, entry.sourceRecordId ∉ s.usedGateways)
      (hb : bank ∈ self.settlementCandidates inp s group) :
      Emission s (self.settlementResult group bank (self.settlementLinks inp s group))
  | tolerance {invoice : ERPInvoice} {bank : BankTransaction} (hi : invoice ∈ inp.erp)
      (hnew : invoice.invoiceId ∉ s.usedInvoices)
      (hb : bank ∈ self.toleranceCandidates inp s invoice) :
      Emission s (self.toleranceResult bank invoice)
  | manyToOne {bank : BankTransaction} {chosen : List ERPInvoice} (hb : bank ∈ inp.banks)
      (hnew : bank.sourceRecordId ∉ s.usedBanks) (hel : eligible bank = true)
      (hc : self.matchingCombination (self.manyToOneCandidates inp s bank) bank.amount = chosen)
      (hne : chosen ≠ []) : Emission s (self.manyToOneResult bank chosen)
  | oneToMany {invoice : ERPInvoice} {chosen : List BankTransaction} (hi : invoice ∈ inp.erp)
      (hnew : invoice.invoiceId ∉ s.usedInvoices)
      (hc : self.matchingBankCombination (self.oneToManyCandidates inp s invoice)
        invoice.amountDue = chosen)
      (hne : chosen ≠ []) : Emission s (self.oneToManyResult invoice chosen)
  | awaiting {group : Group String GatewaySettlementEntry} {first : GatewaySettlementEntry}
      {rest : List GatewaySettlementEntry} (hg : group ∈ self.settlements inp)
      (hr : remainingOf s group = first :: rest) :
      Emission s
        (self.awaitingResult first (first :: rest) (awaitingLinks inp s (first :: rest)))

variable {self inp} {s : State} {v : ResultValues}

theorem duplicateEmits_eq_some {group : Group Fingerprint BankTransaction} :
    self.duplicateEmits inp s group = some v ↔
      2 ≤ group.members.length ∧ v = duplicateResult group (self.duplicateLinks inp s group) := by
  unfold duplicateEmits
  split
  · rename_i hlen
    exact ⟨fun h => (by cases h), fun h => absurd h.1 (Nat.not_le.mpr hlen)⟩
  · rename_i hlen
    rw [Option.some_inj]
    exact ⟨fun h => ⟨Nat.le_of_not_lt hlen, h.symm⟩, fun h => h.2.symm⟩

theorem exactEmits_eq_some {invoice : ERPInvoice} :
    self.exactEmits inp s invoice = some v ↔ invoice.invoiceId ∉ s.usedInvoices ∧
      ∃ bank, self.exactCandidates inp s invoice = [bank] ∧ v = exactResult bank invoice := by
  unfold exactEmits
  split
  · next hused => exact ⟨nofun, fun h => absurd hused h.1⟩
  · next hunused =>
    rw [Option.map_eq_some_iff]
    constructor
    · rintro ⟨bank, hbank, rfl⟩
      exact ⟨hunused, bank, only_eq_some.mp hbank, rfl⟩
    · rintro ⟨-, bank, hbank, rfl⟩
      exact ⟨bank, only_eq_some.mpr hbank, rfl⟩

theorem exactEmits_spec {invoice : ERPInvoice} (h : self.exactEmits inp s invoice = some v) :
    invoice.invoiceId ∉ s.usedInvoices ∧
      ∃ bank ∈ self.exactCandidates inp s invoice, v = exactResult bank invoice := by
  obtain ⟨hnew, bank, hbank, rfl⟩ := exactEmits_eq_some.mp h
  exact ⟨hnew, bank, hbank ▸ List.mem_singleton_self bank, rfl⟩

theorem settlementEmits_eq_some {group : Group String GatewaySettlementEntry} :
    self.settlementEmits inp s group = some v ↔
      ∃ bank, self.settlementCandidates inp s group = [bank] ∧
        v = self.settlementResult group bank (self.settlementLinks inp s group) := by
  rw [settlementEmits, Option.map_eq_some_iff]
  exact exists_congr fun bank => and_congr only_eq_some eq_comm

theorem toleranceEmits_eq_some {invoice : ERPInvoice} :
    self.toleranceEmits inp s invoice = some v ↔ invoice.invoiceId ∉ s.usedInvoices ∧
      ∃ bank, self.toleranceCandidates inp s invoice = [bank] ∧ v = self.toleranceResult bank invoice := by
  unfold toleranceEmits
  split
  · next hused => exact ⟨nofun, fun h => absurd hused h.1⟩
  · next hunused =>
    rw [Option.map_eq_some_iff]
    constructor
    · rintro ⟨bank, hbank, rfl⟩
      exact ⟨hunused, bank, only_eq_some.mp hbank, rfl⟩
    · rintro ⟨-, bank, hbank, rfl⟩
      exact ⟨bank, only_eq_some.mpr hbank, rfl⟩

theorem toleranceEmits_spec {invoice : ERPInvoice}
    (h : self.toleranceEmits inp s invoice = some v) :
    invoice.invoiceId ∉ s.usedInvoices ∧
      ∃ bank ∈ self.toleranceCandidates inp s invoice, v = self.toleranceResult bank invoice := by
  obtain ⟨hnew, bank, hbank, rfl⟩ := toleranceEmits_eq_some.mp h
  exact ⟨hnew, bank, hbank ▸ List.mem_singleton_self bank, rfl⟩

theorem manyToOneEmits_spec {bank : BankTransaction}
    (h : self.manyToOneEmits inp s bank = some v) :
    bank.sourceRecordId ∉ s.usedBanks ∧ eligible bank = true ∧
      ∃ chosen ≠ [], self.matchingCombination (self.manyToOneCandidates inp s bank) bank.amount =
        chosen ∧ v = self.manyToOneResult bank chosen := by
  unfold manyToOneEmits at h
  split at h
  · cases h
  · rename_i hnot
    obtain ⟨hnew, hel⟩ := not_or.mp hnot
    split at h
    · cases h
    · rename_i hne
      cases h
      exact ⟨hnew, by simpa using hel, _, fun he => hne he, rfl, rfl⟩

theorem oneToManyEmits_spec {invoice : ERPInvoice}
    (h : self.oneToManyEmits inp s invoice = some v) :
    invoice.invoiceId ∉ s.usedInvoices ∧
      ∃ chosen ≠ [], self.matchingBankCombination (self.oneToManyCandidates inp s invoice)
        invoice.amountDue = chosen ∧ v = self.oneToManyResult invoice chosen := by
  unfold oneToManyEmits at h
  split at h
  · cases h
  · rename_i hnew
    split at h
    · cases h
    · rename_i hne
      cases h
      exact ⟨hnew, _, fun he => hne he, rfl, rfl⟩

theorem awaitingEmits_eq_some {group : Group String GatewaySettlementEntry} :
    self.awaitingEmits inp s group = some v ↔
      ∃ first rest, remainingOf s group = first :: rest ∧
        v = self.awaitingResult first (first :: rest) (awaitingLinks inp s (first :: rest)) := by
  unfold awaitingEmits
  cases remainingOf s group with
  | nil =>
      constructor
      · intro h
        cases h
      · rintro ⟨first, rest, hr, -⟩
        cases hr
  | cons first rest =>
      constructor
      · intro h
        cases h
        exact ⟨first, rest, rfl, rfl⟩
      · rintro ⟨_, _, hr, rfl⟩
        cases hr
        rfl

/-! ### The loops -/

/-- A loop that takes what it emits keeps an invariant that every emission keeps. -/
theorem foldl_takeOption_invariant {α : Type} {emits : State → α → Option ResultValues}
    {P : State → Prop} {xs : List α} (hs : P s)
    (hstep : ∀ w ∈ visits (fun s x => s.takeOption (emits s x)) s xs, ∀ v,
      emits w.1 w.2 = some v → P w.1 → P (w.1.take v)) :
    P (xs.foldl (fun s x => s.takeOption (emits s x)) s) := by
  refine (loop_invariant P hs fun w hw hP => ?_).1
  cases he : emits w.1 w.2 with
  | none => exact hP
  | some v => exact hstep w hw v he hP

/-- What the results of a loop that takes what it emits are. -/
theorem values_foldl_takeOption {α : Type} (emits : State → α → Option ResultValues)
    (xs : List α) (s : State) :
    (xs.foldl (fun s x => s.takeOption (emits s x)) s).values =
      s.values ++ (visits (fun s x => s.takeOption (emits s x)) s xs).flatMap
        fun w => (emits w.1 w.2).toList :=
  output_foldl (fun s x => State.values_takeOption s (emits s x)) xs s

theorem mem_values_foldl_takeOption {α : Type} (emits : State → α → Option ResultValues)
    (xs : List α) (s : State) :
    v ∈ (xs.foldl (fun s x => s.takeOption (emits s x)) s).values ↔
      v ∈ s.values ∨ ∃ w ∈ visits (fun s x => s.takeOption (emits s x)) s xs,
        emits w.1 w.2 = some v := by
  rw [values_foldl_takeOption, List.mem_append, List.mem_flatMap]
  simp only [Option.mem_toList]

/-- The banks of the duplicate groups are those of the input, each once. -/
theorem duplicateGroups_perm (inp : Inputs) :
    ((duplicateGroups inp).flatMap Group.members).Perm inp.banks :=
  ((sortOn_perm _ _).flatMap_right _).trans (groupOn_perm _ _ _)

/-- The entries of the settlement groups are the unused ones of the input, each once. -/
theorem settlementGroups_perm (inp : Inputs) (used : List String) :
    ((settlementGroups inp used).flatMap Group.members).Perm
      (inp.gateways.filter fun gateway => decide (gateway.sourceRecordId ∉ used)) :=
  ((sortOn_perm _ _).flatMap_right _).trans (groupOn_perm _ _ _)

theorem mem_banks_of_group {group : Group Fingerprint BankTransaction}
    (hg : group ∈ duplicateGroups inp) : ∀ bank ∈ group.members, bank ∈ inp.banks := fun _ hb =>
  (duplicateGroups_perm inp).mem_iff.mp (List.mem_flatMap.mpr ⟨group, hg, hb⟩)

theorem mem_gateways_of_settlement {group : Group String GatewaySettlementEntry}
    (hg : group ∈ self.settlements inp) :
    ∀ entry ∈ group.members, entry ∈ inp.gateways := fun _ he =>
  (List.mem_filter.mp
    ((settlementGroups_perm inp _).mem_iff.mp (List.mem_flatMap.mpr ⟨group, hg, he⟩))).1

theorem nodup_ids_of_group (hbanks : (inp.banks.map (·.sourceRecordId)).Nodup)
    {group : Group Fingerprint BankTransaction} (hg : group ∈ duplicateGroups inp) :
    (group.members.map (·.sourceRecordId)).Nodup := by
  have hall := ((duplicateGroups_perm inp).map (·.sourceRecordId)).nodup_iff.mpr hbanks
  rw [List.map_flatMap] at hall
  exact (List.nodup_flatMap.mp hall).1 group hg

theorem nodup_ids_of_settlement (hgateways : (inp.gateways.map (·.sourceRecordId)).Nodup)
    {group : Group String GatewaySettlementEntry} (hg : group ∈ self.settlements inp) :
    (group.members.map (·.sourceRecordId)).Nodup := by
  have hperm := (settlementGroups_perm inp (self.afterExact inp).usedGateways).map
    GatewaySettlementEntry.sourceRecordId
  have hall := hperm.nodup_iff.mpr (hgateways.sublist (List.filter_sublist.map _))
  rw [List.map_flatMap] at hall
  exact (List.nodup_flatMap.mp hall).1 group hg

theorem usedBanks_duplicateStep (s : State) (group : Group Fingerprint BankTransaction) :
    ∀ i ∈ (self.duplicateStep inp s group).usedBanks,
      i ∈ s.usedBanks ∨ i ∈ group.members.map (·.sourceRecordId) := by
  intro i hi
  unfold duplicateStep at hi
  split at hi
  · exact .inl hi
  · exact List.mem_append.mp hi

theorem usedGateways_settlementStep (s : State) (group : Group String GatewaySettlementEntry) :
    ∀ i ∈ (self.settlementStep inp s group).usedGateways,
      i ∈ s.usedGateways ∨ i ∈ group.members.map (·.sourceRecordId) := by
  intro i hi
  unfold settlementStep at hi
  split at hi
  · exact .inl hi
  · exact List.mem_append.mp hi

/-- The first rule finds the banks of a group unused. -/
theorem duplicates_fresh (self : ReconciliationEngine)
    (hbanks : (inp.banks.map (·.sourceRecordId)).Nodup) :
    ∀ w ∈ visits (self.duplicateStep inp) {} (duplicateGroups inp),
      ∀ bank ∈ w.2.members, bank.sourceRecordId ∉ w.1.usedBanks := by
  have hnodup : ((duplicateGroups inp).flatMap fun group =>
      group.members.map (·.sourceRecordId)).Nodup := by
    rw [← List.map_flatMap]
    exact ((duplicateGroups_perm inp).map _).nodup_iff.mpr hbanks
  intro w hw bank hb
  exact visits_fresh State.usedBanks _ usedBanks_duplicateStep hnodup
    (fun i _ hi => absurd hi List.not_mem_nil) w hw _ (List.mem_map_of_mem hb)

/-- The third rule finds the entries of a group unused. -/
theorem settlements_fresh (self : ReconciliationEngine)
    (hgateways : (inp.gateways.map (·.sourceRecordId)).Nodup) :
    ∀ w ∈ visits (self.settlementStep inp) (self.afterExact inp) (self.settlements inp),
      ∀ entry ∈ w.2.members, entry.sourceRecordId ∉ w.1.usedGateways := by
  have hperm := (settlementGroups_perm inp (self.afterExact inp).usedGateways).map
    GatewaySettlementEntry.sourceRecordId
  rw [List.map_flatMap] at hperm
  intro w hw entry he
  refine visits_fresh State.usedGateways _ usedGateways_settlementStep ?_ ?_ w hw _
    (List.mem_map_of_mem he)
  · exact hperm.nodup_iff.mpr (hgateways.sublist (List.filter_sublist.map _))
  · intro i hi
    obtain ⟨entry, hmem, rfl⟩ := List.mem_map.mp (hperm.mem_iff.mp hi)
    exact of_decide_eq_true (List.mem_filter.mp hmem).2

/-- **What quarantining a group keeps holds after the first rule.** -/
theorem afterDuplicates_invariant (P : State → Prop)
    (hbanks : (inp.banks.map (·.sourceRecordId)).Nodup) (hstart : P {})
    (hstep : ∀ s group, group ∈ duplicateGroups inp → 2 ≤ group.members.length →
      (∀ bank ∈ group.members, bank.sourceRecordId ∉ s.usedBanks) → P s →
        P (s.take (duplicateResult group (self.duplicateLinks inp s group)))) :
    P (self.afterDuplicates inp) := by
  have hfresh := self.duplicates_fresh hbanks
  rw [duplicateStep_eq] at hfresh
  rw [afterDuplicates, duplicateStep_eq]
  refine foldl_takeOption_invariant hstart fun w hw v hv => ?_
  obtain ⟨hlen, rfl⟩ := duplicateEmits_eq_some.mp hv
  exact hstep w.1 w.2 (mem_of_visits hw) hlen (hfresh w hw)

/-- **What every emission keeps holds from the first rule to the seventh.** -/
theorem afterAwaiting_invariant (P : State → Prop)
    (hgateways : (inp.gateways.map (·.sourceRecordId)).Nodup)
    (hstart : P (self.afterDuplicates inp))
    (hstep : ∀ s v, self.Emission inp s v → P s → P (s.take v)) :
    P (self.afterAwaiting inp) := by
  have hexact : P (self.afterExact inp) := by
    rw [afterExact, exactStep_eq]
    refine foldl_takeOption_invariant hstart fun w hw v hv => hstep _ _ ?_
    obtain ⟨hnew, bank, hb, rfl⟩ := exactEmits_spec hv
    exact .exact (mem_of_visits hw) hnew hb
  have hsettlements : P (self.afterSettlements inp) := by
    have hfresh := self.settlements_fresh hgateways
    rw [settlementStep_eq] at hfresh
    rw [afterSettlements, settlementStep_eq]
    refine foldl_takeOption_invariant hexact fun w hw v hv => hstep _ _ ?_
    obtain ⟨bank, hb, rfl⟩ := settlementEmits_eq_some.mp hv
    exact .settlement (mem_of_visits hw) (hfresh w hw) (hb ▸ List.mem_singleton_self bank)
  have htolerance : P (self.afterTolerance inp) := by
    rw [afterTolerance, toleranceStep_eq]
    refine foldl_takeOption_invariant hsettlements fun w hw v hv => hstep _ _ ?_
    obtain ⟨hnew, bank, hb, rfl⟩ := toleranceEmits_spec hv
    exact .tolerance (mem_of_visits hw) hnew hb
  have hmanyToOne : P (self.afterManyToOne inp) := by
    rw [afterManyToOne, manyToOneStep_eq]
    refine foldl_takeOption_invariant htolerance fun w hw v hv => hstep _ _ ?_
    obtain ⟨hnew, hel, chosen, hne, hc, rfl⟩ := manyToOneEmits_spec hv
    exact .manyToOne (mem_of_visits hw) hnew hel hc hne
  have honeToMany : P (self.afterOneToMany inp) := by
    rw [afterOneToMany, oneToManyStep_eq]
    refine foldl_takeOption_invariant hmanyToOne fun w hw v hv => hstep _ _ ?_
    obtain ⟨hnew, chosen, hne, hc, rfl⟩ := oneToManyEmits_spec hv
    exact .oneToMany (mem_of_visits hw) hnew hc hne
  rw [afterAwaiting, awaitingStep_eq]
  refine foldl_takeOption_invariant honeToMany fun w hw v hv => hstep _ _ ?_
  obtain ⟨first, rest, hr, rfl⟩ := awaitingEmits_eq_some.mp hv
  exact .awaiting (mem_of_visits hw) hr

end ReconciliationEngine

end ReconcileFlow.Reconciliation
