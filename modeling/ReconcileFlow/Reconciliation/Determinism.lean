import ReconcileFlow.Reconciliation.Accounts

/-!
# Reconciliation — Determinism

Two runs of the engine compared.

* `reconcile_perm`: the inputs may be given in any order.  The keys of the three sorts end in the
  record's id, so lists of records with distinct ids have one sorted form; and repeated ids are
  refused alike in every order.
* `reconcile_ineligible`: a bank entry that may not be matched changes nothing but the result that
  reports it.  Every rule that consumes bank entries tests `eligible`, and a fingerprint that no
  other entry has makes a group of one, which the first rule passes over.  So the two runs are in
  the same state before each rule (`afterAwaiting_insert`).
-/

namespace ReconcileFlow.Reconciliation

open Support ReconciliationEngine

/-! ### The order of the inputs -/

theorem validateUniqueSourceIds_congr {inp inp' : Inputs}
    (h : ∀ source, (inp.ids source).Nodup ↔ (inp'.ids source).Nodup) :
    validateUniqueSourceIds inp = validateUniqueSourceIds inp' := by
  simp only [validateUniqueSourceIds_eq, h]

/-- Records with distinct ids, sorted by a key that ends in the id, have one sorted form. -/
theorem sortOn_eq_of_perm_ids {α κ : Type} [LinearOrder κ] {l l' : List α} {first : α → κ}
    {idOf : α → String} (hids : (l.map idOf).Nodup) (h : l.Perm l') :
    sortOn (fun x => toLex (first x, idOf x)) l = sortOn (fun x => toLex (first x, idOf x)) l' := by
  refine sortOn_eq_of_perm _ (List.Nodup.of_map (fun key => (ofLex key).2) ?_) h
  rw [List.map_map]
  exact hids

theorem sortInputs_perm {banks banks' : List BankTransaction} {erp erp' : List ERPInvoice}
    {gateways gateways' : List GatewaySettlementEntry}
    (hids : ∀ source, (recordIds banks erp gateways source).Nodup) (hb : banks.Perm banks')
    (he : erp.Perm erp') (hg : gateways.Perm gateways') :
    sortInputs banks erp gateways = sortInputs banks' erp' gateways' := by
  unfold sortInputs
  rw [sortOn_eq_of_perm_ids (hids .bank) hb, sortOn_eq_of_perm_ids (hids .erp) he,
    sortOn_eq_of_perm_ids (hids .gateway) hg]

/-- **The order of the inputs does not matter**: permuted inputs give the same results, or the
same error. -/
theorem reconcile_perm (self : ReconciliationEngine) {banks banks' : List BankTransaction}
    {erp erp' : List ERPInvoice} {gateways gateways' : List GatewaySettlementEntry}
    (hb : banks.Perm banks') (he : erp.Perm erp') (hg : gateways.Perm gateways') :
    self.reconcile banks erp gateways = self.reconcile banks' erp' gateways' := by
  have hperm : ∀ source,
      (recordIds banks erp gateways source).Perm (recordIds banks' erp' gateways' source) := by
    rintro (_ | _ | _)
    · exact hb.map _
    · exact he.map _
    · exact hg.map _
  have hnodup : ∀ source, ((sortInputs banks erp gateways).ids source).Nodup ↔
      ((sortInputs banks' erp' gateways').ids source).Nodup := fun source =>
    (((ids_sortInputs_perm banks erp gateways source).trans (hperm source)).trans
      (ids_sortInputs_perm banks' erp' gateways' source).symm).nodup_iff
  have hsame := validateUniqueSourceIds_congr hnodup
  rcases validateUniqueSourceIds_cases (sortInputs banks erp gateways) with
    ⟨hids, -⟩ | ⟨source, -, herror⟩
  · unfold ReconciliationEngine.reconcile
    rw [sortInputs_perm (fun source => ?_) hb he hg]
    exact (ids_sortInputs_perm banks erp gateways source).nodup_iff.mp (hids source)
  · rw [self.reconcile_error herror, self.reconcile_error (hsame ▸ herror)]

/-- A payment of 40 EUR on its way out. -/
def withdrawal : BankTransaction where
  sourceRecordId := "B-2"
  transactionId := "T-2"
  bookingDate := 739001
  amount := ⟨false, 40, 0⟩
  currency := "EUR"
  creditDebitIndicator := .debit
  status := .booked
  description := "Office rent"
  sourceRecordId_text := .refl true
  currency_valid := .refl true

theorem reconcile_perm_swap :
    (⟨.ascii, {}⟩ : ReconciliationEngine).reconcile [deposit, withdrawal] [] [] =
      (⟨.ascii, {}⟩ : ReconciliationEngine).reconcile [withdrawal, deposit] [] [] :=
  reconcile_perm _ (.swap withdrawal deposit []) .nil .nil

/-! ### An entry that may not be matched -/

theorem filter_insert {α : Type} {p : α → Bool} {x : α} (hx : p x = false) (pre post : List α) :
    (pre ++ x :: post).filter p = (pre ++ post).filter p := by
  rw [List.filter_append, List.filter_append, List.filter_cons_of_neg (by simp [hx])]

namespace ReconciliationEngine

variable (self : ReconciliationEngine) (inp : Inputs) {x : BankTransaction}
  {pre post : List BankTransaction}

/-- The inputs with other bank entries. -/
def withBanks (banks : List BankTransaction) : Inputs := { inp with banks := banks }

/-- A fresh fingerprint adds a group of one to the duplicate groups, and leaves the others in
their order. -/
theorem duplicateGroups_insert
    (hids : ((pre ++ x :: post).map (·.sourceRecordId)).Nodup)
    (hfp : ∀ bank ∈ pre ++ post, (fingerprint bank).same (fingerprint x) = false) :
    ∃ a b, duplicateGroups (withBanks inp (pre ++ post)) = a ++ b ∧
      duplicateGroups (withBanks inp (pre ++ x :: post)) =
        a ++ ⟨fingerprint x, x, []⟩ :: b := by
  have hpost : ∀ bank ∈ post, (fingerprint x).same (fingerprint bank) = false := fun bank hb =>
    (Fingerprint.same_comm _ _).trans (hfp bank (List.mem_append_right _ hb))
  obtain ⟨a, b, hgroups, hgroups'⟩ := groupOn_insert
    (fun bank hb => hfp bank (List.mem_append_left _ hb)) hpost Fingerprint.same_refl
  -- the sort key of a group is the id of its first entry
  have hkeys : ((a ++ ⟨fingerprint x, x, []⟩ :: b).map
      fun group => group.first.sourceRecordId).Nodup := by
    have hall := ((groupOn_perm Fingerprint.same fingerprint _).map
      (·.sourceRecordId)).nodup_iff.mpr hids
    rw [hgroups'] at hall
    have hfirsts := (firsts_sublist (a ++ ⟨fingerprint x, x, []⟩ :: b)).map
      BankTransaction.sourceRecordId
    rw [List.map_map] at hfirsts
    exact hall.sublist hfirsts
  obtain ⟨c, d, hsort, hsort'⟩ := sortOn_cons_split
    (fun group : Group Fingerprint BankTransaction => group.first.sourceRecordId)
    ⟨fingerprint x, x, []⟩ (a ++ b)
  refine ⟨c, d, ?_, ?_⟩
  · rw [← hsort]
    exact congrArg _ hgroups
  · rw [← hsort', ← sortOn_eq_of_perm _ hkeys List.perm_middle]
    exact congrArg _ hgroups'

/-- The first rule passes over a group of one. -/
theorem duplicateStep_singleton (s : State) :
    self.duplicateStep inp s ⟨fingerprint x, x, []⟩ = s := rfl

theorem exactStep_insert (hel : eligible x = false) :
    self.exactStep (withBanks inp (pre ++ x :: post)) =
      self.exactStep (withBanks inp (pre ++ post)) := by
  funext s invoice
  have hcandidates : self.exactCandidates (withBanks inp (pre ++ x :: post)) s invoice =
      self.exactCandidates (withBanks inp (pre ++ post)) s invoice :=
    filter_insert (by simp [hel]) pre post
  simp only [exactStep, hcandidates]

theorem settlementStep_insert (hel : eligible x = false) :
    self.settlementStep (withBanks inp (pre ++ x :: post)) =
      self.settlementStep (withBanks inp (pre ++ post)) := by
  funext s group
  have hcandidates : self.settlementCandidates (withBanks inp (pre ++ x :: post)) s group =
      self.settlementCandidates (withBanks inp (pre ++ post)) s group :=
    filter_insert (by simp [hel]) pre post
  simp only [settlementStep, hcandidates]
  rfl

theorem toleranceStep_insert (hel : eligible x = false) :
    self.toleranceStep (withBanks inp (pre ++ x :: post)) =
      self.toleranceStep (withBanks inp (pre ++ post)) := by
  funext s invoice
  have hcandidates : self.toleranceCandidates (withBanks inp (pre ++ x :: post)) s invoice =
      self.toleranceCandidates (withBanks inp (pre ++ post)) s invoice :=
    filter_insert (by simp [hel]) pre post
  simp only [toleranceStep, hcandidates]

theorem oneToManyStep_insert (hel : eligible x = false) :
    self.oneToManyStep (withBanks inp (pre ++ x :: post)) =
      self.oneToManyStep (withBanks inp (pre ++ post)) := by
  funext s invoice
  have hcandidates : self.oneToManyCandidates (withBanks inp (pre ++ x :: post)) s invoice =
      self.oneToManyCandidates (withBanks inp (pre ++ post)) s invoice :=
    filter_insert (by simp [hel]) pre post
  simp only [oneToManyStep, hcandidates]

/-- The fifth rule passes over an entry that may not be matched. -/
theorem manyToOneStep_ineligible (hel : eligible x = false) (s : State) :
    self.manyToOneStep inp s x = s := by
  unfold manyToOneStep
  rw [if_pos (.inr (by simp [hel]))]

/-- **Before each rule, both runs are in the same state.** -/
theorem afterAwaiting_insert (hel : eligible x = false)
    (hids : ((pre ++ x :: post).map (·.sourceRecordId)).Nodup)
    (hfp : ∀ bank ∈ pre ++ post, (fingerprint bank).same (fingerprint x) = false) :
    self.afterAwaiting (withBanks inp (pre ++ x :: post)) =
      self.afterAwaiting (withBanks inp (pre ++ post)) := by
  have hduplicates : self.afterDuplicates (withBanks inp (pre ++ x :: post)) =
      self.afterDuplicates (withBanks inp (pre ++ post)) := by
    obtain ⟨a, b, hgroups, hgroups'⟩ := duplicateGroups_insert inp hids hfp
    rw [afterDuplicates, afterDuplicates, hgroups, hgroups']
    exact foldl_skip (self.duplicateStep_singleton _) a b _
  have hexact : self.afterExact (withBanks inp (pre ++ x :: post)) =
      self.afterExact (withBanks inp (pre ++ post)) := by
    rw [afterExact, afterExact, self.exactStep_insert inp hel, hduplicates]
    rfl
  have hgroups : self.settlements (withBanks inp (pre ++ x :: post)) =
      self.settlements (withBanks inp (pre ++ post)) := by
    rw [settlements, settlements, hexact]
    rfl
  have hsettlements : self.afterSettlements (withBanks inp (pre ++ x :: post)) =
      self.afterSettlements (withBanks inp (pre ++ post)) := by
    rw [afterSettlements, afterSettlements, self.settlementStep_insert inp hel, hexact, hgroups]
  have htolerance : self.afterTolerance (withBanks inp (pre ++ x :: post)) =
      self.afterTolerance (withBanks inp (pre ++ post)) := by
    rw [afterTolerance, afterTolerance, self.toleranceStep_insert inp hel, hsettlements]
    rfl
  have hmanyToOne : self.afterManyToOne (withBanks inp (pre ++ x :: post)) =
      self.afterManyToOne (withBanks inp (pre ++ post)) := by
    rw [afterManyToOne, afterManyToOne, htolerance]
    exact foldl_skip (self.manyToOneStep_ineligible _ hel) pre post _
  have honeToMany : self.afterOneToMany (withBanks inp (pre ++ x :: post)) =
      self.afterOneToMany (withBanks inp (pre ++ post)) := by
    rw [afterOneToMany, afterOneToMany, self.oneToManyStep_insert inp hel, hmanyToOne]
    rfl
  rw [afterAwaiting, afterAwaiting, honeToMany, hgroups]
  rfl

/-- The results with an entry that may not be matched: those without it, and one that reports
it. -/
theorem values_insert (hel : eligible x = false)
    (hids : ∀ source, ((withBanks inp (pre ++ post)).ids source).Nodup)
    (hid : ∀ bank ∈ pre ++ post, bank.sourceRecordId ≠ x.sourceRecordId)
    (hfp : ∀ bank ∈ pre ++ post, (fingerprint bank).same (fingerprint x) = false) :
    ∃ before after,
      (self.afterUnmatched (withBanks inp (pre ++ post))).values = before ++ after ∧
      (self.afterUnmatched (withBanks inp (pre ++ x :: post))).values =
        before ++ unmatchedBankResult x :: after := by
  have hmap : ∀ i ∈ (pre ++ post).map (·.sourceRecordId), i ≠ x.sourceRecordId := fun i hi => by
    obtain ⟨bank, hb, rfl⟩ := List.mem_map.mp hi
    exact hid bank hb
  have hbanks : ((pre ++ x :: post).map (·.sourceRecordId)).Nodup := by
    rw [List.map_append, List.map_cons, List.nodup_middle, List.nodup_cons, ← List.map_append]
    exact ⟨fun h => hmap _ h rfl, hids .bank⟩
  -- the first seven rules use only entries they are given
  have hunused : x.sourceRecordId ∉
      (self.afterAwaiting (withBanks inp (pre ++ post))).usedBanks := fun h =>
    hmap _ (self.used_subset hids .bank _ h) rfl
  rw [values_afterUnmatched, values_afterUnmatched,
    self.afterAwaiting_insert inp hel hbanks hfp]
  generalize hstate : self.afterAwaiting (withBanks inp (pre ++ post)) = s at hunused
  have hx : decide (x.sourceRecordId ∉ s.usedBanks) = true := decide_eq_true hunused
  refine ⟨s.values ++ (pre.filter fun bank =>
      decide (bank.sourceRecordId ∉ s.usedBanks)).map unmatchedBankResult,
    (post.filter fun bank =>
      decide (bank.sourceRecordId ∉ s.usedBanks)).map unmatchedBankResult ++
    (inp.erp.filter fun invoice =>
      decide (invoice.invoiceId ∉ s.usedInvoices)).map unmatchedInvoiceResult, ?_, ?_⟩
  · simp only [withBanks, List.filter_append, List.map_append, List.append_assoc]
  · rw [withBanks, List.filter_append, List.filter_cons, if_pos hx]
    simp only [List.map_append, List.map_cons, List.append_assoc, List.cons_append]

end ReconciliationEngine

/-- **An entry that may not be matched adds the result that reports it, and nothing else.** -/
theorem reconcile_ineligible (self : ReconciliationEngine) {banks banks' : List BankTransaction}
    (erp : List ERPInvoice) (gateways : List GatewaySettlementEntry) {x : BankTransaction}
    (hel : eligible x = false) (hid : ∀ bank ∈ banks, bank.sourceRecordId ≠ x.sourceRecordId)
    (hfp : ∀ bank ∈ banks, (fingerprint bank).same (fingerprint x) = false)
    (hperm : banks'.Perm (x :: banks)) :
    (∃ results results' before after,
        self.reconcile banks erp gateways = .ok results ∧
        self.reconcile banks' erp gateways = .ok results' ∧
        valuesOf results = before ++ after ∧
        valuesOf results' = before ++ unmatchedBankResult x :: after) ∨
      ∃ e, self.reconcile banks erp gateways = .error e ∧
        self.reconcile banks' erp gateways = .error e := by
  rw [reconcile_perm self hperm (List.Perm.refl erp) (List.Perm.refl gateways)]
  -- the entry stands somewhere among the sorted ones
  obtain ⟨pre, post, hsort, hsort'⟩ := sortOn_cons_split
    (fun item : BankTransaction => toLex (item.bookingDate, item.sourceRecordId)) x banks
  have hmem : ∀ bank ∈ pre ++ post, bank ∈ banks := fun bank hb =>
    (mem_sortOn _).mp (hsort ▸ hb)
  have hwithout : sortInputs banks erp gateways =
      withBanks (sortInputs banks erp gateways) (pre ++ post) := by
    rw [← hsort]
    rfl
  have hwith : sortInputs (x :: banks) erp gateways =
      withBanks (sortInputs banks erp gateways) (pre ++ x :: post) := by
    rw [← hsort']
    rfl
  have hnodup : ∀ source, ((sortInputs banks erp gateways).ids source).Nodup ↔
      ((sortInputs (x :: banks) erp gateways).ids source).Nodup := by
    rintro (_ | _ | _)
    · rw [(ids_sortInputs_perm _ _ _ .bank).nodup_iff, (ids_sortInputs_perm _ _ _ .bank).nodup_iff]
      refine (and_iff_right fun h => ?_).symm.trans List.nodup_cons.symm
      obtain ⟨bank, hb, heq⟩ := List.mem_map.mp h
      exact hid bank hb heq
    · rfl
    · rfl
  have hsame := validateUniqueSourceIds_congr hnodup
  rcases validateUniqueSourceIds_cases (sortInputs banks erp gateways) with
    ⟨hids, hok⟩ | ⟨source, -, herror⟩
  · rw [hwithout] at hids
    obtain ⟨before, after, hvalues, hvalues'⟩ := self.values_insert _ hel hids
      (fun bank hb => hid bank (hmem bank hb)) fun bank hb => hfp bank (hmem bank hb)
    rw [← hwithout] at hvalues
    rw [← hwith] at hvalues'
    exact .inl ⟨_, _, before, after, self.reconcile_ok hok, self.reconcile_ok (hsame ▸ hok),
      hvalues, hvalues'⟩
  · exact .inr ⟨_, self.reconcile_error herror, self.reconcile_error (hsame ▸ herror)⟩

theorem reconcile_ineligible_withdrawal :
    (∃ results results' before after,
        (⟨.ascii, {}⟩ : ReconciliationEngine).reconcile [deposit] [] [] = .ok results ∧
        (⟨.ascii, {}⟩ : ReconciliationEngine).reconcile [deposit, withdrawal] [] [] =
          .ok results' ∧
        valuesOf results = before ++ after ∧
        valuesOf results' = before ++ unmatchedBankResult withdrawal :: after) ∨
      ∃ e, (⟨.ascii, {}⟩ : ReconciliationEngine).reconcile [deposit] [] [] = .error e ∧
        (⟨.ascii, {}⟩ : ReconciliationEngine).reconcile [deposit, withdrawal] [] [] = .error e :=
  reconcile_ineligible _ [] [] (by decide) (by decide) (by decide) (.swap withdrawal deposit [])

end ReconcileFlow.Reconciliation
