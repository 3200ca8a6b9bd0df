import ReconcileFlow.Reconciliation.Outcome
import ReconcileFlow.Support.Allotment

/-!
# Reconciliation — Accounts

Every record is accounted for once.  An emission lists records of the inputs that no result lists
yet, none of them twice (`Emission.fresh`).  So, after each rule, the ids of the results are an
allotment of the input's ids, and the used ids are the allotted ones (`Accounted`).  The seventh
rule leaves no gateway entry, and the eighth gives every bank entry and invoice that is left a
result of its own: at the end the allotment is whole (`reconcile_accounts`).
-/

namespace ReconcileFlow.Reconciliation

open Support

namespace ReconciliationEngine

variable {self : ReconciliationEngine} {inp : Inputs} {s : State} {v : ResultValues}

/-! ### One emission -/

/-- The ids are distinct ids of records of the source, none of them used. -/
def Fresh (inp : Inputs) (s : State) (source : Source) (ids : List String) : Prop :=
  ids.Nodup ∧ ∀ i ∈ ids, i ∈ inp.ids source ∧ i ∉ s.used source

theorem fresh_nil (source : Source) : Fresh inp s source [] :=
  ⟨List.nodup_nil, fun _ h => absurd h List.not_mem_nil⟩

theorem fresh_map {α : Type} {source : Source} {records chosen : List α} {idOf : α → String}
    (hpool : inp.ids source = records.map idOf) (hnodup : (chosen.map idOf).Nodup)
    (hmem : ∀ x ∈ chosen, x ∈ records) (hnew : ∀ x ∈ chosen, idOf x ∉ s.used source) :
    Fresh inp s source (chosen.map idOf) := by
  refine ⟨hnodup, fun i hi => ?_⟩
  obtain ⟨x, hx, rfl⟩ := List.mem_map.mp hi
  exact ⟨hpool ▸ List.mem_map_of_mem (hmem x hx), hnew x hx⟩

theorem fresh_sublist {α : Type} {source : Source} {records chosen : List α} {idOf : α → String}
    (hids : (inp.ids source).Nodup) (hpool : inp.ids source = records.map idOf)
    (hsub : chosen.Sublist records) (hnew : ∀ x ∈ chosen, idOf x ∉ s.used source) :
    Fresh inp s source (chosen.map idOf) :=
  fresh_map hpool ((hpool ▸ hids).sublist (hsub.map _)) (fun _ hx => hsub.subset hx) hnew

theorem fresh_singleton {α : Type} {source : Source} {records : List α} {idOf : α → String}
    (hpool : inp.ids source = records.map idOf) {x : α} (hx : x ∈ records)
    (hnew : idOf x ∉ s.used source) : Fresh inp s source [idOf x] := by
  have hone : ∀ y ∈ [x], y = x := fun y hy => List.mem_singleton.mp hy
  change Fresh inp s source ([x].map idOf)
  refine fresh_map hpool (List.nodup_singleton (idOf x)) ?_ ?_
  · exact fun y hy => hone y hy ▸ hx
  · exact fun y hy => hone y hy ▸ hnew

/-- **An emission lists, of each source, distinct records that no result lists yet.** -/
theorem Emission.fresh (hids : ∀ source, (inp.ids source).Nodup) (h : self.Emission inp s v) :
    ∀ source, Fresh inp s source (v.ids source) := by
  cases h with
  | @duplicate group hg hlen hnew =>
      rintro (_ | _ | _)
      · exact fresh_map rfl (nodup_ids_of_group (hids .bank) hg) (mem_banks_of_group hg) hnew
      · exact fresh_sublist (hids .erp) rfl List.filter_sublist fun _ hx =>
          (mem_duplicateLinks.mp hx).2.1
      · exact fresh_nil _
  | @exact invoice bank hi hnew hb =>
      obtain ⟨hbank, hunused, -⟩ := mem_exactCandidates.mp hb
      rintro (_ | _ | _)
      · exact fresh_singleton rfl hbank hunused
      · exact fresh_singleton rfl hi hnew
      · exact fresh_nil _
  | @settlement group bank hg hnew hb =>
      obtain ⟨hbank, hunused, -⟩ := mem_settlementCandidates.mp hb
      rintro (_ | _ | _)
      · exact fresh_singleton rfl hbank hunused
      · exact fresh_sublist (hids .erp) rfl List.filter_sublist fun _ hx =>
          (mem_settlementLinks.mp hx).2.1
      · exact fresh_map rfl (nodup_ids_of_settlement (hids .gateway) hg)
          (mem_gateways_of_settlement hg) hnew
  | @tolerance invoice bank hi hnew hb =>
      obtain ⟨hbank, hunused, -⟩ := mem_toleranceCandidates.mp hb
      rintro (_ | _ | _)
      · exact fresh_singleton rfl hbank hunused
      · exact fresh_singleton rfl hi hnew
      · exact fresh_nil _
  | @manyToOne bank chosen hb hnew hel hc hne =>
      obtain ⟨hsub, -⟩ := matchingGroup_spec hc hne
      rintro (_ | _ | _)
      · exact fresh_singleton rfl hb hnew
      · exact fresh_sublist (hids .erp) rfl (hsub.trans List.filter_sublist) fun _ hx =>
          (mem_manyToOneCandidates.mp (hsub.subset hx)).2.1
      · exact fresh_nil _
  | @oneToMany invoice chosen hi hnew hc hne =>
      obtain ⟨hsub, -⟩ := matchingGroup_spec hc hne
      rintro (_ | _ | _)
      · exact fresh_sublist (hids .bank) rfl (hsub.trans List.filter_sublist) fun _ hx =>
          (mem_oneToManyCandidates.mp (hsub.subset hx)).2.1
      · exact fresh_singleton rfl hi hnew
      · exact fresh_nil _
  -- entries of the group may have been used by the third rule
  | @awaiting group first rest hg hr =>
      have hremaining : ∀ {entry}, entry ∈ first :: rest →
          entry ∈ group.members ∧ entry.sourceRecordId ∉ s.usedGateways := fun he =>
        mem_remainingOf.mp (hr ▸ he)
      have hsub : (first :: rest).Sublist group.members := hr ▸ List.filter_sublist
      rintro (_ | _ | _)
      · exact fresh_nil _
      · exact fresh_sublist (hids .erp) rfl List.filter_sublist fun _ hx =>
          (mem_awaitingLinks.mp hx).2.1
      · exact fresh_map rfl
          ((nodup_ids_of_settlement (hids .gateway) hg).sublist (hsub.map _))
          (fun _ he => mem_gateways_of_settlement hg _ (hremaining he).1)
          (fun _ he => (hremaining he).2)

/-! ### Every run -/

/-- The results list distinct records of the inputs, and the used ids are the listed ones. -/
structure Accounted (inp : Inputs) (s : State) : Prop where
  used : ∀ source, s.used source = (s.values.map (·.ids source)).flatten
  allotted : ∀ source, Allotted (inp.ids source) (s.values.map (·.ids source))

theorem accounted_init : Accounted inp {} :=
  ⟨fun source => by cases source <;> rfl, fun _ => Allotted.nil⟩

theorem Accounted.take (hids : ∀ source, (inp.ids source).Nodup) (h : Accounted inp s)
    (he : self.Emission inp s v) : Accounted inp (s.take v) where
  used source := by simp [h.used source]
  allotted source := by
    obtain ⟨hnodup, hnew⟩ := he.fresh hids source
    rw [State.values_take, List.map_append, List.map_singleton]
    refine (h.allotted source).snoc hnodup (fun i hi => ?_) fun i hi => (hnew i hi).1
    rw [← h.used source]
    exact (hnew i hi).2

theorem accounted_afterAwaiting (self : ReconciliationEngine)
    (hids : ∀ source, (inp.ids source).Nodup) :
    Accounted inp (self.afterAwaiting inp) := by
  have hstep : ∀ s v, self.Emission inp s v → Accounted inp s → Accounted inp (s.take v) :=
    fun _ _ he h => h.take hids he
  have hstart := afterDuplicates_invariant (Accounted inp) (hids .bank) accounted_init
    fun s _ hg hlen hnew => hstep s _ (.duplicate hg hlen hnew)
  exact afterAwaiting_invariant (Accounted inp) (hids .gateway) hstart hstep

/-- The first seven rules use only records they are given. -/
theorem used_subset (self : ReconciliationEngine) (hids : ∀ source, (inp.ids source).Nodup)
    (source : Source) :
    ∀ i ∈ (self.afterAwaiting inp).used source, i ∈ inp.ids source := by
  obtain ⟨hused, hallotted⟩ := self.accounted_afterAwaiting hids
  intro i hi
  rw [hused source] at hi
  exact (hallotted source).subset i hi

/-- The first two rules use no gateway entry. -/
theorem usedGateways_afterExact : (self.afterExact inp).usedGateways = [] := by
  have hduplicates : (self.afterDuplicates inp).usedGateways = [] := by
    refine (loop_invariant (fun s : State => s.usedGateways = []) rfl ?_).1
    intro w _ hw
    unfold duplicateStep
    split <;> exact hw
  refine (loop_invariant (fun s : State => s.usedGateways = []) hduplicates ?_).1
  intro w _ hw
  unfold exactStep
  split
  · exact hw
  · split <;> exact hw

/-- A step of the seventh rule uses all entries of its group, and forgets none. -/
theorem usedGateways_awaitingStep (s : State) (group : Group String GatewaySettlementEntry) :
    (∀ entry ∈ group.members,
        entry.sourceRecordId ∈ (self.awaitingStep inp s group).usedGateways) ∧
      ∀ i ∈ s.usedGateways, i ∈ (self.awaitingStep inp s group).usedGateways := by
  have hsplit : ∀ entry ∈ group.members, entry.sourceRecordId ∈ s.usedGateways ∨
      entry ∈ remainingOf s group := fun entry he => by
    by_cases hu : entry.sourceRecordId ∈ s.usedGateways
    · exact .inl hu
    · exact .inr (mem_remainingOf.mpr ⟨he, hu⟩)
  unfold awaitingStep
  cases hr : remainingOf s group with
  | nil =>
      refine ⟨fun entry he => ?_, fun _ h => h⟩
      rcases hsplit entry he with hu | hmem
      · exact hu
      · exact absurd (hr ▸ hmem) List.not_mem_nil
  | cons first rest =>
      refine ⟨fun entry he => List.mem_append.mpr ?_, fun _ h => List.mem_append_left _ h⟩
      rcases hsplit entry he with hu | hmem
      · exact .inl hu
      · exact .inr (List.mem_map_of_mem (hr ▸ hmem))

/-- The seventh rule leaves no gateway entry. -/
theorem usedGateways_afterAwaiting :
    ∀ i ∈ inp.ids .gateway, i ∈ (self.afterAwaiting inp).usedGateways := by
  intro i hi
  obtain ⟨entry, he, rfl⟩ := List.mem_map.mp hi
  have hall : entry ∈ (self.settlements inp).flatMap Group.members := by
    refine (settlementGroups_perm inp _).mem_iff.mpr (List.mem_filter.mpr ⟨he, ?_⟩)
    rw [usedGateways_afterExact]
    exact decide_eq_true List.not_mem_nil
  obtain ⟨group, hg, hmem⟩ := List.mem_flatMap.mp hall
  refine foldl_achieves (fun group (s : State) => ∀ entry ∈ group.members,
    entry.sourceRecordId ∈ s.usedGateways) ?_ ?_ _ _ group hg entry hmem
  · exact fun s group => (usedGateways_awaitingStep s group).1
  · exact fun s _ group' h entry he => (usedGateways_awaitingStep s group').2 _ (h entry he)

/-- A result of its own for every record of the source that is left completes the allotment. -/
theorem complete_unused {α : Type} {source : Source} (records : List α) {idOf : α → String}
    {used : List String} {batches : List (List String)} (hids : (inp.ids source).Nodup)
    (hpool : inp.ids source = records.map idOf) (h : Allotted (inp.ids source) batches)
    (hused : ∀ i, i ∈ used ↔ i ∈ batches.flatten) :
    Whole (inp.ids source)
      (batches ++ (records.filter fun x => decide (idOf x ∉ used)).map fun x => [idOf x]) := by
  have hleft : ∀ i, i ∈ (records.filter fun x => decide (idOf x ∉ used)).map idOf ↔
      i ∈ inp.ids source ∧ i ∉ batches.flatten := by
    intro i
    simp only [hpool, List.mem_map, List.mem_filter, decide_eq_true_eq, ← hused]
    constructor
    · rintro ⟨x, ⟨hx, hu⟩, rfl⟩
      exact ⟨⟨x, hx, rfl⟩, hu⟩
    · rintro ⟨⟨x, hx, rfl⟩, hu⟩
      exact ⟨x, ⟨hx, hu⟩, rfl⟩
  have hnodup : ((records.filter fun x => decide (idOf x ∉ used)).map idOf).Nodup :=
    (hpool ▸ hids).sublist (List.filter_sublist.map _)
  simpa only [List.map_map, Function.comp_def] using h.complete hnodup hleft

/-- **At the end the allotment of each source is whole.** -/
theorem whole_afterUnmatched (self : ReconciliationEngine)
    (hids : ∀ source, (inp.ids source).Nodup) (source : Source) :
    Whole (inp.ids source) ((self.afterUnmatched inp).values.map (·.ids source)) := by
  obtain ⟨hused, hallotted⟩ := self.accounted_afterAwaiting hids
  have hbatches : ∀ i, i ∈ (self.afterAwaiting inp).used source ↔
      i ∈ ((self.afterAwaiting inp).values.map (·.ids source)).flatten := fun i => by
    rw [hused source]
  rw [values_afterUnmatched, List.map_append, List.map_append, List.map_map, List.map_map]
  cases source with
  | bank =>
      exact (complete_unused inp.banks (hids .bank) rfl (hallotted .bank) hbatches).append_empty _
  | erp =>
      refine complete_unused inp.erp (hids .erp) rfl ((hallotted .erp).append_empty _) ?_
      exact fun i => (hbatches i).trans (congrArg (i ∈ ·) (flatten_append_empty _ _).symm).to_iff
  | gateway =>
      have hwhole : Whole (inp.ids .gateway)
          ((self.afterAwaiting inp).values.map (·.ids .gateway)) :=
        ⟨hallotted .gateway, fun i hi => (hbatches i).mp (usedGateways_afterAwaiting i hi)⟩
      exact (hwhole.append_empty _).append_empty _

end ReconciliationEngine

/-- What the results say about the records with the given ids. -/
structure Accounts (ids : Source → List String) (results : List ReconciliationResult) : Prop where
  /-- Each id is in exactly one result, once in it, and no other id is in any. -/
  exactlyOnce : ∀ source, ExactlyOnce (ids source) (results.map (·.ids source))
  /-- The `n`-th result has the id formed from `n`. -/
  numbered : ∀ (n : Nat) (h : n < results.length), results[n].resultId = formatResultId (n + 1)
  resultIds_nodup : (results.map (·.resultId)).Nodup

/-- **Every record is in exactly one result.**  If the ids of each source are distinct, each is in
exactly one result and once in it, the results hold no other id, and the `n`-th has the id formed
from `n`; otherwise `reconcile` raises a `ValueError`. -/
theorem reconcile_accounts (self : ReconciliationEngine) (banks : List BankTransaction)
    (erp : List ERPInvoice) (gateways : List GatewaySettlementEntry) :
    ((∀ source, (recordIds banks erp gateways source).Nodup) ∧
        ∃ results, self.reconcile banks erp gateways = .ok results ∧
          Accounts (recordIds banks erp gateways) results) ∨
      (¬ (∀ source, (recordIds banks erp gateways source).Nodup) ∧
        ∃ e, self.reconcile banks erp gateways = .error e) := by
  rcases self.reconcile_cases banks erp gateways with ⟨hids, hok⟩ | ⟨source, hrepeated, herror⟩
  · refine .inl ⟨hids, _, hok, fun source => ?_, State.resultId_getElem _, State.nodup_resultIds _⟩
    have hperm := ids_sortInputs_perm banks erp gateways
    have hsorted := fun source => (hperm source).nodup_iff.mpr (hids source)
    have hwhole := self.whole_afterUnmatched hsorted source
    rw [State.values, valuesOf, List.map_map] at hwhole
    exact hwhole.exactlyOnce.of_perm (hperm source)
  · exact .inr ⟨fun h => hrepeated (h source), _, herror⟩

end ReconcileFlow.Reconciliation
