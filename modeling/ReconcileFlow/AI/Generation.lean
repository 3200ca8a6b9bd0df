import ReconcileFlow.AI.Candidates
import ReconcileFlow.Support.Folding

/-!
# AI — Generation

What the generator yields: no two candidates of the same records, each of two records in scope that
are of different source types.
-/

namespace ReconcileFlow.AI

open Support
open Persistence (UUID CandidateRecordSet)

/-- The candidate is of two of the records, of different source types. -/
def IsPairOf (records : List CandidateSourceRecord) (candidate : GeneratedCandidate) : Prop :=
  ∃ left ∈ records, ∃ right ∈ records, ∃ h : left.sourceType ≠ right.sourceType,
    candidate.records = candidateSet left right h

/-- Candidates of pairs of the records, no two of the same. -/
structure Distinguished (records : List CandidateSourceRecord)
    (candidates : List GeneratedCandidate) : Prop where
  pairs : ∀ candidate ∈ candidates, IsPairOf records candidate
  distinct : (candidates.map fun candidate => identity candidate.records).Nodup

/-- What the loop has generated, it has seen. -/
structure Generates (records : List CandidateSourceRecord) (generation : Generation) : Prop where
  distinguished : Distinguished records generation.generated
  seen : ∀ candidate ∈ generation.generated, identity candidate.records ∈ generation.seen

theorem Generates.start (records : List CandidateSourceRecord) : Generates records {} :=
  ⟨⟨fun _ hm => absurd hm List.not_mem_nil, List.nodup_nil⟩,
    fun _ hm => absurd hm List.not_mem_nil⟩

namespace ReconciliationCandidateGenerator

variable {self : ReconciliationCandidateGenerator} {organizationId runId : UUID}
  {records : List CandidateSourceRecord}

/-- What one pair of the loop comes to: nothing, or one more candidate. -/
theorem compare_cases {generation generation' : Generation}
    {pair : CandidateSourceRecord × CandidateSourceRecord}
    (h : self.compare organizationId runId generation pair = .ok generation') :
    generation' = generation ∨ ∃ htypes : pair.1.sourceType ≠ pair.2.sourceType, ∃ features,
      identity (candidateSet pair.1 pair.2 htypes) ∉ generation.seen ∧
      self.features organizationId runId pair.1 pair.2
        (identity (candidateSet pair.1 pair.2 htypes)) = .ok features ∧
      generation' = ⟨identity (candidateSet pair.1 pair.2 htypes) :: generation.seen,
        generation.generated ++ [⟨candidateSet pair.1 pair.2 htypes, features⟩]⟩ := by
  unfold compare at h
  dsimp only at h
  split at h
  · exact .inl (Except.ok.inj h).symm
  · next htypes =>
    split at h
    · exact .inl (Except.ok.inj h).symm
    · split at h
      · exact .inl (Except.ok.inj h).symm
      · split at h
        · exact .inl (Except.ok.inj h).symm
        · next hunseen =>
          obtain ⟨features, hfeatures, hgenerated⟩ := bind_ok.mp h
          exact .inr ⟨htypes, features, hunseen, hfeatures, (Except.ok.inj hgenerated).symm⟩

/-- One pair of the loop. -/
theorem generates_compare {generation generation' : Generation}
    {pair : CandidateSourceRecord × CandidateSourceRecord} (hleft : pair.1 ∈ records)
    (hright : pair.2 ∈ records) (h : Generates records generation)
    (hcompare : self.compare organizationId runId generation pair = .ok generation') :
    Generates records generation' := by
  obtain rfl | ⟨htypes, features, hunseen, -, rfl⟩ := compare_cases hcompare
  · exact h
  · refine ⟨⟨fun candidate hm => ?_, ?_⟩, fun candidate hm => ?_⟩
    · rcases List.mem_append.mp hm with hm | hm
      · exact h.distinguished.pairs candidate hm
      · obtain rfl := List.mem_singleton.mp hm
        exact ⟨pair.1, hleft, pair.2, hright, htypes, rfl⟩
    · rw [List.map_append, List.nodup_append]
      refine ⟨h.distinguished.distinct, List.nodup_singleton _, fun i hi j hj => ?_⟩
      obtain ⟨candidate, hm, rfl⟩ := List.mem_map.mp hi
      obtain rfl := List.mem_singleton.mp hj
      intro he
      dsimp only at he
      exact hunseen (he ▸ h.seen candidate hm)
    · rcases List.mem_append.mp hm with hm | hm
      · exact List.mem_cons_of_mem _ (h.seen candidate hm)
      · obtain rfl := List.mem_singleton.mp hm
        exact List.mem_cons_self

/-- **The generator's candidates are of different pairs of records in scope.** -/
theorem distinguished_generate {excludedRecordIds : List String}
    {candidates : List GeneratedCandidate}
    (h : self.generate organizationId runId records excludedRecordIds = .ok candidates) :
    Distinguished (records.filter (isScoped organizationId runId excludedRecordIds)) candidates := by
  obtain ⟨generation, hloop, htaken⟩ := bind_ok.mp h
  obtain rfl := Except.ok.inj htaken
  have hgenerates := foldlM_invariant
    (Generates (records.filter (isScoped organizationId runId excludedRecordIds)))
    (fun generation pair generation' hpair hgeneration hcompare =>
      have hmem := mem_of_mem_combinations hpair
      generates_compare hmem.1 hmem.2 hgeneration hcompare)
    (Generates.start _) hloop
  have hsublist := List.take_sublist self.maximumCandidates (sortOn rank generation.generated)
  refine ⟨fun candidate hm => ?_, ?_⟩
  · exact hgenerates.distinguished.pairs candidate
      ((mem_sortOn rank).mp (hsublist.subset hm))
  · exact ((sortOn_perm rank generation.generated).map _ |>.nodup_iff.mpr
      hgenerates.distinguished.distinct).sublist (hsublist.map _)

end ReconciliationCandidateGenerator

/-! ### Fingerprints -/

/-- The ids that a pair names are in order. -/
theorem sortOn_idsOf {left right : CandidateSourceRecord} (h : left.sourceType ≠ right.sourceType)
    (sourceType : CandidateSourceType) :
    sortOn id (idsOf sourceType left right) = idsOf sourceType left right := by
  rw [idsOf_eq h]
  split
  · rfl
  · split <;> rfl

/-- Different candidates have different fingerprints. -/
theorem identity_of_fingerprint {records : List CandidateSourceRecord}
    {candidate other : GeneratedCandidate} (h : IsPairOf records candidate)
    (hother : IsPairOf records other)
    (he : candidate.records.fingerprint = other.records.fingerprint) :
    identity candidate.records = identity other.records := by
  obtain ⟨left, -, right, -, htypes, hrecords⟩ := h
  obtain ⟨left', -, right', -, htypes', hrecords'⟩ := hother
  rw [hrecords, hrecords'] at he ⊢
  simp only [CandidateRecordSet.fingerprint, candidateSet, sortOn_idsOf htypes,
    sortOn_idsOf htypes', Persistence.CandidateFingerprint.mk.injEq] at he
  simp only [identity, candidateSet, CandidateIdentity.mk.injEq]
  exact he

end ReconcileFlow.AI
