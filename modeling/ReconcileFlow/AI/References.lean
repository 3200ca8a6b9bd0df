import ReconcileFlow.AI.Generation
import ReconcileFlow.Texts

/-!
# AI — References

Whether the references tell the candidates apart.  A reference digests the ids of a pair one after
another, without the source types that they are of; so two candidates get the same one if and only
if their ids are the same text that way (`references_distinct_iff`), which does not need them to be
the same records (`shared_reference`).
-/

namespace ReconcileFlow.AI

open Support
open Persistence (UUID CandidateRecordSet)

abbrev RecordPair := CandidateSourceRecord × CandidateSourceRecord

/-! ### What is digested -/

namespace CandidateIdentity

def ids (identity : CandidateIdentity) : List String :=
  identity.bankRecordIds ++ identity.erpInvoiceIds ++ identity.gatewayRecordIds

/-- The ids, one after another. -/
def joined (identity : CandidateIdentity) : String := "\x1f".intercalate identity.ids

/-- What the reference of a candidate digests. -/
def material (organizationId runId : UUID) (identity : CandidateIdentity) : String :=
  "\x1f".intercalate ([organizationId.format, runId.format] ++ identity.ids)

theorem material_inj {organizationId runId : UUID} {i j : CandidateIdentity} (hi : i.ids ≠ [])
    (hj : j.ids ≠ []) :
    i.material organizationId runId = j.material organizationId runId ↔ i.joined = j.joined := by
  have hmaterial {k : CandidateIdentity} (hk : k.ids ≠ []) :
      (k.material organizationId runId).toList = organizationId.format.toList ++ '\x1f' ::
        (runId.format.toList ++ '\x1f' :: k.joined.toList) := by
    obtain ⟨first, rest, hids⟩ := List.exists_cons_of_ne_nil hk
    simp [material, joined, hids, String.toList_intercalate]
  rw [← String.toList_inj, ← @String.toList_inj i.joined, hmaterial hi, hmaterial hj]
  simp

/-- Ids without the separator are told apart by what is digested. -/
theorem joined_inj {i j : CandidateIdentity} (hi : i.ids ≠ []) (hj : j.ids ≠ [])
    (hfree : ∀ value ∈ i.ids ++ j.ids, '\x1f' ∉ value.toList) :
    i.joined = j.joined ↔ i.ids = j.ids := by
  have hsplit {k : CandidateIdentity} (hk : k.ids ≠ [])
      (hfree : ∀ value ∈ k.ids, '\x1f' ∉ value.toList) :
      k.joined.toList.splitOn '\x1f' = k.ids.map String.toList := by
    rw [joined, String.toList_intercalate]
    refine List.splitOn_intercalate '\x1f' (fun value hvalue => ?_) (by simpa using hk)
    obtain ⟨text, htext, rfl⟩ := List.mem_map.mp hvalue
    exact hfree text htext
  constructor
  · intro h
    have hids : i.joined.toList.splitOn '\x1f' = j.joined.toList.splitOn '\x1f' := by rw [h]
    rw [hsplit hi fun value hm => hfree value (List.mem_append_left _ hm),
      hsplit hj fun value hm => hfree value (List.mem_append_right _ hm)] at hids
    exact (List.map_injective_iff.mpr fun _ _ => String.toList_inj.mp) hids
  · intro h
    rw [joined, joined, h]

end CandidateIdentity

def pairIdentity (pair : RecordPair) : CandidateIdentity :=
  ⟨idsOf .bank pair.1 pair.2, idsOf .erp pair.1 pair.2, idsOf .gateway pair.1 pair.2⟩

theorem pairIdentity_ids_ne_nil {pair : RecordPair} (h : pair.1.sourceType ≠ pair.2.sourceType) :
    (pairIdentity pair).ids ≠ [] :=
  (candidateSet pair.1 pair.2 h).valid.1

/-- The digests of these pairs do not collide, and are written without spaces. -/
structure Digests (comparison : Comparison) (organizationId runId : UUID)
    (pairs : List RecordPair) : Prop where
  collisionFree : ∀ pair ∈ pairs, ∀ other ∈ pairs,
    comparison.sha256 ((pairIdentity pair).material organizationId runId) =
      comparison.sha256 ((pairIdentity other).material organizationId runId) →
    (pairIdentity pair).material organizationId runId =
      (pairIdentity other).material organizationId runId
  spaceless : ∀ pair ∈ pairs,
    ∀ c ∈ (comparison.sha256 ((pairIdentity pair).material organizationId runId)).toList,
      isSpace c = false

/-! ### Which pairs are submitted -/

namespace ReconciliationCandidateGenerator

variable (self : ReconciliationCandidateGenerator) (organizationId runId : UUID)

/-- The pair is of two source types, and close enough. -/
def isAdmissible (pair : RecordPair) : Bool :=
  decide (pair.1.sourceType ≠ pair.2.sourceType) &&
    decide ((pair.1.effectiveDate - pair.2.effectiveDate).natAbs ≤ self.maximumDateDifferenceDays) &&
    !self.maximumAmountDifferenceRatio.lt
      (self.comparison.amountDifferenceRatio pair.1.amount pair.2.amount)

/-- What is computed of a pair. -/
def featuresOf (pair : RecordPair) : NormalizedMatchFeatures where
  candidateReference :=
    self.comparison.opaqueReference organizationId runId (pairIdentity pair)
  amountSimilarity := self.comparison.float (Decimal.Context.sub ⟨some self.comparison.precision⟩
    (.ofInt 1) (self.comparison.amountDifferenceRatio pair.1.amount pair.2.amount))
  dateSimilarity :=
    if self.maximumDateDifferenceDays = 0 then .ofInt 1
    else self.comparison.nearness (pair.1.effectiveDate - pair.2.effectiveDate).natAbs
      self.maximumDateDifferenceDays
  referenceSimilarity :=
    self.comparison.referenceSimilarity pair.1.references pair.2.references
  currencyMatches := decide (pair.1.currency = pair.2.currency)

/-- The first pair of each identity that has not been seen. -/
def firsts : List CandidateIdentity → List RecordPair → List RecordPair
  | _, [] => []
  | seen, pair :: pairs =>
    if pairIdentity pair ∈ seen then firsts seen pairs
    else pair :: firsts (pairIdentity pair :: seen) pairs

/-- The key of `rank`. -/
def rankOf (features : NormalizedMatchFeatures) : ℚ ×ₗ ℚ ×ₗ ℚ ×ₗ String :=
  toLex (-features.amountSimilarity.toRat, toLex (-features.dateSimilarity.toRat,
    toLex (-features.referenceSimilarity.toRat, features.candidateReference)))

/-- The pairs of records in scope that are admissible. -/
def admissiblePairs (records : List CandidateSourceRecord) (excludedRecordIds : List String) :
    List RecordPair :=
  (combinations (records.filter (isScoped organizationId runId excludedRecordIds))).filter
    self.isAdmissible

/-- The best of the admissible pairs, as many as are submitted. -/
def submittedPairs (records : List CandidateSourceRecord) (excludedRecordIds : List String) :
    List RecordPair :=
  (sortOn (fun pair => rankOf (self.featuresOf organizationId runId pair))
    (firsts [] (self.admissiblePairs organizationId runId records excludedRecordIds))).take
      self.maximumCandidates

end ReconciliationCandidateGenerator

/-- What a candidate is told by. -/
def summary (candidate : GeneratedCandidate) : CandidateIdentity × NormalizedMatchFeatures :=
  (identity candidate.records, candidate.features)

/-- Candidates of different records have different references. -/
def ReferencesDiffer (candidates : List GeneratedCandidate) : Prop :=
  ∀ candidate ∈ candidates, ∀ other ∈ candidates,
    identity candidate.records ≠ identity other.records →
      candidate.features.candidateReference ≠ other.features.candidateReference

/-- Pairs of which the ids are the same, one after another, are of the same records. -/
def Unambiguous (pairs : List RecordPair) : Prop :=
  ∀ pair ∈ pairs, ∀ other ∈ pairs,
    (pairIdentity pair).joined = (pairIdentity other).joined → pairIdentity pair = pairIdentity other

instance (pairs : List RecordPair) : Decidable (Unambiguous pairs) :=
  inferInstanceAs (Decidable (∀ _ ∈ _, ∀ _ ∈ _, _ → _))

namespace ReconciliationCandidateGenerator

variable {self : ReconciliationCandidateGenerator} {organizationId runId : UUID}
  {records : List CandidateSourceRecord} {excludedRecordIds : List String}

theorem mem_firsts {seen : List CandidateIdentity} {pairs : List RecordPair} {pair : RecordPair}
    (h : pair ∈ firsts seen pairs) : pair ∈ pairs := by
  induction pairs generalizing seen with
  | nil => exact h
  | cons first pairs ih =>
    unfold firsts at h
    split at h
    · exact List.mem_cons_of_mem _ (ih h)
    · rcases List.mem_cons.mp h with rfl | h
      · exact List.mem_cons_self
      · exact List.mem_cons_of_mem _ (ih h)

theorem length_firsts_le (seen : List CandidateIdentity) (pairs : List RecordPair) :
    (firsts seen pairs).length ≤ pairs.length := by
  induction pairs generalizing seen with
  | nil => exact le_refl _
  | cons pair pairs ih =>
    unfold firsts
    split
    · exact (ih seen).trans (Nat.le_succ _)
    · exact Nat.succ_le_succ (ih _)

theorem mem_submittedPairs {pair : RecordPair}
    (h : pair ∈ self.submittedPairs organizationId runId records excludedRecordIds) :
    pair ∈ self.admissiblePairs organizationId runId records excludedRecordIds :=
  mem_firsts ((mem_sortOn _).mp (List.mem_of_mem_take h))

theorem types_of_isAdmissible {pair : RecordPair} (h : self.isAdmissible pair = true) :
    pair.1.sourceType ≠ pair.2.sourceType := by
  simp only [isAdmissible, Bool.and_eq_true, decide_eq_true_eq] at h
  exact h.1.1

theorem ids_ne_nil {pair : RecordPair}
    (h : pair ∈ self.admissiblePairs organizationId runId records excludedRecordIds) :
    (pairIdentity pair).ids ≠ [] :=
  pairIdentity_ids_ne_nil (types_of_isAdmissible (List.mem_filter.mp h).2)

/-- One pair of the loop: it is passed over, or becomes a candidate. -/
theorem compare_ok {generation generation' : Generation} {pair : RecordPair}
    (h : self.compare organizationId runId generation pair = .ok generation') :
    (self.isAdmissible pair = false ∨ pairIdentity pair ∈ generation.seen) ∧
        generation' = generation ∨
      self.isAdmissible pair = true ∧ pairIdentity pair ∉ generation.seen ∧
        ∃ candidate, identity candidate.records = pairIdentity pair ∧
          (self.featuresOf organizationId runId pair).normalized = .ok candidate.features ∧
          generation' = ⟨pairIdentity pair :: generation.seen, generation.generated ++ [candidate]⟩ := by
  unfold compare at h
  dsimp only at h
  split at h
  · next htypes => exact .inl ⟨.inl (by simp [isAdmissible, htypes]), (Except.ok.inj h).symm⟩
  · next htypes =>
    split at h
    · next hdate =>
      exact .inl ⟨.inl (by simp [isAdmissible, hdate]), (Except.ok.inj h).symm⟩
    · next hdate =>
      split at h
      · next hamount =>
        exact .inl ⟨.inl (by simp [isAdmissible, hamount]), (Except.ok.inj h).symm⟩
      · next hamount =>
        split at h
        · next hseen => exact .inl ⟨.inr hseen, (Except.ok.inj h).symm⟩
        · next hunseen =>
          obtain ⟨features, hfeatures, hgenerated⟩ := bind_ok.mp h
          refine .inr ⟨?_, hunseen, ⟨candidateSet pair.1 pair.2 htypes, features⟩, rfl, hfeatures,
            (Except.ok.inj hgenerated).symm⟩
          simpa [isAdmissible, htypes, hamount] using hdate

/-- The reference of a pair is normalized already. -/
theorem normalized_features {pair : RecordPair} {features : NormalizedMatchFeatures}
    (hspaceless : ∀ c ∈ (self.comparison.sha256
      ((pairIdentity pair).material organizationId runId)).toList, isSpace c = false)
    (h : (self.featuresOf organizationId runId pair).normalized = .ok features) :
    features = self.featuresOf organizationId runId pair := by
  have hstrip : strip (self.featuresOf organizationId runId pair).candidateReference =
      (self.featuresOf organizationId runId pair).candidateReference := by
    refine strip_of_forall fun c hc => ?_
    have hc : c ∈ ("candidate-" ++ self.comparison.sha256
      ((pairIdentity pair).material organizationId runId)).toList := hc
    rw [String.toList_append] at hc
    rcases List.mem_append.mp hc with hc | hc
    · have hplain : ("candidate-".toList.any isSpace) = false := by decide
      exact Bool.eq_false_iff.mpr (List.any_eq_false.mp hplain c hc)
    · exact hspaceless c hc
  unfold NormalizedMatchFeatures.normalized at h
  rw [hstrip] at h
  simp only [bind_ok] at h
  obtain ⟨-, -, -, -, -, -, -, -, h⟩ := h
  exact (Except.ok.inj h).symm

/-- What the loop has generated, pair by pair. -/
theorem summary_foldlM {pairs : List RecordPair} {generation generation' : Generation}
    (hspaceless : ∀ pair ∈ pairs.filter self.isAdmissible, ∀ c ∈ (self.comparison.sha256
      ((pairIdentity pair).material organizationId runId)).toList, isSpace c = false)
    (h : pairs.foldlM (self.compare organizationId runId) generation = .ok generation') :
    generation'.generated.map summary = generation.generated.map summary ++
      (firsts generation.seen (pairs.filter self.isAdmissible)).map fun pair =>
        (pairIdentity pair, self.featuresOf organizationId runId pair) := by
  induction pairs generalizing generation with
  | nil =>
    obtain rfl := Except.ok.inj h
    simp [firsts]
  | cons pair pairs ih =>
    rw [List.foldlM_cons] at h
    obtain ⟨next, hcompare, hrest⟩ := bind_ok.mp h
    have hsub : pairs.filter self.isAdmissible ⊆ (pair :: pairs).filter self.isAdmissible :=
      fun later hm => List.mem_filter.mpr ⟨List.mem_cons_of_mem _ (List.mem_filter.mp hm).1,
        (List.mem_filter.mp hm).2⟩
    have hlater := @ih next (fun later hm => hspaceless later (hsub hm)) hrest
    rcases compare_ok hcompare with ⟨hskipped, rfl⟩ | ⟨hadmissible, hunseen, candidate, hidentity,
      hfeatures, rfl⟩
    · rw [hlater]
      rcases hskipped with hskipped | hseen
      · rw [List.filter_cons_of_neg (by simp [hskipped])]
      · by_cases hadmissible : self.isAdmissible pair = true
        · rw [List.filter_cons_of_pos hadmissible, firsts, if_pos hseen]
        · rw [List.filter_cons_of_neg hadmissible]
    · rw [hlater, List.filter_cons_of_pos hadmissible, firsts, if_neg hunseen, List.map_append,
        List.append_assoc]
      have hsame := normalized_features
        (hspaceless pair (List.mem_filter.mpr ⟨List.mem_cons_self, hadmissible⟩)) hfeatures
      simp [summary, hidentity, hsame]

/-- **The candidates are those of the submitted pairs**, in their order. -/
theorem summary_generate {candidates : List GeneratedCandidate}
    (hdigests : Digests self.comparison organizationId runId
      (self.admissiblePairs organizationId runId records excludedRecordIds))
    (h : self.generate organizationId runId records excludedRecordIds = .ok candidates) :
    candidates.map summary =
      (self.submittedPairs organizationId runId records excludedRecordIds).map fun pair =>
        (pairIdentity pair, self.featuresOf organizationId runId pair) := by
  obtain ⟨generation, hloop, htaken⟩ := bind_ok.mp h
  obtain rfl := Except.ok.inj htaken
  have hgenerated := summary_foldlM hdigests.spaceless hloop
  rw [List.map_nil, List.nil_append] at hgenerated
  have hrank : rank = fun candidate => rankOf (summary candidate).2 := rfl
  rw [List.map_take, submittedPairs, List.map_take, hrank,
    map_sortOn summary (fun told => rankOf told.2) generation.generated, hgenerated,
    ← map_sortOn]
  rfl

/-! ### When the references tell the candidates apart -/

theorem reference_inj {pair other : RecordPair}
    (hdigests : Digests self.comparison organizationId runId
      (self.admissiblePairs organizationId runId records excludedRecordIds))
    (hpair : pair ∈ self.submittedPairs organizationId runId records excludedRecordIds)
    (hother : other ∈ self.submittedPairs organizationId runId records excludedRecordIds) :
    (self.featuresOf organizationId runId pair).candidateReference =
        (self.featuresOf organizationId runId other).candidateReference ↔
      (pairIdentity pair).joined = (pairIdentity other).joined := by
  have hpair := mem_submittedPairs hpair
  have hother := mem_submittedPairs hother
  rw [← @CandidateIdentity.material_inj organizationId runId _ _ (ids_ne_nil hpair)
    (ids_ne_nil hother)]
  show "candidate-" ++ self.comparison.sha256 _ = "candidate-" ++ self.comparison.sha256 _ ↔ _
  constructor
  · intro h
    rw [← String.toList_inj, String.toList_append, String.toList_append, List.append_cancel_left_eq,
      String.toList_inj] at h
    exact hdigests.collisionFree pair hpair other hother h
  · exact fun h => congrArg (fun text => "candidate-" ++ self.comparison.sha256 text) h

theorem referencesDiffer_iff {candidates : List GeneratedCandidate}
    (hdigests : Digests self.comparison organizationId runId
      (self.admissiblePairs organizationId runId records excludedRecordIds))
    (h : self.generate organizationId runId records excludedRecordIds = .ok candidates) :
    ReferencesDiffer candidates ↔
      Unambiguous (self.submittedPairs organizationId runId records excludedRecordIds) := by
  have hsummary := summary_generate hdigests h
  constructor
  · intro hdiffer pair hpair other hother hjoined
    have hmem {pair : RecordPair}
        (hpair : pair ∈ self.submittedPairs organizationId runId records excludedRecordIds) :
        (pairIdentity pair, self.featuresOf organizationId runId pair) ∈ candidates.map summary :=
      hsummary ▸ List.mem_map_of_mem hpair
    obtain ⟨candidate, hcandidate, htold⟩ := List.mem_map.mp (hmem hpair)
    obtain ⟨candidate', hcandidate', htold'⟩ := List.mem_map.mp (hmem hother)
    obtain ⟨hidentity, hfeatures⟩ := Prod.mk.inj htold
    obtain ⟨hidentity', hfeatures'⟩ := Prod.mk.inj htold'
    by_contra hne
    refine hdiffer candidate hcandidate candidate' hcandidate' (hidentity ▸ hidentity' ▸ hne) ?_
    rw [hfeatures, hfeatures']
    exact (reference_inj hdigests hpair hother).mpr hjoined
  · intro hunambiguous candidate hcandidate candidate' hcandidate' hne hreference
    have hmem {candidate : GeneratedCandidate} (hcandidate : candidate ∈ candidates) :
        ∃ pair ∈ self.submittedPairs organizationId runId records excludedRecordIds,
          (pairIdentity pair, self.featuresOf organizationId runId pair) = summary candidate :=
      List.mem_map.mp (hsummary ▸ List.mem_map_of_mem hcandidate)
    obtain ⟨pair, hpair, htold⟩ := hmem hcandidate
    obtain ⟨other, hother, htold'⟩ := hmem hcandidate'
    obtain ⟨hidentity, hfeatures⟩ := Prod.mk.inj htold
    obtain ⟨hidentity', hfeatures'⟩ := Prod.mk.inj htold'
    rw [← hfeatures, ← hfeatures'] at hreference
    exact hne (hidentity ▸ hidentity' ▸ hunambiguous pair hpair other hother
      ((reference_inj hdigests hpair hother).mp hreference))

/-- What the features are checked for. -/
theorem exists_normalized {features : NormalizedMatchFeatures}
    (hreference : strip features.candidateReference ≠ "" ∧
      (strip features.candidateReference).length ≤ 200)
    (hamount : isFraction features.amountSimilarity = true)
    (hdate : isFraction features.dateSimilarity = true)
    (hreferences : isFraction features.referenceSimilarity = true) :
    ∃ checked, features.normalized = .ok checked := by
  refine ⟨{ features with candidateReference := strip features.candidateReference }, ?_⟩
  unfold NormalizedMatchFeatures.normalized
  simp only [bind_ok, raiseUnless_ok]
  exact ⟨(), hreference, (), hamount, (), hdate, (), hreferences, rfl⟩

/-- What the request checks of the candidates. -/
theorem exists_request {candidates : List GeneratedCandidate} {promptVersion : String}
    (hprompt : isTextWithin 100 promptVersion = true) (hne : candidates ≠ [])
    (hunique : (candidates.map (·.features.candidateReference)).Nodup) :
    ∃ request, AIInferenceRequest.normalized ⟨candidates.map (·.features), promptVersion⟩ =
      .ok request := by
  obtain ⟨htext, hlength⟩ := Bool.and_eq_true_iff.mp hprompt
  have hblank : promptVersion ≠ "" := by
    rintro rfl
    exact absurd htext (by decide)
  have hreferences : ((candidates.map (·.features)).map (·.candidateReference)).Nodup := by
    rw [List.map_map]
    exact hunique
  refine ⟨⟨candidates.map (·.features), promptVersion⟩, ?_⟩
  unfold AIInferenceRequest.normalized
  simp only [strip_of_isText htext, bind_ok, raiseUnless_ok]
  exact ⟨(), by simpa using hne, (), hreferences, (), ⟨hblank, of_decide_eq_true hlength⟩, rfl⟩

/-- **The references tell the candidates apart**, so that a request can be built of them, if and only
if no two submitted pairs of different records have the same ids, one after another. -/
theorem references_distinct_iff {candidates : List GeneratedCandidate} {promptVersion : String}
    (hdigests : Digests self.comparison organizationId runId
      (self.admissiblePairs organizationId runId records excludedRecordIds))
    (hprompt : isTextWithin 100 promptVersion = true)
    (h : self.generate organizationId runId records excludedRecordIds = .ok candidates) :
    (ReferencesDiffer candidates ∧ (candidates ≠ [] → ∃ request,
        AIInferenceRequest.normalized ⟨candidates.map (·.features), promptVersion⟩ = .ok request)) ↔
      Unambiguous (self.submittedPairs organizationId runId records excludedRecordIds) := by
  rw [← referencesDiffer_iff hdigests h]
  refine ⟨fun hboth => hboth.1, fun hdiffer => ⟨hdiffer, fun hne => ?_⟩⟩
  refine exists_request hprompt hne ?_
  have hdistinct := (distinguished_generate h).distinct
  rw [List.Nodup, List.pairwise_map] at hdistinct ⊢
  exact hdistinct.imp_of_mem fun hm hm' hne => hdiffer _ hm _ hm' hne

/-- Enough for that: no two admissible pairs at all are ambiguous. -/
theorem unambiguous_submittedPairs
    (h : Unambiguous (self.admissiblePairs organizationId runId records excludedRecordIds)) :
    Unambiguous (self.submittedPairs organizationId runId records excludedRecordIds) :=
  fun pair hpair other hother =>
    h pair (mem_submittedPairs hpair) other (mem_submittedPairs hother)

/-- If nothing is cut off, the submitted pairs are one of each identity. -/
theorem mem_submittedPairs_of_le {pair : RecordPair}
    (hall : (self.admissiblePairs organizationId runId records excludedRecordIds).length ≤
      self.maximumCandidates)
    (h : pair ∈ firsts [] (self.admissiblePairs organizationId runId records excludedRecordIds)) :
    pair ∈ self.submittedPairs organizationId runId records excludedRecordIds := by
  unfold submittedPairs
  rw [List.take_of_length_le]
  · exact (mem_sortOn _).mpr h
  · rw [(sortOn_perm _ _).length_eq]
    exact (length_firsts_le _ _).trans hall

/-- The generator returns if the features of each admissible pair are accepted. -/
theorem exists_generate
    (h : ∀ pair ∈ self.admissiblePairs organizationId runId records excludedRecordIds,
      ∃ features, (self.featuresOf organizationId runId pair).normalized = .ok features) :
    ∃ candidates, self.generate organizationId runId records excludedRecordIds = .ok candidates := by
  have hloop (pairs : List RecordPair) (generation : Generation)
      (h : ∀ pair ∈ pairs.filter self.isAdmissible,
        ∃ features, (self.featuresOf organizationId runId pair).normalized = .ok features) :
      ∃ generation', pairs.foldlM (self.compare organizationId runId) generation =
        .ok generation' := by
    induction pairs generalizing generation with
    | nil => exact ⟨generation, rfl⟩
    | cons pair pairs ih =>
      obtain ⟨next, hnext⟩ : ∃ next, self.compare organizationId runId generation pair =
          .ok next := by
        unfold compare
        dsimp only
        split
        · exact ⟨_, rfl⟩
        · next htypes =>
          split
          · exact ⟨_, rfl⟩
          · next hdate =>
            split
            · exact ⟨_, rfl⟩
            · next hamount =>
              split
              · exact ⟨_, rfl⟩
              · obtain ⟨features, hfeatures⟩ := h pair (List.mem_filter.mpr
                  ⟨List.mem_cons_self, by simpa [isAdmissible, htypes, hamount] using hdate⟩)
                exact ⟨_, bind_ok.mpr ⟨features, hfeatures, rfl⟩⟩
      obtain ⟨last, hlast⟩ := ih next fun later hm => h later (List.mem_filter.mpr
        ⟨List.mem_cons_of_mem _ (List.mem_filter.mp hm).1, (List.mem_filter.mp hm).2⟩)
      exact ⟨last, (List.foldlM_cons ..).trans (bind_ok.mpr ⟨next, hnext, hlast⟩)⟩
  obtain ⟨generation, hgeneration⟩ := hloop _ {} h
  exact ⟨_, bind_ok.mpr ⟨generation, hgeneration, rfl⟩⟩

end ReconciliationCandidateGenerator

/-! ### Samples -/

/-- Records of the same amount and day; the digest of the ids `known` of the run 2, and that of
others. -/
def sameDay (known : List String) (digest others : String) : Comparison where
  casefold value := value
  sha256 material :=
    if material = CandidateIdentity.material 1 2 ⟨known, [], []⟩ then digest else others
  float value := value
  nearness _ _ := .ofInt 1
  ratio _ _ := .ofInt 1
  round value := value

def recordOf (sourceType : CandidateSourceType) (recordId : String)
    (h : isTextWithin 200 recordId = true := by decide) : CandidateSourceRecord where
  organizationId := 1
  runId := 2
  sourceType
  recordId
  amount := .ofInt 100
  effectiveDate := 739617
  currency := "USD"
  recordId_valid := h
  currency_valid := .refl true

section

variable {known : List String} {digest others : String} {pairs : List RecordPair}

/-- Where all other ids are the same text. -/
theorem digests_sameDay (rest : String) (hknown : known ≠ [])
    (hrest : "\x1f".intercalate known ≠ rest)
    (hpairs : ∀ pair ∈ pairs, (pairIdentity pair).ids ≠ [] ∧
      ((pairIdentity pair).joined = "\x1f".intercalate known ∨ (pairIdentity pair).joined = rest))
    (hdigests : digest ≠ others)
    (hspaceless : (digest.toList ++ others.toList).any isSpace = false) :
    Digests (sameDay known digest others) 1 2 pairs := by
  have hsha (pair : RecordPair) (hpair : pair ∈ pairs) :
      (sameDay known digest others).sha256 ((pairIdentity pair).material 1 2) =
        if (pairIdentity pair).joined = "\x1f".intercalate known then digest else others := by
    have hids : (⟨known, [], []⟩ : CandidateIdentity).ids = known := by
      simp [CandidateIdentity.ids]
    have hjoined : (⟨known, [], []⟩ : CandidateIdentity).joined = "\x1f".intercalate known := by
      rw [CandidateIdentity.joined, hids]
    have hiff := @CandidateIdentity.material_inj 1 2 (pairIdentity pair) ⟨known, [], []⟩
      (hpairs pair hpair).1 (hids.symm ▸ hknown)
    exact if_congr (hjoined ▸ hiff) rfl rfl
  constructor
  · intro pair hpair other hother h
    rw [hsha pair hpair, hsha other hother] at h
    rw [CandidateIdentity.material_inj (hpairs pair hpair).1 (hpairs other hother).1]
    rcases (hpairs pair hpair).2 with hjoined | hjoined <;>
      rcases (hpairs other hother).2 with hjoined' | hjoined'
    · rw [hjoined, hjoined']
    · rw [if_pos hjoined, if_neg (hjoined' ▸ hrest.symm)] at h
      exact absurd h hdigests
    · rw [if_neg (hjoined ▸ hrest.symm), if_pos hjoined'] at h
      exact absurd h.symm hdigests
    · rw [hjoined, hjoined']
  · intro pair hpair c hc
    rw [hsha pair hpair] at hc
    refine Bool.eq_false_iff.mpr (List.any_eq_false.mp hspaceless c ?_)
    split at hc
    · exact List.mem_append_left _ hc
    · exact List.mem_append_right _ hc

/-- The features of these records are accepted. -/
theorem exists_candidates {records : List CandidateSourceRecord}
    (hdigest : ∀ value ∈ [digest, others],
      strip ("candidate-" ++ value) ≠ "" ∧ (strip ("candidate-" ++ value)).length ≤ 200)
    (hsimilar : ∀ pair ∈ ReconciliationCandidateGenerator.admissiblePairs
        { comparison := sameDay [] "" "" } 1 2 records [],
      isFraction ((sameDay [] "" "").referenceSimilarity pair.1.references pair.2.references) = true ∧
      isFraction (Decimal.Context.sub ⟨some 28⟩ (.ofInt 1)
        ((sameDay [] "" "").amountDifferenceRatio pair.1.amount pair.2.amount)) = true) :
    ∃ candidates, ReconciliationCandidateGenerator.generate
      { comparison := sameDay known digest others } 1 2 records [] = .ok candidates := by
  refine ReconciliationCandidateGenerator.exists_generate fun pair hpair => ?_
  have hvalue (material : String) :
      (sameDay known digest others).sha256 material ∈ [digest, others] := by
    simp only [sameDay]
    split
    · exact List.mem_cons_self
    · exact List.mem_cons_of_mem _ List.mem_cons_self
  have hreference := hdigest _ (hvalue ((pairIdentity pair).material 1 2))
  obtain ⟨hreferences, hamount⟩ := hsimilar pair hpair
  have hdate : isFraction (.ofInt 1) = true := by decide
  exact ReconciliationCandidateGenerator.exists_normalized hreference hamount hdate hreferences

end

/-- Two transactions beside one invoice. -/
def oneInvoice : List CandidateSourceRecord :=
  [recordOf .bank "a", recordOf .bank "b", recordOf .erp "c"]

def oneInvoiceGenerator : ReconciliationCandidateGenerator :=
  .standard (sameDay ["a", "c"]
    "cdea4c1361dac75eacfcf29b0f476ebe584215a6b5afc8273b043303dfae9f9f"
    "40cf232b7f8750d2e8f516cbaf8a49b8213b2a6ca3a4e6ececb7e32a66722c99")

theorem references_distinct_invoice : ∃ candidates,
    oneInvoiceGenerator.generate 1 2 oneInvoice [] = .ok candidates ∧ candidates.length = 2 ∧
    ReferencesDiffer candidates ∧ ∃ request,
      AIInferenceRequest.normalized ⟨candidates.map (·.features), "v1"⟩ = .ok request := by
  have hdigests : Digests oneInvoiceGenerator.comparison 1 2
      (oneInvoiceGenerator.admissiblePairs 1 2 oneInvoice []) :=
    digests_sameDay "b\x1fc" (by decide) (by decide +kernel) (by decide +kernel)
      (by decide) (by decide +kernel)
  obtain ⟨candidates, hgenerate⟩ : ∃ candidates,
      oneInvoiceGenerator.generate 1 2 oneInvoice [] = .ok candidates :=
    exists_candidates (by decide +kernel) (by decide +kernel)
  have hlength : candidates.length = 2 := by
    have hsummary := congrArg List.length
      (ReconciliationCandidateGenerator.summary_generate hdigests hgenerate)
    rw [List.length_map, List.length_map, ReconciliationCandidateGenerator.submittedPairs,
      List.length_take, (sortOn_perm _ _).length_eq] at hsummary
    rw [hsummary]
    decide +kernel
  obtain ⟨hdiffer, hrequest⟩ := (ReconciliationCandidateGenerator.references_distinct_iff hdigests
    (show isTextWithin 100 "v1" = true by decide) hgenerate).mpr
      (ReconciliationCandidateGenerator.unambiguous_submittedPairs (by decide +kernel))
  refine ⟨candidates, hgenerate, hlength, hdiffer, hrequest ?_⟩
  rintro rfl
  cases hlength

/-- An invoice and a settlement of the same id, beside one transaction. -/
def sharedId : List CandidateSourceRecord :=
  [recordOf .bank "a", recordOf .erp "b", recordOf .gateway "b"]

def sharedIdGenerator : ReconciliationCandidateGenerator :=
  .standard (sameDay ["a", "b"]
    "21bd9c0a6464de2b74ce14689df31614b1738ed143c1b742cd52e51d0b6c3e34"
    "0ffa426b057d8491b72983a53334f50fdfa23d6ddc95aa333f0d726ddbc7c2c8")

theorem shared_reference : ∃ candidates,
    sharedIdGenerator.generate 1 2 sharedId [] = .ok candidates ∧ ¬ ReferencesDiffer candidates ∧
    AIInferenceRequest.normalized ⟨candidates.map (·.features), "v1"⟩ =
      .error (valueError "candidate references must be unique") := by
  have hdigests : Digests sharedIdGenerator.comparison 1 2
      (sharedIdGenerator.admissiblePairs 1 2 sharedId []) :=
    digests_sameDay "b\x1fb" (by decide) (by decide +kernel) (by decide +kernel)
      (by decide) (by decide +kernel)
  obtain ⟨candidates, hgenerate⟩ : ∃ candidates,
      sharedIdGenerator.generate 1 2 sharedId [] = .ok candidates :=
    exists_candidates (by decide +kernel) (by decide +kernel)
  have hshared : ¬ ReferencesDiffer candidates := by
    rw [ReconciliationCandidateGenerator.referencesDiffer_iff hdigests hgenerate]
    intro hunambiguous
    have hmem (pair : RecordPair) := @ReconciliationCandidateGenerator.mem_submittedPairs_of_le
      sharedIdGenerator 1 2 sharedId [] pair (by decide +kernel)
    have hsame := hunambiguous _ (hmem (recordOf .bank "a", recordOf .erp "b") (.head _)) _
      (hmem (recordOf .bank "a", recordOf .gateway "b") (.tail _ (.head _))) (by decide +kernel)
    exact absurd hsame (by decide +kernel)
  refine ⟨candidates, hgenerate, hshared, ?_⟩
  have hsome : candidates.map (·.features) ≠ [] := by
    intro hnil
    rw [List.map_eq_nil_iff.mp hnil] at hshared
    exact hshared fun _ hm => absurd hm List.not_mem_nil
  have hrepeated : ¬ ((candidates.map (·.features)).map (·.candidateReference)).Nodup := by
    rw [List.map_map]
    intro hnodup
    refine hshared fun candidate hm other hm' hne he => hne ?_
    rw [List.inj_on_of_nodup_map hnodup hm hm' he]
  unfold AIInferenceRequest.normalized
  rw [raiseUnless, if_pos hsome, raiseUnless, if_neg hrepeated]
  rfl

end ReconcileFlow.AI
