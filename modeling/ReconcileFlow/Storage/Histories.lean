import ReconcileFlow.Storage.S3Objects

/-!
# Storage — Histories

Whatever calls are made of a provider, and whichever fail, what it tells is true of its history
(`provider_truthful`): both providers act as a store of objects
(`mayAnswer_local`, `mayAnswer_s3`), and such a store is truthful (`allTruthful_of_mayAnswer`).
-/

namespace ReconcileFlow.Storage

open Support LocalFileStorage

/-- The calls and the answers, whatever the file system and the service answered. -/
def tellings {F : Type} (looked : F → Bool)
    (history : List (Σ r : ProviderCall × F, Except ProviderError r.1.Answer)) : History :=
  history.map fun entry => ⟨entry.1.1, entry.2, looked entry.1.2⟩

section

variable {library : Library} {maximum : Nat}

theorem accounts_nil {contents : Contents} (hempty : ∀ key, contents key = none) :
    Accounts library maximum [] contents := by
  refine ⟨fun key bytes hkey => ?_, ?_, ?_, ?_⟩
  · rw [hempty] at hkey
    cases hkey
  · rintro key ⟨earlier, saving, later, hsplit, -⟩
    simp at hsplit
  · rintro key ⟨saving, hm, -⟩
    cases hm
  · intro earlier telling later hsplit
    simp at hsplit

/-- **A provider that acts as a store is truthful.** -/
theorem allTruthful_of_mayAnswer {σ F : Type}
    {S : Service σ (ProviderCall × F) fun r => Except ProviderError r.1.Answer}
    (looked : F → Bool) (contents : σ → Contents) (Inv : σ → Prop)
    (hstep : ∀ r s, Inv s → S.Ok r s → MayAnswer library maximum (looked r.2) r.1 (contents s)
      (S.serve r s).1 (contents (S.serve r s).2) ∧ Inv (S.serve r s).2)
    {calls : List (ProviderCall × F)} {s : σ} (hs : Inv s) (hempty : ∀ key, contents s key = none)
    (hserved : S.Served calls s) :
    AllTruthful library maximum (tellings looked (S.answers calls s)) := by
  have hnil : Accounts library maximum
        (tellings looked ([] : List (Σ r : ProviderCall × F, Except ProviderError r.1.Answer)))
        (contents s) ∧ Inv s :=
    ⟨accounts_nil hempty, hs⟩
  have hkeeps := Service.holds_of_keeps (S := S)
    (P := fun history s => Accounts library maximum (tellings looked history) (contents s) ∧ Inv s)
    (fun history s r hP hok => by
      obtain ⟨hmay, hinv⟩ := hstep r s hP.2 hok
      have haccounts := hP.1.mayAnswer hmay
      refine ⟨?_, hinv⟩
      rw [tellings, List.map_append]
      exact haccounts) hnil hserved
  exact hkeeps.1.truthful

/-- **What a provider tells is true of its history**, whatever calls are made of it, and whichever
of them fail: of either provider, from when it is empty.  The local one may say that an object is
missing if the file system does not say whether it is there. -/
theorem provider_truthful (hlibrary : HexDigests library) (maximum : Nat) :
    (∀ calls : List (ProviderCall × LocalAnswers),
      (localService ⟨maximum⟩ library).Served calls (fun _ => none) →
        AllTruthful library maximum
          (tellings (·.looksUp) ((localService ⟨maximum⟩ library).answers calls fun _ => none))) ∧
    ∀ calls : List (ProviderCall × S3Answers),
      (S3FileStorage.s3Service ⟨maximum⟩ library).Served calls (fun _ => none) →
        AllTruthful library maximum
          (tellings (fun _ => true)
            ((S3FileStorage.s3Service ⟨maximum⟩ library).answers calls fun _ => none)) := by
  constructor
  · intro calls hserved
    refine allTruthful_of_mayAnswer (·.looksUp) localContents (fun _ => True)
      (fun r directory _ hok => ⟨mayAnswer_local hlibrary hok, trivial⟩) trivial (fun key => ?_)
      hserved
    unfold localContents
    split <;> rfl
  · intro calls hserved
    refine allTruthful_of_mayAnswer (fun _ => true) S3FileStorage.bucketContents
      (S3FileStorage.Sound library)
      (fun r bucket hsound hok => S3FileStorage.mayAnswer_s3 hlibrary hsound hok) ?_ (fun _ => rfl)
      hserved
    rintro key object ⟨⟩

/-- The digests of this library are always the same one. -/
theorem hexDigests_plain : HexDigests plainLibrary := by
  intro value
  have hdigest : (plainLibrary.sha256 []).toList.length = 64 ∧
      (plainLibrary.sha256 []).toList.all isHexDigit = true := by decide
  exact hdigest

def zeros : String := "00000000000000000000000000000000"

theorem isIdentifier_zeros : IsIdentifier zeros := by decide

/-- An upload is saved and read, and not found after it is deleted. -/
def savedAndDeleted : List ProviderCall :=
  [.save csvUpload none zeros, .open (zeros ++ ".csv"), .delete (zeros ++ ".csv"),
    .stat (zeros ++ ".csv")]

theorem provider_truthful_csv :
    AllTruthful plainLibrary 1024 (tellings (·.looksUp) ((localService ⟨1024⟩ plainLibrary).answers
        (savedAndDeleted.map fun call => (call, {})) fun _ => none)) ∧
      AllTruthful plainLibrary 1024 (tellings (fun _ => true) ((S3FileStorage.s3Service ⟨1024⟩ plainLibrary).answers
        (savedAndDeleted.map fun call => (call, { response := .broken true })) fun _ => none)) := by
  constructor
  · refine (provider_truthful hexDigests_plain 1024).1 _ ?_
    exact ⟨⟨isIdentifier_zeros, rfl, fun _ => rfl⟩, trivial, trivial, trivial, trivial⟩
  · refine (provider_truthful hexDigests_plain 1024).2 _ ?_
    exact ⟨isIdentifier_zeros, trivial, trivial, trivial, trivial⟩

end

end ReconcileFlow.Storage
