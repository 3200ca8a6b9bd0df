import ReconcileFlow.Storage.LocalObjects

/-!
# Storage — S3Objects

The objects in the bucket of the S3 provider are a store of objects (`mayAnswer_s3`).  What is sent
is what the local provider has saved in a directory of its own (`stage_eq_ok`), and the metadata of
every object has the digest of its contents (`Sound`).
-/

namespace ReconcileFlow.Storage

open Support LocalFileStorage

/-- Something else may raise first. -/
theorem Reads.after_raising {α : Type} {looked : Bool} {key : String} {about : α → Bytes → Prop}
    {before after : Contents} {x : Except ProviderError α}
    (h : Reads looked key about before x after) {result : FileAnswer} :
    Reads looked key about before (raising result >>= fun _ => x) after where
  unchanged := h.unchanged
  found a ha := by
    obtain ⟨_, -, ha⟩ := bind_eq_ok_iff.mp ha
    exact h.found a ha
  missing message hm hlooked := by
    rcases bind_eq_error_iff.mp hm with hresult | ⟨_, -, hm⟩
    · exact absurd (raisesOnly_raising _ _ hresult) not_isRaised_notFound
    · exact h.missing message hm hlooked
  invalid message hm := by
    rcases bind_eq_error_iff.mp hm with hresult | ⟨_, -, hm⟩
    · exact absurd (raisesOnly_raising _ _ hresult) not_isRaised_invalidKey
    · exact h.invalid message hm

namespace S3FileStorage

/-- The key may be refused first. -/
theorem reads_after_validateKey {α : Type} {looked : Bool} {key : String}
    {about : α → Bytes → Prop} {before after : Contents} {x : Except ProviderError α}
    (h : Reads looked key about before x after) :
    Reads looked key about before (validateKey key >>= fun _ => x) after where
  unchanged := h.unchanged
  found a ha := by
    obtain ⟨_, -, ha⟩ := bind_eq_ok_iff.mp ha
    exact h.found a ha
  missing message hm hlooked := by
    rcases bind_eq_error_iff.mp hm with hkey | ⟨_, -, hm⟩
    · cases (must_eq_error_iff.mp hkey).2
    · exact h.missing message hm hlooked
  invalid message hm := by
    rcases bind_eq_error_iff.mp hm with hkey | ⟨_, -, hm⟩
    · simpa using (must_eq_error_iff.mp hkey).1
    · exact h.invalid message hm

section

variable {storage : S3FileStorage} {library : Library} {answers : S3Answers} {bucket : Bucket}
  {key : String} {upload : UploadStream} {namespace? : Option String} {identifier : String}

/-- The contents of the objects in the bucket. -/
def bucketContents (bucket : Bucket) : Contents := fun key => (bucket key).map (·.contents)

/-- The metadata of every object has the digest of its contents. -/
def Sound (library : Library) (bucket : Bucket) : Prop :=
  ∀ key object, bucket key = some object → object.checksumSha256 = library.sha256 object.contents

theorem bucketContents_update (key : String) (object : Option S3Object) :
    bucketContents (Function.update bucket key object) =
      Function.update (bucketContents bucket) key (object.map (·.contents)) := by
  funext other
  by_cases hother : other = key
  · rw [hother]
    simp [bucketContents]
  · simp [bucketContents, hother]

theorem Sound.update (h : Sound library bucket) {object : Option S3Object}
    (hobject : ∀ o, object = some o → o.checksumSha256 = library.sha256 o.contents) :
    Sound library (Function.update bucket key object) := by
  intro other o ho
  by_cases hother : other = key
  · rw [hother, Function.update_self] at ho
    exact hobject o ho
  · rw [Function.update_of_ne hother] at ho
    exact h other o ho

/-- What is sent is the upload. -/
theorem stage_eq_ok {stored : KeyedUpload} {contents : Bytes}
    (h : storage.stage library answers upload namespace? identifier = .ok (stored, contents)) :
    ∃ extension, Gives upload contents ∧ Describes library storage.maxSizeBytes
      (finalName library namespace? identifier extension) stored contents := by
  have hfresh : IsFresh library (fun _ => none) namespace? identifier := ⟨rfl, fun _ => rfl⟩
  have hsave := saveOutcome ⟨storage.maxSizeBytes⟩ upload answers.staging.fileSystem hfresh
  unfold stage at h
  dsimp only at h
  generalize (LocalFileStorage.save ⟨storage.maxSizeBytes⟩ library answers.staging.fileSystem
    upload namespace? identifier).run (fun _ => none) = result at hsave h
  obtain ⟨stored', hresult, h⟩ := bind_eq_ok_iff.mp h
  obtain ⟨contents', hopen, h⟩ := bind_eq_ok_iff.mp h
  cases h
  cases hsave with
  | nothing | temporary | unclosed => cases hresult
  | @saved _ extension bytes hgives hdescribes =>
    cases hresult
    obtain ⟨_, -, hread⟩ := bind_eq_ok_iff.mp (wrapped_eq_ok_iff.mp hopen)
    obtain ⟨_, -, hread⟩ := bind_eq_ok_iff.mp hread
    have hcontents : bytes = contents := by
      have hstored := Except.ok.inj hread
      rw [hdescribes.storageKey] at hstored
      simpa [outcome] using hstored
    exact ⟨extension, hcontents ▸ hgives, hcontents ▸ hdescribes⟩

/-- The object of an upload. -/
def objectOf (stored : KeyedUpload) (contents : Bytes) : S3Object :=
  { contents, contentType := stored.contentType, checksumSha256 := stored.checksumSha256 }

/-- What `save` does: nothing, or put the upload, answered or not. -/
inductive SaveOutcome (storage : S3FileStorage) (library : Library) (upload : UploadStream)
    (namespace? : Option String) (identifier : String) (bucket : Bucket) :
    EStateM.Result ProviderError Bucket KeyedUpload → Prop
  | nothing {e : ProviderError} : SaveOutcome storage library upload namespace? identifier bucket
      (.error e bucket)
  | saved {stored : KeyedUpload} {extension : Extension} {contents : Bytes} :
      Gives upload contents → Describes library storage.maxSizeBytes
        (finalName library namespace? identifier extension) stored contents →
      SaveOutcome storage library upload namespace? identifier bucket
        (.ok stored (Function.update bucket stored.storageKey (some (objectOf stored contents))))
  | unanswered {e : ProviderError} {stored : KeyedUpload} {extension : Extension}
      {contents : Bytes} : Gives upload contents → Describes library storage.maxSizeBytes
        (finalName library namespace? identifier extension) stored contents →
      SaveOutcome storage library upload namespace? identifier bucket
        (.error e (Function.update bucket stored.storageKey (some (objectOf stored contents))))

/-- A finalizer that keeps to the bucket. -/
theorem SaveOutcome.finally {x : EStateM ProviderError Bucket KeyedUpload}
    (h : SaveOutcome storage library upload namespace? identifier bucket (x.run bucket))
    (result : Except ProviderError Unit) :
    SaveOutcome storage library upload namespace? identifier bucket
      ((tryFinally x (answer result)).run bucket) := by
  generalize hrun : x.run bucket = before at h
  cases h with
  | nothing =>
    rw [run_tryFinally_error hrun]
    cases result <;> exact .nothing
  | saved hgives hdescribes =>
    rw [run_tryFinally_ok hrun]
    cases result with
    | ok => exact .saved hgives hdescribes
    | error e => exact .unanswered hgives hdescribes
  | unanswered hgives hdescribes =>
    rw [run_tryFinally_error hrun]
    cases result <;> exact .unanswered hgives hdescribes

/-- A handler that raises. -/
theorem SaveOutcome.handled {x : EStateM ProviderError Bucket KeyedUpload}
    (h : SaveOutcome storage library upload namespace? identifier bucket (x.run bucket))
    {handler : ProviderError → ProviderError} :
    SaveOutcome storage library upload namespace? identifier bucket
      ((tryCatch x fun e => answer (.error (handler e))).run bucket) := by
  generalize hrun : x.run bucket = before at h
  cases h with
  | nothing =>
    rw [run_tryCatch_error hrun]
    exact .nothing
  | saved hgives hdescribes =>
    rw [run_tryCatch_ok hrun]
    exact .saved hgives hdescribes
  | unanswered hgives hdescribes =>
    rw [run_tryCatch_error hrun]
    exact .unanswered hgives hdescribes

theorem saveOutcome_stage : SaveOutcome storage library upload namespace? identifier bucket
    ((do
      let (stored, contents) ← answer (storage.stage library answers upload namespace? identifier)
      uploadFileobj answers stored.storageKey (objectOf stored contents)
      return stored : EStateM ProviderError Bucket KeyedUpload).run bucket) := by
  cases hstage : storage.stage library answers upload namespace? identifier with
  | error e =>
    rw [run_bind_error run_answer_error]
    exact .nothing
  | ok p =>
    obtain ⟨stored, contents⟩ := p
    obtain ⟨extension, hgives, hdescribes⟩ := stage_eq_ok hstage
    rw [run_bind_ok run_answer_ok]
    unfold uploadFileobj
    cases answers.response with
    | served => exact .saved hgives hdescribes
    | refused code other carriedOut =>
      cases carriedOut with
      | true => exact .unanswered hgives hdescribes
      | false => exact .nothing
    | broken carriedOut =>
      cases carriedOut with
      | true => exact .unanswered hgives hdescribes
      | false => exact .nothing

variable (storage answers upload bucket) in
theorem saveOutcome : SaveOutcome storage library upload namespace? identifier bucket
    ((storage.save library answers upload namespace? identifier).run bucket) := by
  have hattempt : SaveOutcome storage library upload namespace? identifier bucket
      ((do
        answer (raising answers.makeDirectory)
        tryFinally (do
          let (stored, contents) ←
            answer (storage.stage library answers upload namespace? identifier)
          uploadFileobj answers stored.storageKey (objectOf stored contents)
          return stored)
          (answer (raising answers.removeDirectory)) :
            EStateM ProviderError Bucket KeyedUpload).run bucket) := by
    cases hmake : raising answers.makeDirectory with
    | error e =>
      rw [run_bind_error run_answer_error]
      exact .nothing
    | ok =>
      rw [run_bind_ok run_answer_ok]
      exact saveOutcome_stage.finally _
  have hwrapped (e : ProviderError) : wrapped (.error e : Except ProviderError KeyedUpload) =
      .error (if e = .raised .os then .operation else e) := by
    unfold wrapped
    split <;> grind
  unfold save
  simp only [hwrapped]
  exact hattempt.handled

/-- The calls on a bucket; a save draws an identifier. -/
def s3Service (storage : S3FileStorage) (library : Library) :
    Service Bucket (ProviderCall × S3Answers) fun r => Except ProviderError r.1.Answer where
  serve r := storage.serve library r.2 r.1
  Ok r _ :=
    match r.1 with
    | .save _ _ identifier => IsIdentifier identifier
    | _ => True

/-- What a save leaves. -/
theorem mayAnswer_save (hlibrary : HexDigests library) (hidentifier : IsIdentifier identifier)
    (hsound : Sound library bucket) :
    let served := storage.serve library answers (.save upload namespace? identifier) bucket
    MayAnswer library storage.maxSizeBytes true (.save upload namespace? identifier)
      (bucketContents bucket) served.1 (bucketContents served.2) ∧ Sound library served.2 := by
  have hsave : SaveOutcome storage library upload namespace? identifier bucket _ :=
    saveOutcome storage answers bucket upload
  dsimp only [S3FileStorage.serve]
  generalize (storage.save library answers upload namespace? identifier).run bucket = result
    at hsave
  have hstores {answer : Except ProviderError KeyedUpload} {stored : KeyedUpload}
      {extension : Extension} {contents : Bytes} (hgives : Gives upload contents)
      (hdescribes : Describes library storage.maxSizeBytes
        (finalName library namespace? identifier extension) stored contents)
      (hanswer : ∀ s, answer = .ok s → s = stored) :
      MayAnswer library storage.maxSizeBytes true (.save upload namespace? identifier)
          (bucketContents bucket) answer (bucketContents (Function.update bucket stored.storageKey
            (some (objectOf stored contents)))) ∧
        Sound library
          (Function.update bucket stored.storageKey (some (objectOf stored contents))) := by
    refine ⟨.inr ⟨extension, contents, hgives, ?_, fun s hs => ?_, ?_⟩, hsound.update ?_⟩
    · rw [bucketContents_update, hdescribes.storageKey]
      rfl
    · rw [hanswer s hs]
      exact hdescribes
    · exact isStorageKey_finalName hlibrary hidentifier namespace? extension
    · rintro o ⟨⟩
      exact hdescribes.checksum
  cases hsave with
  | @nothing e => exact ⟨.inl ⟨rfl, e, rfl⟩, hsound⟩
  | saved hgives hdescribes =>
    refine hstores hgives hdescribes ?_
    rintro s ⟨⟩
    rfl
  | unanswered hgives hdescribes =>
    refine hstores hgives hdescribes ?_
    rintro s ⟨⟩

theorem mayAnswer_delete (hsound : Sound library bucket) :
    let served := storage.serve library answers (.delete key) bucket
    MayAnswer library storage.maxSizeBytes true (.delete key) (bucketContents bucket) served.1
      (bucketContents served.2) ∧ Sound library served.2 := by
  have hnone : Sound library (Function.update bucket key none) :=
    hsound.update fun o ho => by cases ho
  have hdeleted {answer : Except ProviderError Unit}
      (hanswer : ∀ message, answer ≠ .error (.invalidKey message)) :
      MayAnswer library storage.maxSizeBytes true (.delete key) (bucketContents bucket) answer
        (bucketContents (Function.update bucket key none)) :=
    .inr ⟨bucketContents_update key none, hanswer⟩
  have hkept : MayAnswer library storage.maxSizeBytes true (.delete key) (bucketContents bucket)
      (.error .operation) (bucketContents bucket) := by
    refine .inl ⟨rfl, _, rfl, ?_⟩
    rintro message ⟨⟩
  dsimp only [S3FileStorage.serve]
  unfold S3FileStorage.delete
  by_cases hkey : isStorageKey key = true
  · rw [run_bind_ok (by rw [validateKey, must, if_pos hkey]; rfl)]
    cases answers.response with
    | served => exact ⟨hdeleted (by rintro message ⟨⟩), hnone⟩
    | refused code other carriedOut =>
      cases carriedOut with
      | true => exact ⟨hdeleted (by rintro message ⟨⟩), hnone⟩
      | false => exact ⟨hkept, hsound⟩
    | broken carriedOut =>
      cases carriedOut with
      | true => exact ⟨hdeleted (by rintro message ⟨⟩), hnone⟩
      | false => exact ⟨hkept, hsound⟩
  · rw [run_bind_error (by rw [validateKey, must, if_neg hkey]; rfl)]
    exact ⟨.inl ⟨rfl, _, rfl, fun _ _ => by simpa using hkey⟩, hsound⟩

/-- What the service answers about an object. -/
theorem found_of_request {code : String} {object : S3Object}
    (h : request answers bucket key code = .ok object) : bucket key = some object := by
  unfold request at h
  split at h
  · split at h
    · next o ho => rw [ho, Except.ok.inj h]
    · cases h
  · cases h
  · cases h

theorem request_ne_invalid {code message : String} :
    request answers bucket key code ≠ .error (.invalidKey message) := by
  have hclient (code : String) : clientError code ≠ .invalidKey message := by
    unfold clientError
    split <;> rintro ⟨⟩
  intro h
  unfold request at h
  split at h
  · split at h
    · cases h
    · exact hclient _ (Except.error.inj h)
  · exact hclient _ (Except.error.inj h)
  · cases h

theorem request_missing {code : String} {e : ProviderError}
    (h : request answers bucket key code = .error e) : IsRaised e ∨ bucket key = none := by
  unfold request at h
  split at h
  · split at h
    · cases h
    · next hnone => exact .inr hnone
  · next code other _ _ =>
    rw [clientError, if_neg (by simp [other])] at h
    exact .inl ⟨_, (Except.error.inj h).symm⟩
  · exact .inl ⟨_, (Except.error.inj h).symm⟩

/-- A call that asks for the object. -/
theorem reads_request {α : Type} {about : α → Bytes → Prop} {code : String}
    {f : S3Object → Except ProviderError α}
    (habout : ∀ object a, bucket key = some object → f object = .ok a → about a object.contents)
    (hraises : ∀ object, RaisesOnly IsRaised (f object)) :
    Reads true key about (bucketContents bucket)
      (do
        validateKey key
        let object ← request answers bucket key code
        f object)
      (bucketContents bucket) where
  unchanged := rfl
  found a ha := by
    obtain ⟨_, -, ha⟩ := bind_eq_ok_iff.mp ha
    obtain ⟨object, hrequest, ha⟩ := bind_eq_ok_iff.mp ha
    have hobject := found_of_request hrequest
    exact ⟨object.contents, by simp [bucketContents, hobject], habout object a hobject ha⟩
  missing message hm _ := by
    rcases bind_eq_error_iff.mp hm with hkey | ⟨_, -, hm⟩
    · cases (must_eq_error_iff.mp hkey).2
    · rcases bind_eq_error_iff.mp hm with hrequest | ⟨object, -, hf⟩
      · rcases request_missing hrequest with hraised | hnone
        · exact absurd hraised not_isRaised_notFound
        · simp [bucketContents, hnone]
      · exact absurd (hraises object _ hf) not_isRaised_notFound
  invalid message hm := by
    rcases bind_eq_error_iff.mp hm with hkey | ⟨_, -, hm⟩
    · simpa using (must_eq_error_iff.mp hkey).1
    · rcases bind_eq_error_iff.mp hm with hrequest | ⟨object, -, hf⟩
      · exact absurd hrequest request_ne_invalid
      · exact absurd (hraises object _ hf) not_isRaised_invalidKey

theorem mayAnswer_exists :
    MayAnswer library storage.maxSizeBytes true (.exists key) (bucketContents bucket)
      (existsObject answers bucket key) (bucketContents bucket) := by
  refine ⟨rfl, fun hfound => ?_, fun hfound _ => ?_, fun message hm => ?_⟩
  · obtain ⟨_, -, hfound⟩ := bind_eq_ok_iff.mp hfound
    split at hfound
    · next object hrequest =>
      rw [bucketContents, found_of_request hrequest]
      rfl
    · cases hfound
    · cases hfound
  · obtain ⟨_, -, hfound⟩ := bind_eq_ok_iff.mp hfound
    split at hfound
    · cases hfound
    · next message hrequest =>
      rcases request_missing hrequest with hraised | hnone
      · exact absurd hraised not_isRaised_notFound
      · simp [bucketContents, hnone]
    · cases hfound
  · rcases bind_eq_error_iff.mp hm with hkey | ⟨_, -, hm⟩
    · simpa using (must_eq_error_iff.mp hkey).1
    · split at hm
      · cases hm
      · cases hm
      · next e _ hrequest =>
        cases hm
        exact absurd hrequest request_ne_invalid

theorem reads_inspect {originalFilename : String} :
    Reads true key (Describes library storage.maxSizeBytes key) (bucketContents bucket)
      (storage.inspect library answers bucket key originalFilename) (bucketContents bucket) := by
  have hcopied : Reads true key (Describes library storage.maxSizeBytes key) (bucketContents bucket)
      (do
        let contents ← openObject answers bucket key
        raising answers.copy
        inspectMaterialized library answers.staging.fileSystem answers.staging.stat
          answers.staging.read storage.maxSizeBytes contents originalFilename key)
      (bucketContents bucket) := by
    simp only [openObject, bind_assoc, pure_bind]
    refine reads_request (fun object a _ ha => ?_) fun object => ?_
    · obtain ⟨_, -, ha⟩ := bind_eq_ok_iff.mp ha
      exact describes_inspectMaterialized ha
    · exact raisesOnly_bind.mpr ⟨raisesOnly_raising _, fun _ _ => raisesOnly_inspectMaterialized⟩
  exact reads_after_validateKey hcopied.wrapped.after_raising.after_raising

/-- **The S3 provider acts as a store.** -/
theorem mayAnswer_s3 (hlibrary : HexDigests library) (hsound : Sound library bucket)
    {r : ProviderCall × S3Answers} (hok : (s3Service storage library).Ok r bucket) :
    MayAnswer library storage.maxSizeBytes true r.1 (bucketContents bucket)
        ((s3Service storage library).serve r bucket).1
        (bucketContents ((s3Service storage library).serve r bucket).2) ∧
      Sound library ((s3Service storage library).serve r bucket).2 := by
  obtain ⟨call, answers⟩ := r
  cases call with
  | save upload namespace? identifier => exact mayAnswer_save hlibrary hok hsound
  | delete key => exact mayAnswer_delete hsound
  | «open» key =>
    refine ⟨reads_request (fun object a _ ha => ?_) fun object => raisesOnly_pure _, hsound⟩
    exact (Except.ok.inj ha).symm
  | «exists» key => exact ⟨mayAnswer_exists, hsound⟩
  | stat key =>
    refine ⟨reads_request (fun object a hobject ha => ?_) fun object => raisesOnly_pure _, hsound⟩
    obtain rfl := Except.ok.inj ha
    refine ⟨rfl, ?_⟩
    rintro checksum ⟨⟩
    exact hsound key object hobject
  | inspect key originalFilename => exact ⟨reads_inspect, hsound⟩

end

end S3FileStorage

end ReconcileFlow.Storage
