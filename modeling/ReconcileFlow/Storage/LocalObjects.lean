import ReconcileFlow.Storage.Accounts

/-!
# Storage — LocalObjects

The files of the local provider's directory that have valid names are a store of objects
(`mayAnswer_local`): an upload gets a name that is valid (`isStorageKey_finalName`), a temporary
file does not, and what `save` leaves is one of four outcomes (`saveOutcome`).
-/

namespace ReconcileFlow.Storage

open Support LocalFileStorage

/-! ### Keys of uploads -/

/-- A hexadecimal digest of 32 bytes. -/
def HexDigests (library : Library) : Prop :=
  ∀ value, (library.sha256 value).toList.length = 64 ∧
    (library.sha256 value).toList.all isHexDigit = true

/-- `uuid4().hex`. -/
def IsIdentifier (identifier : String) : Prop :=
  identifier.toList.length = 32 ∧ identifier.toList.all isHexDigit = true

instance (identifier : String) : Decidable (IsIdentifier identifier) := instDecidableAnd

section

variable {library : Library} {identifier : String}

theorem isObjectName_append (hidentifier : IsIdentifier identifier) (extension : Extension) :
    isObjectName (identifier.toList ++ extension.text.toList) = true := by
  obtain ⟨hlength, hhex⟩ := hidentifier
  unfold isObjectName
  rw [← hlength, List.take_left, List.drop_left, hlength, hhex]
  cases extension <;> rfl

theorem isStorageKey_of_prefix {key : String} {digest name : List Char}
    (hlength : digest.length = 16) (hhex : digest.all isHexDigit = true)
    (hname : isObjectName name = true) (hkey : key.toList = digest ++ '-' :: name) :
    isStorageKey key = true := by
  have hdrop : (digest ++ '-' :: name).drop 17 = name := by
    rw [List.drop_append, hlength, List.drop_eq_nil_of_le (by omega)]
    rfl
  unfold isStorageKey
  simp only [hkey, hdrop, hname]
  rw [← hlength, List.take_left, List.drop_left, hlength, hhex]
  simp

/-- **An upload gets a key that is valid.** -/
theorem isStorageKey_finalName (hlibrary : HexDigests library)
    (hidentifier : IsIdentifier identifier) (namespace? : Option String) (extension : Extension) :
    isStorageKey (finalName library namespace? identifier extension) = true := by
  have hname := isObjectName_append hidentifier extension
  cases hnamespace : namespace?.filter (· ≠ "") with
  | none =>
    have hprefix : namespacePrefix library namespace? = "" := by
      unfold namespacePrefix
      rw [hnamespace]
    have hkey : (finalName library namespace? identifier extension).toList =
        identifier.toList ++ extension.text.toList := by
      rw [finalName, hprefix, String.toList_append, String.toList_append]
      rfl
    simp [isStorageKey, hkey, hname]
  | some value =>
    obtain ⟨hlength, hhex⟩ := hlibrary value.toUTF8.toList
    have hprefix : (namespacePrefix library namespace?).toList =
        (library.sha256 value.toUTF8.toList).toList.take 16 ++ ['-'] := by
      unfold namespacePrefix
      rw [hnamespace, String.toList_append, String.toList_ofList]
      rfl
    have hshort : ((library.sha256 value.toUTF8.toList).toList.take 16).length = 16 := by
      rw [List.length_take, hlength]
      rfl
    refine isStorageKey_of_prefix hshort ?_ hname ?_
    · exact List.all_eq_true.mpr fun c hc => List.all_eq_true.mp hhex c (List.mem_of_mem_take hc)
    · rw [finalName, String.toList_append, String.toList_append, hprefix, List.append_assoc,
        List.append_assoc]
      rfl

theorem isStorageKey_temporaryName (identifier : String) :
    isStorageKey (temporaryName identifier) = false := by
  have hdot : (temporaryName identifier).toList = '.' :: (identifier ++ ".part").toList := by
    unfold temporaryName
    rw [String.append_assoc, String.toList_append]
    rfl
  unfold isStorageKey isObjectName
  rw [hdot]
  simp [isHexDigit]

end

/-! ### Answers of the providers -/

/-- An exception that does not tell of the key. -/
def IsRaised (e : ProviderError) : Prop := ∃ error, e = .raised error

section

variable {α : Type} {x : Except ProviderError α} {key : String} {about : α → Bytes → Prop}
  {before after : Contents}

theorem wrapped_eq_ok_iff {a : α} : wrapped x = .ok a ↔ x = .ok a := by
  unfold wrapped
  split <;> simp

theorem eq_of_wrapped_eq_error {e : ProviderError} (h : wrapped x = .error e) (he : ¬ IsRaised e) :
    x = .error e := by
  unfold wrapped at h
  split at h
  · exact absurd ⟨_, (Except.error.inj h).symm⟩ he
  · exact h

theorem raisesOnly_wrapped (h : RaisesOnly IsRaised x) : RaisesOnly IsRaised (wrapped x) := by
  intro e he
  by_contra hraised
  exact hraised (h e (eq_of_wrapped_eq_error he hraised))

theorem raisesOnly_raising (result : FileAnswer) : RaisesOnly IsRaised (raising result) :=
  raisesOnly_mapError.mpr fun e _ => ⟨e, rfl⟩

theorem not_isRaised_notFound {message : String} : ¬ IsRaised (.notFound message) := by
  rintro ⟨_, ⟨⟩⟩

theorem not_isRaised_invalidKey {message : String} : ¬ IsRaised (.invalidKey message) := by
  rintro ⟨_, ⟨⟩⟩

theorem Reads.wrapped {looked : Bool} (h : Reads looked key about before x after) :
    Reads looked key about before (wrapped x) after where
  unchanged := h.unchanged
  found a ha := h.found a (wrapped_eq_ok_iff.mp ha)
  missing message hm := h.missing message (eq_of_wrapped_eq_error hm not_isRaised_notFound)
  invalid message hm := h.invalid message (eq_of_wrapped_eq_error hm not_isRaised_invalidKey)

end

section

variable {library : Library} {fileSystem : FileSystem} {stat read : FileAnswer} {maximum : Nat}
  {contents : Bytes} {originalFilename key : String}

/-- What is told of an object that is inspected is right. -/
theorem describes_inspectMaterialized {stored : KeyedUpload}
    (h : inspectMaterialized library fileSystem stat read maximum contents originalFilename key =
      .ok stored) : Describes library maximum key stored contents := by
  obtain ⟨⟨safeName, extension⟩, -, h⟩ := bind_eq_ok_iff.mp h
  obtain ⟨_, -, h⟩ := bind_eq_ok_iff.mp (wrapped_eq_ok_iff.mp h)
  obtain ⟨_, hnonempty, h⟩ := bind_eq_ok_iff.mp h
  obtain ⟨_, hwithin, h⟩ := bind_eq_ok_iff.mp h
  obtain ⟨_, -, h⟩ := bind_eq_ok_iff.mp h
  obtain ⟨_, -, h⟩ := bind_eq_ok_iff.mp h
  have hne : contents ≠ [] := must_eq_ok_iff.mp (mapError_eq_ok_iff.mp hnonempty)
  have hle : contents.length ≤ maximum := must_eq_ok_iff.mp (mapError_eq_ok_iff.mp hwithin)
  cases h
  exact ⟨rfl, rfl, rfl, List.length_pos_iff.mpr hne, hle⟩

theorem raisesOnly_inspectMaterialized : RaisesOnly IsRaised
    (inspectMaterialized library fileSystem stat read maximum contents originalFilename key) := by
  refine raisesOnly_bind.mpr ⟨raisesOnly_mapError.mpr fun e _ => ⟨e, rfl⟩, fun p _ => ?_⟩
  refine raisesOnly_wrapped (raisesOnly_bind.mpr ⟨raisesOnly_raising _, fun _ _ => ?_⟩)
  refine raisesOnly_bind.mpr ⟨raisesOnly_raising _, fun _ _ => ?_⟩
  refine raisesOnly_bind.mpr ⟨raisesOnly_raising _, fun _ _ => ?_⟩
  refine raisesOnly_bind.mpr ⟨raisesOnly_raising _, fun _ _ => ?_⟩
  exact raisesOnly_bind.mpr ⟨raisesOnly_raising _, fun _ _ => raisesOnly_pure _⟩

end

/-! ### The local provider -/

section

variable {storage : LocalFileStorage} {library : Library} {answers : LocalAnswers}
  {directory : Directory} {key : String} {upload : UploadStream} {namespace? : Option String}
  {identifier : String}

/-- The files with valid names. -/
def localContents (directory : Directory) : Contents := fun key =>
  if isStorageKey key = true then directory key else none

theorem localContents_update (hkey : isStorageKey key = true) (file : Option Bytes) :
    localContents (Function.update directory key file) =
      Function.update (localContents directory) key file := by
  funext other
  by_cases hother : other = key
  · rw [hother]
    simp [localContents, hkey]
  · simp [localContents, hother]

/-- A file whose name is not valid is no object. -/
theorem localContents_withTemporary (bytes : Bytes) :
    localContents (withTemporary directory (temporaryName identifier) bytes) =
      localContents directory := by
  funext other
  by_cases hother : other = temporaryName identifier
  · rw [hother]
    simp [localContents, isStorageKey_temporaryName]
  · simp [localContents, withTemporary, hother]

/-- What `save` does: nothing but leave a temporary file, or the whole upload, closed or not. -/
inductive SaveOutcome (storage : LocalFileStorage) (library : Library) (upload : UploadStream)
    (namespace? : Option String) (identifier : String) (directory : Directory) :
    EStateM.Result SaveError Directory KeyedUpload → Prop
  | nothing {e : SaveError} : SaveOutcome storage library upload namespace? identifier directory
      (.error e directory)
  | temporary {e : SaveError} {bytes : Bytes} :
      SaveOutcome storage library upload namespace? identifier directory
        (.error e (withTemporary directory (temporaryName identifier) bytes))
  | saved {stored : KeyedUpload} {extension : Extension} {bytes : Bytes} :
      Gives upload bytes → Describes library storage.maxSizeBytes
        (finalName library namespace? identifier extension) stored bytes →
      SaveOutcome storage library upload namespace? identifier directory
        (.ok stored (Function.update directory
          (finalName library namespace? identifier extension) (some bytes)))
  | unclosed {e : SaveError} {extension : Extension} {bytes : Bytes} : Gives upload bytes →
      SaveOutcome storage library upload namespace? identifier directory
        (.error e (Function.update directory
          (finalName library namespace? identifier extension) (some bytes)))

/-- An attempt that fails, whose handler has ended, fails. -/
theorem run_attempt_error {x : FileAction KeyedUpload}
    {handler : SaveError → FileAction KeyedUpload} {before between after : Directory}
    {error e : SaveError} (htry : x.run before = .error error between)
    (hclean : (handler error).run between = .error e after) (close : Except SaveError Unit) :
    ∃ e', (tryFinally (tryCatch x handler) (answer close)).run before = .error e' after := by
  rw [run_tryFinally_error ((run_tryCatch_error htry handler).trans hclean)]
  cases close with
  | ok => exact ⟨_, rfl⟩
  | error e' => exact ⟨_, rfl⟩

variable (storage upload) in
theorem saveOutcome (fileSystem : FileSystem)
    (hfresh : IsFresh library directory namespace? identifier) :
    SaveOutcome storage library upload namespace? identifier directory
      ((storage.save library fileSystem upload namespace? identifier).run directory) := by
  cases hname : validatedFilename library.lower upload.filename with
  | error error =>
    rw [save, run_bind_error (by rw [hname]; rfl)]
    exact .nothing
  | ok p =>
    obtain ⟨originalFilename, extension⟩ := p
    cases hmkdir : fileSystem.mkdir with
    | error error =>
      rw [save, run_bind_ok (by rw [hname]; rfl), run_bind_error (by rw [hmkdir]; rfl)]
      exact .nothing
    | ok =>
      have hfinal := hfresh.final extension
      rw [run_save hname hmkdir]
      cases hcreate : fileSystem.create with
      | error error =>
        obtain ⟨e, hclean⟩ := run_cleanUp_absent fileSystem hfresh.temporary hfinal error
        have htry : (storage.trySave library fileSystem upload (temporaryName identifier)
            (finalName library namespace? identifier extension) originalFilename extension).run
              directory = .error error directory :=
          run_bind_error (run_bind_error (by rw [hcreate]; rfl) _) _
        obtain ⟨e', hrun⟩ := run_attempt_error htry hclean upload.close
        rw [hrun]
        exact .nothing
      | ok =>
        rcases interrupted_or_completed storage library fileSystem upload extension with
          ⟨error, herror⟩ | ⟨n, hn⟩
        · obtain ⟨left, htry⟩ := run_trySave_interrupted
            (finalName library namespace? identifier extension) originalFilename hcreate
            hfresh.temporary herror
          by_cases hremoved : error.isHandled = true ∧ fileSystem.unlinkTemporary = .ok ()
          · obtain ⟨e, hclean⟩ := run_cleanUp_removed hfresh.temporary hfinal hremoved.2 left
              hremoved.1
            obtain ⟨e', hrun⟩ := run_attempt_error htry hclean upload.close
            rw [hrun]
            exact .nothing
          · obtain ⟨e, hclean⟩ := run_cleanUp_left directory (temporaryName identifier)
              (finalName library namespace? identifier extension) left hremoved
            obtain ⟨e', hrun⟩ := run_attempt_error htry hclean upload.close
            rw [hrun]
            exact .temporary
        · have hnames : temporaryName identifier ≠
              finalName library namespace? identifier extension :=
            temporaryName_ne_finalName namespace? identifier extension
          have htry := run_trySave_completed originalFilename hcreate hfresh.temporary hnames hn
          have hlength : 1 ≤ (firstChunks upload n).length :=
            (Nat.one_le_iff_ne_zero.mpr hn.nonempty).trans hn.transferred.arrives.le_length
          rw [run_tryFinally_ok (run_tryCatch_ok htry _)]
          cases upload.close with
          | ok =>
            exact .saved (gives_of_completed hn)
              ⟨rfl, rfl, rfl, hlength, hn.transferred.arrives.within⟩
          | error e => exact .unclosed (gives_of_completed hn)

/-- A call that first looks for the file. -/
theorem reads_resolve {α : Type} {about : α → Bytes → Prop} {f : Bytes → Except ProviderError α}
    (habout : ∀ bytes a, f bytes = .ok a → about a bytes)
    (hraises : ∀ bytes, RaisesOnly IsRaised (f bytes)) :
    Reads answers.looksUp key about (localContents directory)
      (do
        resolve answers directory true key
        f ((directory key).getD []))
      (localContents directory) where
  unchanged := rfl
  found a ha := by
    obtain ⟨_, hresolve, ha⟩ := bind_eq_ok_iff.mp ha
    obtain ⟨_, hkey, hresolve⟩ := bind_eq_ok_iff.mp hresolve
    have hfile : isFile answers directory key = true := must_eq_ok_iff.mp hresolve
    obtain ⟨-, hthere⟩ := Bool.and_eq_true_iff.mp hfile
    obtain ⟨bytes, hbytes⟩ := Option.isSome_iff_exists.mp hthere
    refine ⟨bytes, ?_, habout bytes a ?_⟩
    · rw [localContents, if_pos (must_eq_ok_iff.mp hkey), hbytes]
    · rw [← ha, hbytes, Option.getD_some]
  missing message hm hlooked := by
    rcases bind_eq_error_iff.mp hm with hresolve | ⟨_, -, hrest⟩
    · rcases bind_eq_error_iff.mp hresolve with hkey | ⟨_, hkey, hresolve⟩
      · cases (must_eq_error_iff.mp hkey).2
      · rw [localContents, if_pos (must_eq_ok_iff.mp hkey)]
        have hfile := (must_eq_error_iff.mp hresolve).1
        simpa [isFile, hlooked] using hfile
    · exact absurd (hraises _ _ hrest) not_isRaised_notFound
  invalid message hm := by
    rcases bind_eq_error_iff.mp hm with hresolve | ⟨_, -, hrest⟩
    · rcases bind_eq_error_iff.mp hresolve with hkey | ⟨_, -, hresolve⟩
      · simpa using (must_eq_error_iff.mp hkey).1
      · cases (must_eq_error_iff.mp hresolve).2
    · exact absurd (hraises _ _ hrest) not_isRaised_invalidKey

/-- The calls on a directory; a save draws an identifier that is new. -/
def localService (storage : LocalFileStorage) (library : Library) :
    Service Directory (ProviderCall × LocalAnswers) fun r => Except ProviderError r.1.Answer where
  serve r := storage.serve library r.2 r.1
  Ok r directory :=
    match r.1 with
    | .save _ namespace? identifier =>
      IsIdentifier identifier ∧ IsFresh library directory namespace? identifier
    | _ => True

theorem mayAnswer_localSave (hlibrary : HexDigests library) (hidentifier : IsIdentifier identifier)
    (hfresh : IsFresh library directory namespace? identifier) :
    MayAnswer library storage.maxSizeBytes answers.looksUp (.save upload namespace? identifier)
      (localContents directory)
      (storage.serve library answers (.save upload namespace? identifier) directory).1
      (localContents (storage.serve library answers (.save upload namespace? identifier)
        directory).2) := by
  have hsave := saveOutcome storage upload answers.fileSystem hfresh
  show (_ ∧ _) ∨ _
  dsimp only [LocalFileStorage.serve]
  generalize (storage.save library answers.fileSystem upload namespace? identifier).run directory =
    result at hsave
  cases hsave with
  | @nothing e => exact .inl ⟨rfl, .raised e, rfl⟩
  | @temporary e => exact .inl ⟨localContents_withTemporary _, .raised e, rfl⟩
  | @saved stored extension bytes hgives hdescribes =>
    have hvalid := isStorageKey_finalName hlibrary hidentifier namespace? extension
    refine .inr ⟨extension, bytes, hgives, localContents_update hvalid _, ?_, hvalid⟩
    rintro _ ⟨⟩
    exact hdescribes
  | @unclosed e extension bytes hgives =>
    have hvalid := isStorageKey_finalName hlibrary hidentifier namespace? extension
    refine .inr ⟨extension, bytes, hgives, localContents_update hvalid _, ?_, hvalid⟩
    rintro _ ⟨⟩

theorem mayAnswer_localDelete :
    MayAnswer library storage.maxSizeBytes answers.looksUp (.delete key) (localContents directory)
      (storage.serve library answers (.delete key) directory).1
      (localContents (storage.serve library answers (.delete key) directory).2) := by
  show (_ ∧ _) ∨ _
  dsimp only [LocalFileStorage.serve]
  rw [LocalFileStorage.delete, run_bind_ok (EStateM.run_get _)]
  cases hremove : wrapped (do
      resolve answers directory false key
      raising answers.unlink) with
  | error e =>
    rw [run_bind_error (by rfl)]
    refine .inl ⟨rfl, e, rfl, ?_⟩
    rintro message rfl
    rcases bind_eq_error_iff.mp (eq_of_wrapped_eq_error hremove not_isRaised_invalidKey) with
      hresolve | ⟨_, -, hunlink⟩
    · rcases bind_eq_error_iff.mp hresolve with hkey | ⟨_, -, hrest⟩
      · simpa using (must_eq_error_iff.mp hkey).1
      · cases hrest
    · exact absurd (raisesOnly_raising _ _ hunlink) not_isRaised_invalidKey
  | ok =>
    obtain ⟨_, hresolve, -⟩ := bind_eq_ok_iff.mp (wrapped_eq_ok_iff.mp hremove)
    obtain ⟨_, hkey, -⟩ := bind_eq_ok_iff.mp hresolve
    rw [run_bind_ok (by rfl)]
    refine .inr ⟨localContents_update (must_eq_ok_iff.mp hkey) none, ?_⟩
    rintro message ⟨⟩

theorem mayAnswer_localExists :
    MayAnswer library storage.maxSizeBytes answers.looksUp (.exists key) (localContents directory)
      (existsFile answers directory key) (localContents directory) := by
  have hfound {found : Bool} (h : existsFile answers directory key = .ok found) :
      isFile answers directory key = found ∧ localContents directory key = directory key := by
    obtain ⟨_, hresolve, h⟩ := bind_eq_ok_iff.mp h
    obtain ⟨_, hkey, -⟩ := bind_eq_ok_iff.mp hresolve
    exact ⟨Except.ok.inj h, if_pos (must_eq_ok_iff.mp hkey)⟩
  refine ⟨rfl, fun hanswer => ?_, fun hanswer hlooked => ?_, fun message hm => ?_⟩
  · obtain ⟨hfile, hcontents⟩ := hfound hanswer
    rw [hcontents]
    exact (Bool.and_eq_true_iff.mp hfile).2
  · obtain ⟨hfile, hcontents⟩ := hfound hanswer
    rw [hcontents]
    simpa [isFile, hlooked] using hfile
  · rcases bind_eq_error_iff.mp hm with hresolve | ⟨_, -, hreturn⟩
    · rcases bind_eq_error_iff.mp hresolve with hkey | ⟨_, -, hnothing⟩
      · simpa using (must_eq_error_iff.mp hkey).1
      · cases hnothing
    · cases hreturn

/-- **The local provider acts as a store.** -/
theorem mayAnswer_local (hlibrary : HexDigests library) {r : ProviderCall × LocalAnswers}
    (hok : (localService storage library).Ok r directory) :
    MayAnswer library storage.maxSizeBytes r.2.looksUp r.1 (localContents directory)
      ((localService storage library).serve r directory).1
      (localContents ((localService storage library).serve r directory).2) := by
  obtain ⟨call, answers⟩ := r
  cases call with
  | save upload namespace? identifier => exact mayAnswer_localSave hlibrary hok.1 hok.2
  | delete key => exact mayAnswer_localDelete
  | «open» key =>
    refine Reads.wrapped (reads_resolve (f := fun bytes => do
      raising answers.openFile
      return bytes) (fun bytes a ha => ?_) fun bytes => ?_)
    · obtain ⟨_, -, ha⟩ := bind_eq_ok_iff.mp ha
      exact (Except.ok.inj ha).symm
    · exact raisesOnly_bind.mpr ⟨raisesOnly_raising _, fun _ _ => raisesOnly_pure _⟩
  | «exists» key => exact mayAnswer_localExists
  | stat key =>
    refine Reads.wrapped (reads_resolve (f := fun bytes => do
      raising answers.stat
      return ({ storageKey := key, sizeBytes := bytes.length } : StorageObjectMetadata))
      (fun bytes a ha => ?_) fun bytes => ?_)
    · obtain ⟨_, -, ha⟩ := bind_eq_ok_iff.mp ha
      cases ha
      refine ⟨rfl, ?_⟩
      rintro checksum ⟨⟩
    · exact raisesOnly_bind.mpr ⟨raisesOnly_raising _, fun _ _ => raisesOnly_pure _⟩
  | inspect key originalFilename =>
    exact reads_resolve (f := fun bytes => inspectMaterialized library answers.fileSystem
        answers.stat answers.read storage.maxSizeBytes bytes originalFilename key)
      (fun bytes a ha => describes_inspectMaterialized ha)
      fun bytes => raisesOnly_inspectMaterialized

end

end ReconcileFlow.Storage
