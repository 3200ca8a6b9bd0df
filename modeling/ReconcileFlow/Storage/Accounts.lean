import ReconcileFlow.Storage.Providers

/-!
# Storage — Accounts

A store of objects that may fail to answer (`MayAnswer`): a save that raises may have stored the
upload, a deletion that raises may have deleted the object, and nothing else changes an object.
What is told of its objects is true of the history of the calls (`Truthful`): what is read of a key
was saved under it, and not yet deleted; and what is not found was never saved, or a deletion was
asked for, or it was not looked up.  The account of a history and of the objects there are is kept by
every call (`Accounts.mayAnswer`).
-/

namespace ReconcileFlow.Storage

open Support LocalFileStorage

/-! ### A store of objects -/

/-- The contents of the objects, by their keys. -/
abbrev Contents := String → Option Bytes

/-- The call answers about the object of the key, if it is looked up, and changes nothing. -/
structure Reads (looked : Bool) (key : String) {α : Type} (about : α → Bytes → Prop)
    (before : Contents) (answer : Except ProviderError α) (after : Contents) : Prop where
  unchanged : after = before
  found : ∀ a, answer = .ok a → ∃ bytes, before key = some bytes ∧ about a bytes
  missing : ∀ message, answer = .error (.notFound message) → looked = true → before key = none
  invalid : ∀ message, answer = .error (.invalidKey message) → isStorageKey key = false

/-- The upload of the key, with its size and its digest. -/
structure Describes (library : Library) (maximum : Nat) (key : String) (stored : KeyedUpload)
    (bytes : Bytes) : Prop where
  storageKey : stored.storageKey = key
  size : stored.sizeBytes = bytes.length
  checksum : stored.checksumSha256 = library.sha256 bytes
  nonempty : 1 ≤ bytes.length
  within : bytes.length ≤ maximum

/-- The upload, under a key made of the identifier. -/
structure Stores (library : Library) (maximum : Nat) (upload : UploadStream)
    (namespace? : Option String) (identifier : String) (before : Contents)
    (answer : Except ProviderError KeyedUpload) (after : Contents) (extension : Extension)
    (bytes : Bytes) : Prop where
  gives : Gives upload bytes
  changed : after = Function.update before (finalName library namespace? identifier extension)
    (some bytes)
  described : ∀ stored, answer = .ok stored →
    Describes library maximum (finalName library namespace? identifier extension) stored bytes
  valid : isStorageKey (finalName library namespace? identifier extension) = true

/-- What a call may answer, and what it may do to the objects; `looked` says whether the object of
the key is looked up. -/
def MayAnswer (library : Library) (maximum : Nat) (looked : Bool) : (call : ProviderCall) →
    Contents → Except ProviderError call.Answer → Contents → Prop
  | .save upload namespace? identifier, before, answer, after =>
    (after = before ∧ ∃ error, answer = .error error) ∨ ∃ extension bytes,
      Stores library maximum upload namespace? identifier before answer after extension bytes
  | .delete key, before, answer, after =>
    (after = before ∧ ∃ error, answer = .error error ∧
      ∀ message, error = .invalidKey message → isStorageKey key = false) ∨
      (after = Function.update before key none ∧
        ∀ message, answer ≠ .error (.invalidKey message))
  | .open key, before, answer, after =>
    Reads looked key (fun read bytes => read = bytes) before answer after
  | .exists key, before, answer, after => after = before ∧
      (answer = .ok true → (before key).isSome = true) ∧
      (answer = .ok false → looked = true → before key = none) ∧
      ∀ message, answer = .error (.invalidKey message) → isStorageKey key = false
  | .stat key, before, answer, after => Reads looked key (fun metadata bytes =>
      metadata.sizeBytes = bytes.length ∧
        ∀ checksum ∈ metadata.checksumSha256, checksum = library.sha256 bytes) before answer after
  | .inspect key _, before, answer, after =>
    Reads looked key (Describes library maximum key) before answer after

/-! ### What a history tells -/

/-- A call with its answer, and whether the object of its key was looked up. -/
structure Telling where
  call : ProviderCall
  answer : Except ProviderError call.Answer
  looked : Bool := true

abbrev History := List Telling

/-- A save that may have stored the upload under the key. -/
def IsSaveOf (library : Library) (key : String) (bytes : Bytes) : Telling → Prop
  | ⟨.save upload namespace? identifier, _, _⟩ =>
    Gives upload bytes ∧ ∃ extension, key = finalName library namespace? identifier extension
  | _ => False

/-- A save that has returned the key. -/
def ReturnsKey (key : String) : Telling → Prop
  | ⟨.save .., .ok stored, _⟩ => stored.storageKey = key
  | _ => False

/-- A deletion of the key that has returned. -/
def DeletesKey (key : String) : Telling → Prop
  | ⟨.delete deleted, .ok _, _⟩ => deleted = key
  | _ => False

/-- The contents were saved under the key, and since then no deletion of it has returned. -/
def SavedAs (library : Library) (history : History) (key : String) (bytes : Bytes) : Prop :=
  ∃ earlier saving later, history = earlier ++ saving :: later ∧ IsSaveOf library key bytes saving ∧
    ∀ entry ∈ later, ¬ DeletesKey key entry

/-- A save has returned the key, and since then no deletion of it has been asked for. -/
def IsKept (history : History) (key : String) : Prop :=
  ∃ earlier saving later, history = earlier ++ saving :: later ∧ ReturnsKey key saving ∧
    ∀ entry ∈ later, entry.call ≠ .delete key

/-- A save has returned the key. -/
def IsReturned (history : History) (key : String) : Prop :=
  ∃ saving ∈ history, ReturnsKey key saving

/-- What is told of an object is true of the history; one that is not looked up may be told to be
missing. -/
def TellsOf (library : Library) (history : History) (looked : Bool) (key : String) {α : Type}
    (about : α → Bytes → Prop) : Except ProviderError α → Prop
  | .ok a => ∃ bytes, SavedAs library history key bytes ∧ about a bytes
  | .error (.notFound _) => looked = true → ¬ IsKept history key
  | .error (.invalidKey _) => ¬ IsReturned history key
  | .error (.raised _) => True

/-- **The answer to the call is true of the history before it.** -/
def Truthful (library : Library) (maximum : Nat) (history : History) (looked : Bool) :
    (call : ProviderCall) → Except ProviderError call.Answer → Prop
  | .save upload _ _, answer => ∀ stored, answer = .ok stored →
      isStorageKey stored.storageKey = true ∧ ∃ bytes, Gives upload bytes ∧
        Describes library maximum stored.storageKey stored bytes
  | .delete key, answer =>
    ∀ message, answer = .error (.invalidKey message) → ¬ IsReturned history key
  | .open key, answer => TellsOf library history looked key (fun read bytes => read = bytes) answer
  | .exists key, answer =>
    (answer = .ok true → ∃ bytes, SavedAs library history key bytes) ∧
    (answer = .ok false → looked = true → ¬ IsKept history key) ∧
    ∀ message, answer = .error (.invalidKey message) → ¬ IsReturned history key
  | .stat key, answer => TellsOf library history looked key (fun metadata bytes =>
      metadata.sizeBytes = bytes.length ∧
        ∀ checksum ∈ metadata.checksumSha256, checksum = library.sha256 bytes) answer
  | .inspect key _, answer =>
    TellsOf library history looked key (Describes library maximum key) answer

/-- Every answer of the history is true of what came before it. -/
def AllTruthful (library : Library) (maximum : Nat) (history : History) : Prop :=
  ∀ earlier telling later, history = earlier ++ telling :: later →
    Truthful library maximum earlier telling.looked telling.call telling.answer

/-- What the history tells of the objects that are there now. -/
structure Accounts (library : Library) (maximum : Nat) (history : History) (contents : Contents) :
    Prop where
  saved : ∀ key bytes, contents key = some bytes → SavedAs library history key bytes
  kept : ∀ key, IsKept history key → (contents key).isSome = true
  returned : ∀ key, IsReturned history key → isStorageKey key = true
  truthful : AllTruthful library maximum history

section

variable {library : Library} {maximum : Nat} {history : History} {contents after : Contents}
  {call : ProviderCall} {answer : Except ProviderError call.Answer} {looked : Bool} {entry : Telling}
  {key : String} {bytes : Bytes}

theorem SavedAs.append (h : SavedAs library history key bytes) (hentry : ¬ DeletesKey key entry) :
    SavedAs library (history ++ [entry]) key bytes := by
  obtain ⟨earlier, saving, later, rfl, hsaving, hlater⟩ := h
  refine ⟨earlier, saving, later ++ [entry], by simp, hsaving, fun e he => ?_⟩
  rcases List.mem_append.mp he with he | he
  · exact hlater e he
  · rw [List.mem_singleton.mp he]
    exact hentry

theorem savedAs_last (h : IsSaveOf library key bytes entry) :
    SavedAs library (history ++ [entry]) key bytes :=
  ⟨history, entry, [], rfl, h, fun _ he => absurd he List.not_mem_nil⟩

/-- A key that is kept was kept before, or has just been returned. -/
theorem isKept_append : IsKept (history ++ [entry]) key ↔
    ReturnsKey key entry ∨ IsKept history key ∧ entry.call ≠ .delete key := by
  constructor
  · rintro ⟨earlier, saving, later, hsplit, hsaving, hlater⟩
    rcases append_singleton_eq_split.mp hsplit with ⟨-, -, rfl⟩ | ⟨later, rfl, rfl⟩
    · exact .inl hsaving
    · refine .inr ⟨⟨earlier, saving, later, rfl, hsaving, fun e he => ?_⟩, ?_⟩
      · exact hlater e (List.mem_append_left _ he)
      · exact hlater entry (List.mem_append_right _ (List.mem_singleton.mpr rfl))
  · rintro (hreturns | ⟨⟨earlier, saving, later, rfl, hsaving, hlater⟩, hentry⟩)
    · exact ⟨history, entry, [], rfl, hreturns, fun e he => absurd he List.not_mem_nil⟩
    · refine ⟨earlier, saving, later ++ [entry], by simp, hsaving, fun e he => ?_⟩
      rcases List.mem_append.mp he with he | he
      · exact hlater e he
      · rw [List.mem_singleton.mp he]
        exact hentry

theorem isReturned_append :
    IsReturned (history ++ [entry]) key ↔ IsReturned history key ∨ ReturnsKey key entry := by
  simp [IsReturned, or_and_right, exists_or]

theorem allTruthful_append (h : AllTruthful library maximum history)
    (hanswer : Truthful library maximum history entry.looked entry.call entry.answer) :
    AllTruthful library maximum (history ++ [entry]) := by
  intro earlier telling later hsplit
  rcases append_singleton_eq_split.mp hsplit with ⟨-, rfl, rfl⟩ | ⟨later, -, hsplit⟩
  · exact hanswer
  · exact h earlier telling later hsplit

/-- What is read is told truly. -/
theorem Reads.tellsOf {α : Type} {about : α → Bytes → Prop} {answer : Except ProviderError α}
    (h : Reads looked key about contents answer after)
    (haccounts : Accounts library maximum history contents) :
    TellsOf library history looked key about answer := by
  cases answer with
  | ok a =>
    obtain ⟨bytes, hkey, ha⟩ := h.found a rfl
    exact ⟨bytes, haccounts.saved key bytes hkey, ha⟩
  | error e =>
    cases e with
    | invalidKey message =>
      intro hreturned
      have hvalid := haccounts.returned key hreturned
      rw [h.invalid message rfl] at hvalid
      cases hvalid
    | notFound message =>
      intro hlooked hkept
      have hsome := haccounts.kept key hkept
      rw [h.missing message rfl hlooked] at hsome
      cases hsome
    | raised => exact trivial

/-- A call that may be so answered is answered truly. -/
theorem MayAnswer.truthful (h : MayAnswer library maximum looked call contents answer after)
    (haccounts : Accounts library maximum history contents) :
    Truthful library maximum history looked call answer := by
  have hinvalid {key : String} (hkey : isStorageKey key = false) : ¬ IsReturned history key := by
    intro hreturned
    have hvalid := haccounts.returned key hreturned
    rw [hkey] at hvalid
    cases hvalid
  cases call with
  | save upload namespace? identifier =>
    intro stored hstored
    rcases h with ⟨-, e, he⟩ | ⟨extension, bytes, hstores⟩
    · rw [hstored] at he
      cases he
    · have hdescribes := hstores.described stored hstored
      rw [hdescribes.storageKey]
      exact ⟨hstores.valid, bytes, hstores.gives, hdescribes⟩
  | delete key =>
    intro message hmessage
    rcases h with ⟨-, e, he, hkey⟩ | ⟨-, hno⟩
    · rw [hmessage] at he
      exact hinvalid (hkey message (Except.error.inj he).symm)
    · exact absurd hmessage (hno message)
  | «open» key => exact Reads.tellsOf h haccounts
  | «exists» key =>
    obtain ⟨-, hthere, hmissing, hkey⟩ := h
    refine ⟨fun hanswer => ?_, fun hanswer hlooked hkept => ?_,
      fun message hm => hinvalid (hkey message hm)⟩
    · obtain ⟨bytes, hbytes⟩ := Option.isSome_iff_exists.mp (hthere hanswer)
      exact ⟨bytes, haccounts.saved key bytes hbytes⟩
    · have hsome := haccounts.kept key hkept
      rw [hmissing hanswer hlooked] at hsome
      cases hsome
  | stat key => exact Reads.tellsOf h haccounts
  | inspect key originalFilename => exact Reads.tellsOf h haccounts

/-- A call that only reads leaves the account as it was. -/
theorem Accounts.reading (h : Accounts library maximum history contents)
    (hanswer : Truthful library maximum history entry.looked entry.call entry.answer)
    (hsave : ∀ key, ¬ ReturnsKey key entry) (hdelete : ∀ key, ¬ DeletesKey key entry) :
    Accounts library maximum (history ++ [entry]) contents where
  saved key bytes hkey := (h.saved key bytes hkey).append (hdelete key)
  kept key hkept := by
    rcases isKept_append.mp hkept with hreturns | ⟨hkept, -⟩
    · exact absurd hreturns (hsave key)
    · exact h.kept key hkept
  returned key hreturned := by
    rcases isReturned_append.mp hreturned with hreturned | hreturns
    · exact h.returned key hreturned
    · exact absurd hreturns (hsave key)
  truthful := allTruthful_append h.truthful hanswer

theorem Accounts.storing {upload : UploadStream} {namespace? : Option String} {identifier : String}
    {answer : Except ProviderError KeyedUpload} {extension : Extension}
    (h : Accounts library maximum history contents)
    (hstores : Stores library maximum upload namespace? identifier contents answer after extension
      bytes)
    (hanswer : Truthful library maximum history looked (.save upload namespace? identifier) answer) :
    Accounts library maximum (history ++ [⟨.save upload namespace? identifier, answer, looked⟩])
      after := by
  have hreturns {key : String}
      (hkey : ReturnsKey key ⟨.save upload namespace? identifier, answer, looked⟩) :
      key = finalName library namespace? identifier extension := by
    cases answer with
    | error e => exact hkey.elim
    | ok stored => exact hkey.symm.trans (hstores.described stored rfl).storageKey
  refine ⟨fun key bytes' hkey => ?_, fun key hkept => ?_, fun key hreturned => ?_,
    allTruthful_append h.truthful hanswer⟩
  · rw [hstores.changed] at hkey
    by_cases hfinal : key = finalName library namespace? identifier extension
    · rw [hfinal, Function.update_self] at hkey
      obtain rfl := Option.some.inj hkey
      exact savedAs_last ⟨hstores.gives, extension, hfinal⟩
    · rw [Function.update_of_ne hfinal] at hkey
      exact (h.saved key bytes' hkey).append fun hdeletes => hdeletes
  · rw [hstores.changed]
    by_cases hfinal : key = finalName library namespace? identifier extension
    · rw [hfinal, Function.update_self]
      rfl
    · rw [Function.update_of_ne hfinal]
      rcases isKept_append.mp hkept with hnew | ⟨hkept, -⟩
      · exact absurd (hreturns hnew) hfinal
      · exact h.kept key hkept
  · rcases isReturned_append.mp hreturned with hreturned | hnew
    · exact h.returned key hreturned
    · rw [hreturns hnew]
      exact hstores.valid

theorem Accounts.deleting {answer : Except ProviderError Unit}
    (h : Accounts library maximum history contents)
    (hanswer : Truthful library maximum history looked (.delete key) answer) :
    Accounts library maximum (history ++ [⟨.delete key, answer, looked⟩])
      (Function.update contents key none) := by
  refine ⟨fun other bytes hother => ?_, fun other hkept => ?_, fun other hreturned => ?_,
    allTruthful_append h.truthful hanswer⟩
  · by_cases hkey : other = key
    · rw [hkey, Function.update_self] at hother
      cases hother
    · rw [Function.update_of_ne hkey] at hother
      refine (h.saved other bytes hother).append fun hdeletes => hkey ?_
      cases answer with
      | error e => exact hdeletes.elim
      | ok => exact hdeletes.symm
  · rcases isKept_append.mp hkept with hnew | ⟨hkept, hne⟩
    · exact hnew.elim
    · have hkey : other ≠ key := fun he => hne (by rw [he])
      rw [Function.update_of_ne hkey]
      exact h.kept other hkept
  · rcases isReturned_append.mp hreturned with hreturned | hnew
    · exact h.returned other hreturned
    · exact hnew.elim

/-- A deletion that raises and deletes nothing. -/
theorem Accounts.notDeleting {e : ProviderError} (h : Accounts library maximum history contents)
    (hanswer : Truthful library maximum history looked (.delete key) (.error e)) :
    Accounts library maximum (history ++ [⟨.delete key, .error e, looked⟩]) contents := by
  refine ⟨fun other bytes hother => ?_, fun other hkept => ?_, fun other hreturned => ?_,
    allTruthful_append h.truthful hanswer⟩
  · exact (h.saved other bytes hother).append fun hdeletes => hdeletes
  · rcases isKept_append.mp hkept with hnew | ⟨hkept, -⟩
    · exact hnew.elim
    · exact h.kept other hkept
  · rcases isReturned_append.mp hreturned with hreturned | hnew
    · exact h.returned other hreturned
    · exact hnew.elim

/-- **A call that may be so answered keeps the account.** -/
theorem Accounts.mayAnswer (h : Accounts library maximum history contents)
    (hcall : MayAnswer library maximum looked call contents answer after) :
    Accounts library maximum (history ++ [⟨call, answer, looked⟩]) after := by
  have hanswer := hcall.truthful h
  cases call with
  | save upload namespace? identifier =>
    rcases hcall with ⟨rfl, _, rfl⟩ | ⟨extension, bytes, hstores⟩
    · exact h.reading hanswer (fun _ hreturns => hreturns) fun _ hdeletes => hdeletes
    · exact h.storing hstores hanswer
  | delete key =>
    rcases hcall with ⟨rfl, _, rfl, -⟩ | ⟨rfl, -⟩
    · exact h.notDeleting hanswer
    · exact h.deleting hanswer
  | «open» key =>
    obtain rfl := Reads.unchanged hcall
    exact h.reading hanswer (fun _ hreturns => hreturns) fun _ hdeletes => hdeletes
  | «exists» key =>
    obtain ⟨rfl, -⟩ := hcall
    exact h.reading hanswer (fun _ hreturns => hreturns) fun _ hdeletes => hdeletes
  | stat key =>
    obtain rfl := Reads.unchanged hcall
    exact h.reading hanswer (fun _ hreturns => hreturns) fun _ hdeletes => hdeletes
  | inspect key originalFilename =>
    obtain rfl := Reads.unchanged hcall
    exact h.reading hanswer (fun _ hreturns => hreturns) fun _ hdeletes => hdeletes

end

end ReconcileFlow.Storage
