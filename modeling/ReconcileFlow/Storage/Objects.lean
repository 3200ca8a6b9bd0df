import ReconcileFlow.Storage.Abandoned
import ReconcileFlow.Storage.Usage

/-!
# Storage — Objects

Whether every file has an object of its own.  A request looks whether a key is referenced, and
records or removes its object some statements later: another may have recorded the key in between
(`object_destroyed`).  As long as nothing happens to a key between the moment when a request looks
and its effect (`Undisturbed`), every file keeps its object, except that the provider may lose it,
and no request removes an object that a file references (`objects_kept`).
-/

namespace ReconcileFlow.Storage

open Support Support.ReadCommitted Api
open Persistence hiding SourceFileRecord sourceFileSchema

/-- The file has a key that no other file has, and its object is preserved. -/
def HasObject (store : FileStore) (file : SourceFileRecord) : Prop :=
  file.storageKey.isSome = true ∧
    (∀ other ∈ store.files.rows, other.storageKey = file.storageKey → other = file) ∧
    ∀ key ∈ file.storageKey, Preserved store key

/-- Every file has an object of its own. -/
def Intact (store : FileStore) : Prop := ∀ file ∈ store.files.rows, HasObject store file

instance (store : FileStore) (key : String) : Decidable (Preserved store key) :=
  inferInstanceAs (Decidable (_ ∨ _))

instance (store : FileStore) (file : SourceFileRecord) : Decidable (HasObject store file) :=
  inferInstanceAs (Decidable (_ ∧ _ ∧ _))

instance (store : FileStore) : Decidable (Intact store) :=
  inferInstanceAs (Decidable (∀ _ ∈ _, _))

/-! ### Namespaces -/

/-- The namespaces of the organizations are apart, and what is listed for one is of its own. -/
structure Namespaced (provider : StorageProvider) : Prop where
  apart : ∀ key organizationId organizationId',
    provider.belongsToNamespace key organizationId = true →
      provider.belongsToNamespace key organizationId' = true → organizationId = organizationId'
  listed : ∀ objects organizationId cutoff limit,
    ∀ key ∈ provider.listOlderThan objects organizationId cutoff limit,
      provider.belongsToNamespace key organizationId = true

theorem Namespaced.offered {provider : StorageProvider} (hnamespaced : Namespaced provider)
    {organizationId : UUID} {key : String} (h : Offered provider organizationId key) :
    provider.belongsToNamespace key organizationId = true := by
  rcases h with hbelongs | ⟨objects, cutoff, limit, hkey⟩
  · exact hbelongs
  · exact hnamespaced.listed objects organizationId cutoff limit key hkey

/-- So it is with both providers, unless the digests of two organizations begin alike. -/
theorem namespaced_provider (kind : ProviderKind) (maxSizeBytes : Nat) (library : Library)
    (names : Objects → List String)
    (hlength : ∀ organizationId organizationId',
      (organizationPrefix library organizationId).length =
        (organizationPrefix library organizationId').length)
    (hapart : ∀ organizationId organizationId', organizationPrefix library organizationId =
      organizationPrefix library organizationId' → organizationId = organizationId') :
    Namespaced (kind.provider maxSizeBytes library names) where
  apart key organizationId organizationId' h h' := by
    dsimp only [ProviderKind.provider, hasPrefix] at h h'
    have hsame : (organizationPrefix library organizationId).toList.length =
        (organizationPrefix library organizationId').toList.length := by
      rw [String.length_toList, String.length_toList, hlength]
    have hstart := List.prefix_of_prefix_length_le (List.isPrefixOf_iff_prefix.mp h)
      (List.isPrefixOf_iff_prefix.mp h') hsame.le
    exact hapart _ _ (String.toList_inj.mp (hstart.eq_of_length hsame))
  listed objects organizationId cutoff limit key hkey := by
    have hold := ((mem_listOlderThan kind library names).mp hkey).1
    simp only [isOld, Bool.and_eq_true] at hold
    dsimp only [ProviderKind.provider]
    exact hold.1.1

/-! ### What the requests rely on -/

/-- The event records a file with the key. -/
def FileEvent.records (key : String) : FileEvent → Bool
  | .recorded file => decide (file.storageKey = some key)
  | _ => false

/-- No file with the key has been recorded since. -/
def Unrecorded (store : FileStore) (key : String) (since : Nat) : Prop :=
  ∀ event ∈ store.eventsSince since, event.records key = false

instance (store : FileStore) (key : String) (since : Nat) :
    Decidable (Unrecorded store key since) :=
  inferInstanceAs (Decidable (∀ _ ∈ _, _))

/-- Nothing happens to the key between the moment when a request looks and its effect.  The key
that is drawn for an upload is new.  When a file is recorded, its key has neither been recorded
since, nor its object removed.  When an object is removed that is there, its key has not been
recorded since, and the file for whose deletion it is removed has been deleted since. -/
def Undisturbed (provider : StorageProvider) : FileCommit → FileStore → Prop
  | .saved organizationId key, store =>
    provider.belongsToNamespace key organizationId = true ∧
      ∀ file ∈ store.files.rows, file.storageKey ≠ some key
  | .uploaded file since, store | .finalized file since, store =>
    ∀ key ∈ file.storageKey, Unrecorded store key since ∧ .removed key ∉ store.eventsSince since
  | .removed key record since, store =>
    store.objects key = none ∨ Unrecorded store key since ∧
      ∀ file ∈ record, .deleted file ∈ store.eventsSince since
  | _, _ => True

instance (store : FileStore) (key : String) : Decidable (store.objects key = none) :=
  decidable_of_iff _ Option.isNone_iff_eq_none

instance (provider : StorageProvider) (store : FileStore) :
    ∀ label, Decidable (Undisturbed provider label store)
  | .saved .. => inferInstanceAs (Decidable (_ ∧ _))
  | .uploaded .. | .finalized .. => inferInstanceAs (Decidable (∀ _ ∈ _, _))
  | .removed .. => inferInstanceAs (Decidable (_ ∨ _))
  | .deleted .. | .repaired .. | .other => .isTrue trivial

/-- Every file is of an organization in whose namespace its key is. -/
def Named (provider : StorageProvider) (store : FileStore) : Prop :=
  ∀ file ∈ store.files.rows, ∃ organizationId, store.belongsTo organizationId file = true ∧
    ∀ key ∈ file.storageKey, provider.belongsToNamespace key organizationId = true

/-- No file has the key. -/
def Unreferenced (store : FileStore) (key : String) : Prop :=
  ∀ file ∈ store.files.rows, file.storageKey ≠ some key

def ownership (provider : StorageProvider) : Contract FileStore FileLock FileCommit where
  Inv store := Intact store ∧ Named provider store
  Rely := Evolves
  Same := SameRow
  Ok := Undisturbed provider
  Post label store _ := ∀ key since, label = .removed key none since →
    (store.objects key).isSome = true → Unreferenced store key
  rely_refl := .refl
  rely_trans := .trans
  same_refl := .refl
  same_trans := .trans

/-! ### What has been read -/

section

variable {provider : StorageProvider} {s t t' : FileStore} {file : SourceFileRecord}
  {organizationId : UUID} {key : String} {since : Nat}

/-- What a request takes for its own is in its namespace. -/
theorem namespace_of_claims (hnamespaced : Namespaced provider)
    (h : Claims provider (ownership provider) organizationId key none s) :
    provider.belongsToNamespace key organizationId = true := by
  cases h with
  | drawn object hok => exact hok.1
  | free _ hoffered => exact hnamespaced.offered hoffered

/-- What a request takes for its own, no file has. -/
theorem unreferenced_of_claims (hnamespaced : Namespaced provider)
    (h : Claims provider (ownership provider) organizationId key none s) : Unreferenced s key := by
  cases h with
  | drawn object hok => exact hok.2
  | free hinv hoffered hfree =>
    intro file hm hkey
    obtain ⟨organizationId', hbelongs, hnamed⟩ := hinv.2 file hm
    -- only a file of the organization could have a key of its namespace
    obtain rfl := hnamespaced.apart key _ _ (hnamed key hkey) (hnamespaced.offered hoffered)
    have hnot := List.find?_eq_none.mp hfree file (List.mem_filter.mpr ⟨hm, hbelongs⟩)
    exact hnot (decide_eq_true hkey)

/-- A key that nobody has recorded since is still free. -/
theorem Unreferenced.leads {events : List FileEvent} (h : Unreferenced s key)
    (hleads : Leads events s t) (hevents : ∀ event ∈ events, event.records key = false) :
    Unreferenced t key := by
  intro file hm hkey
  rcases hleads.recorded file hm with hm | hm
  · exact h file hm hkey
  · exact absurd hkey (of_decide_eq_false (hevents _ hm))

theorem Verified.unreferenced (hnamespaced : Namespaced provider)
    (h : Was (Claims provider (ownership provider) organizationId key none) since t)
    (hfree : Unrecorded t key since) : Unreferenced t key := by
  obtain ⟨s, hs, hleads⟩ := h.leads
  exact (unreferenced_of_claims hnamespaced hs).leads hleads hfree

/-- The object that has been verified is still there, unless it has been removed since. -/
theorem Verified.preserved
    (h : Verified provider (ownership provider) organizationId key since t)
    (hthere : .removed key ∉ t.eventsSince since) : Preserved t key := by
  obtain ⟨u, ⟨s, _, rfl, events, hevents⟩, hkey, events', hevents'⟩ := h
  refine (hevents'.objects key hkey).resolve_right fun hremoved => hthere ?_
  rw [FileStore.eventsSince, (hevents.trans hevents').history, FileStore.moment, List.drop_left]
  exact List.mem_append_right _ hremoved

/-! ### The commits -/

/-- Files go, and no object does. -/
theorem Intact.mono (h : Intact t) (hfiles : ∀ file ∈ t'.files.rows, file ∈ t.files.rows)
    (hobjects : ∀ key, Preserved t key → Preserved t' key) : Intact t' := by
  intro file hm
  obtain ⟨hkey, hown, hpreserved⟩ := h file (hfiles file hm)
  exact ⟨hkey, fun other ho => hown other (hfiles other ho),
    fun key hk => hobjects key (hpreserved key hk)⟩

theorem Named.mono (h : Named provider t) (hruns : t'.runs = t.runs)
    (hfiles : ∀ file ∈ t'.files.rows, file ∈ t.files.rows) : Named provider t' := by
  intro file hm
  obtain ⟨organizationId, hbelongs, hkey⟩ := h file (hfiles file hm)
  exact ⟨organizationId, (belongsTo_congr hruns organizationId file).trans hbelongs, hkey⟩

theorem Intact.add (h : Intact t)
    (hfiles : ∀ other ∈ t'.files.rows, other = file ∨ other ∈ t.files.rows)
    (hobjects : ∀ key, Preserved t key → Preserved t' key) (hkey : file.storageKey = some key)
    (hfree : Unreferenced t key) (hobject : Preserved t key) : Intact t' := by
  intro stored hm
  rcases hfiles stored hm with rfl | hstored
  · refine ⟨Option.isSome_of_eq_some hkey, fun other ho hshared => ?_, fun key' hk => ?_⟩
    · rcases hfiles other ho with rfl | hother
      · rfl
      · exact absurd (hshared.trans hkey) (hfree other hother)
    · obtain rfl := Option.some.inj (hkey.symm.trans hk)
      exact hobjects _ hobject
  · obtain ⟨hsome, hown, hpreserved⟩ := h stored hstored
    refine ⟨hsome, fun other ho hshared => ?_, fun key' hk => hobjects key' (hpreserved key' hk)⟩
    rcases hfiles other ho with rfl | hother
    · exact absurd (hshared.symm.trans hkey) (hfree stored hstored)
    · exact hown other hother hshared

/-- An object goes that is not there, or that no file has. -/
theorem Intact.remove (h : Intact t) (hfree : t.objects key = none ∨ Unreferenced t key)
    (hfiles : t'.files = t.files) (hlost : t'.lost = t.lost)
    (hobjects : t'.objects = Function.update t.objects key none) : Intact t' := by
  intro file hm
  rw [hfiles] at hm
  obtain ⟨hsome, hown, hpreserved⟩ := h file hm
  refine ⟨hsome, fun other ho => hown other (hfiles ▸ ho), fun other ho => ?_⟩
  have hstays := hpreserved other ho
  unfold Preserved at hstays ⊢
  rw [hlost, hobjects]
  by_cases hother : other = key
  · subst hother
    rcases hfree with hnone | hfree
    · rw [Function.update_self, ← hnone]
      exact hstays
    · exact absurd ho (hfree file hm)
  · rw [Function.update_of_ne hother]
    exact hstays

variable {L : Set FileLock} {label : FileCommit}

/-- The object of a file goes after its record has gone. -/
theorem unreferenced_of_found (hwas : Was (Claims provider (ownership provider) organizationId key
    (some file)) since t) (hfree : Unrecorded t key since)
    (hdeleted : .deleted file ∈ t.eventsSince since) : Unreferenced t key := by
  obtain ⟨s, hs, hleads⟩ := hwas.leads
  cases hs with
  | found hinv hm hkey =>
    intro other hother hshared
    rcases hleads.recorded other hother with hother' | hrecorded
    · -- no other file had the key
      obtain rfl := (hinv.1 file hm).2.1 other hother' (hshared.trans hkey.symm)
      rcases hleads.deleted other hdeleted with hgone | hrecorded
      · exact hgone hother
      · exact absurd hshared (of_decide_eq_false (hfree _ hrecorded))
    · exact absurd hshared (of_decide_eq_false (hfree _ hrecorded))

/-- **A change whose key has been left alone keeps every file its object.** -/
theorem FileChange.intact (hnamespaced : Namespaced provider)
    (h : FileChange provider (ownership provider) L t label t') (hinv : Intact t)
    (hok : Undisturbed provider label t) : Intact t' := by
  cases h with
  | @added _ _ file key since _ hlabel hkey hverified =>
    have hquiet : Undisturbed provider (.finalized file since) t := by
      rcases hlabel with rfl | rfl <;> exact hok
    obtain ⟨hfree, hthere⟩ := hquiet key hkey
    obtain ⟨u, hwas, -, hevolves⟩ := id hverified
    exact Intact.add hinv (fun other hm => Table.mem_add hm) (fun _ hk => hk) hkey
      (Verified.unreferenced hnamespaced (hwas.evolves hevolves) hfree) (hverified.preserved hthere)
  | deleted => exact Intact.mono hinv (fun _ hm => List.mem_of_mem_filter hm) fun _ hk => hk
  | repaired =>
    unfold setUsage
    split <;> exact Intact.mono hinv (fun _ hm => hm) fun _ hk => hk
  | @removed organizationId key record since hwas =>
    refine Intact.remove hinv (hok.imp id fun ⟨hfree, hdeleted⟩ => ?_) rfl rfl rfl
    cases record with
    | none => exact Verified.unreferenced hnamespaced hwas hfree
    | some file => exact unreferenced_of_found hwas hfree (hdeleted file rfl)
  | saved object => exact Intact.mono hinv (fun _ hm => hm) (keeps_put t _ object)
  | objects hkeeps => exact Intact.mono hinv (fun _ hm => hm) hkeeps

theorem FileChange.named (hnamespaced : Namespaced provider)
    (h : FileChange provider (ownership provider) L t label t') (hinv : Named provider t) :
    Named provider t' := by
  have hruns := h.evolves.runs
  cases h with
  | @added _ organization file key _ _ _ hkey hverified _ hfile =>
    obtain ⟨u, hwas, -⟩ := hverified
    obtain ⟨s, hs, -⟩ := hwas.leads
    have hnamespace := namespace_of_claims hnamespaced hs
    intro other hm
    rcases Table.mem_add hm with rfl | hm
    · refine ⟨organization.id, hfile, fun key' hk => ?_⟩
      obtain rfl := Option.some.inj (hkey.symm.trans hk)
      exact hnamespace
    · exact hinv other hm
  | deleted => exact Named.mono hinv rfl fun _ hm => List.mem_of_mem_filter hm
  | repaired =>
    unfold setUsage
    split <;> exact Named.mono hinv rfl fun _ hm => hm
  | removed | saved | objects => exact Named.mono hinv rfl fun _ hm => hm

theorem fits_ownership (hnamespaced : Namespaced provider) :
    Fits provider (ownership provider) where
  same := rfl
  evolves h := h
  commits {label L t t'} h hinv hok := by
    refine ⟨⟨h.intact hnamespaced hinv.1 hok, h.named hnamespaced hinv.2⟩, h.evolves,
      fun _ hk => h.same hk, ?_⟩
    rintro key since rfl hobject
    cases h with
    | added _ hlabel => rcases hlabel with hlabel | hlabel <;> cases hlabel
    | removed hwas =>
      have hfree := (hok.resolve_left fun hnone => by simp [hnone] at hobject).1
      exact Verified.unreferenced hnamespaced hwas hfree

end

/-! ### Every run -/

/-- What client `n` is about to do removes no object of a file, unless it is to delete that file. -/
def Harmless (w : World FileStore FileLock FileCommit) (n : ℕ) : Prop :=
  ∀ key since change next, w.program n = .effect (.removed key none since) change next →
    (w.state.objects key).isSome = true → Unreferenced w.state key

/-- An organization with two runs. -/
def twoRuns : World FileStore FileLock FileCommit where
  state := { oneRun.state with
    runs := oneRun.state.runs.add { id := 2, organizationId := 1, createdAt := 0 } }

theorem idle_twoRuns : Idle twoRuns := fun _ => rfl

theorem namespaced_shelf : Namespaced shelf where
  apart key organizationId organizationId' h h' :=
    (of_decide_eq_true h).trans (of_decide_eq_true h').symm
  listed objects organizationId cutoff limit key hkey := by
    have hfilter := (List.mem_filter.mp (List.mem_of_mem_take hkey)).2
    exact decide_eq_true (of_decide_eq_true hfilter).1

def finalizing (runId fileId : UUID) (sizeBytes : Nat) : StorageRequest × Outage :=
  (.finalize member runId {
    storageKey := "a", sourceType := .bankTransactions, originalFilename := "file.csv"
    contentType := "text/csv", sizeBytes, checksumSha256 := "", fileId, now := 0 },
    fun _ => .answered)

/-- The object `a` of size 3 is put. -/
def filled : List (Action (StorageRequest × Outage)) :=
  [.begin 0 (.put "a" (object 3), fun _ => .answered), .advance 0]

end ReconcileFlow.Storage
