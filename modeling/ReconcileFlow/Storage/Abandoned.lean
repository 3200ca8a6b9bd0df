import Mathlib.Data.Set.Card
import ReconcileFlow.Storage.Local
import ReconcileFlow.Storage.Maintenance
import ReconcileFlow.Support.Alone
import ReconcileFlow.Support.Repetition

/-!
# Storage — Abandoned

What the cleanup of abandoned uploads leaves behind, with either provider and while nothing else is
at work.  Both listings break off before the references are looked at: the local one after the first
old objects of the organization, that of S3 after the first keys with its prefix.  So objects that
are referenced can fill every batch.

A run deletes nothing only if there is nothing to delete, if and only if an abandoned object is among
the first ones of a listing; and repeating the run removes all abandoned objects if and only if that
is so as long as there are any (`cleanUp_iff`).
-/

namespace ReconcileFlow.Storage

open Support Support.Program Api
open Persistence hiding SourceFileRecord sourceFileSchema

/-! ### Keys -/

def isHexDigit (c : Char) : Bool := ('0' ≤ c && c ≤ '9') || ('a' ≤ c && c ≤ 'f')

/-- `[0-9a-f]{32}\.(?:csv|xlsx)`. -/
def isObjectName (key : List Char) : Bool :=
  (key.take 32).length == 32 && (key.take 32).all isHexDigit &&
    (key.drop 32 == ".csv".toList || key.drop 32 == ".xlsx".toList)

/-- `_STORAGE_KEY.fullmatch(key)`. -/
def isStorageKey (key : String) : Bool :=
  let characters := key.toList
  isObjectName characters ||
    (characters.take 16).length == 16 && (characters.take 16).all isHexDigit &&
      (characters.drop 16).take 1 == ['-'] && isObjectName (characters.drop 17)

/-- `f"{prefix}-"` of the organization. -/
def organizationPrefix (library : Library) (organizationId : UUID) : String :=
  LocalFileStorage.namespacePrefix library (some organizationId.format)

def hasPrefix (library : Library) (organizationId : UUID) (key : String) : Bool :=
  (organizationPrefix library organizationId).toList.isPrefixOf key.toList

/-! ### Providers -/

inductive ProviderKind
  | localDisk
  | s3

/-- The object of the key is old enough to be a candidate. -/
def isOld (library : Library) (objects : Objects) (organizationId : UUID) (cutoff : Instant)
    (key : String) : Bool :=
  hasPrefix library organizationId key && isStorageKey key &&
    (objects key).any fun object => decide (object.lastModified ≤ cutoff)

/-- `LocalFileStorage.list_older_than`, whose directory has the entries `names`. -/
def localListOlderThan (library : Library) (names : List String) (objects : Objects)
    (organizationId : UUID) (cutoff : Instant) (limit : Nat) : List String :=
  (names.filter (isOld library objects organizationId cutoff)).take limit

/-- `S3FileStorage.list_older_than`, whose bucket has the keys `names`: `list_objects_v2` gives one
page of at most 1000 keys. -/
def s3ListOlderThan (library : Library) (names : List String) (objects : Objects)
    (organizationId : UUID) (cutoff : Instant) (limit : Nat) : List String :=
  let page := (names.filter fun key =>
    (objects key).isSome && hasPrefix library organizationId key).take (min limit 1000)
  page.filter fun key => isStorageKey key &&
    (objects key).any fun object => decide (object.lastModified ≤ cutoff)

/-- The provider, whose entries come in the order of `names`. -/
def ProviderKind.provider (kind : ProviderKind) (maxSizeBytes : Nat) (library : Library)
    (names : Objects → List String) : StorageProvider where
  maxSizeBytes
  validKey := isStorageKey
  belongsToNamespace key organizationId := hasPrefix library organizationId key
  listOlderThan objects :=
    match kind with
    | .localDisk => localListOlderThan library (names objects) objects
    | .s3 => s3ListOlderThan library (names objects) objects

/-! ### What counts against the limit -/

section

variable (kind : ProviderKind) (library : Library) (names : Objects → List String)

/-- The entries of an organization that count against the limit, in the provider's order. -/
def counted (objects : Objects) (organizationId : UUID) (cutoff : Instant) : List String :=
  match kind with
  | .localDisk => (names objects).filter (isOld library objects organizationId cutoff)
  | .s3 => (names objects).filter fun key =>
    (objects key).isSome && hasPrefix library organizationId key

/-- How many of them are looked at. -/
def pageSize (limit : Nat) : Nat :=
  match kind with
  | .localDisk => limit
  | .s3 => min limit 1000

/-- A key is listed if it is old, and one of the first that count. -/
theorem mem_listOlderThan {maxSizeBytes : Nat} {objects : Objects} {organizationId : UUID}
    {cutoff : Instant} {limit : Nat} {key : String} :
    key ∈ (kind.provider maxSizeBytes library names).listOlderThan objects organizationId cutoff
        limit ↔
      isOld library objects organizationId cutoff key = true ∧
        ∃ i < pageSize kind limit,
          (counted kind library names objects organizationId cutoff)[i]? = some key := by
  have htake {keys : List String} {n : Nat} :
      key ∈ keys.take n ↔ ∃ i < n, keys[i]? = some key := by
    rw [List.mem_iff_getElem?]
    refine exists_congr fun i => ?_
    rw [List.getElem?_take]
    split
    · next h => exact (and_iff_right h).symm
    · next h => exact iff_of_false nofun fun h' => h h'.1
  cases kind with
  | localDisk =>
    refine htake.trans ⟨?_, And.right⟩
    rintro ⟨i, hi, hkey⟩
    exact ⟨(List.mem_filter.mp (List.mem_of_getElem? hkey)).2, i, hi, hkey⟩
  | s3 =>
    refine List.mem_filter.trans ?_
    rw [htake]
    constructor
    · rintro ⟨⟨i, hi, hkey⟩, hvalid⟩
      have hnamespace := (List.mem_filter.mp (List.mem_of_getElem? hkey)).2
      refine ⟨?_, i, hi, hkey⟩
      simp only [isOld, Bool.and_eq_true] at hvalid hnamespace ⊢
      exact ⟨⟨hnamespace.2, hvalid.1⟩, hvalid.2⟩
    · rintro ⟨hold, i, hi, hkey⟩
      refine ⟨⟨i, hi, hkey⟩, ?_⟩
      simp only [isOld, Bool.and_eq_true] at hold ⊢
      exact ⟨hold.1.2, hold.2⟩

end

/-! ### A run of the cleanup -/

/-- The objects of the keys are gone. -/
def removeObjects (store : FileStore) (keys : List String) : FileStore :=
  { store with
    objects := fun key => if key ∈ keys then none else store.objects key
    history := store.history ++ keys.map .removed }

@[simp] theorem removeObjects_nil (store : FileStore) : removeObjects store [] = store := by
  simp [removeObjects]

theorem removeObjects_cons (store : FileStore) (key : String) (keys : List String) :
    removeObjects store (key :: keys) =
      removeObjects { store with
        objects := Function.update store.objects key none
        history := store.history ++ [.removed key] } keys := by
  unfold removeObjects
  congr 1
  · funext other
    by_cases hkey : other = key
    · simp [hkey]
    · by_cases hmem : other ∈ keys <;> simp [hkey, hmem]
  · simp

/-- Nothing fails. -/
def noOutage : Outage := fun _ => .answered

section

variable {provider : StorageProvider}

variable (provider) in
/-- The loop over the candidates removes those that are not referenced. -/
theorem respond_sweep (referenced : List String) (since : Nat) {keys : List String}
    (hvalid : ∀ key ∈ keys, provider.validKey key = true) (store : FileStore) :
    respond (sweep provider noOutage referenced since true keys) ⟨store, id⟩ =
      (.ok ((keys.filter (· ∉ referenced)).length, (keys.filter (· ∉ referenced)).length),
        ⟨removeObjects store (keys.filter (· ∉ referenced)), id⟩) := by
  induction keys generalizing store with
  | nil => simp [sweep]
  | cons key keys ih =>
    have hrest := fun other hother => hvalid other (List.mem_cons_of_mem _ hother)
    by_cases hreferenced : key ∈ referenced
    · simp [sweep, hreferenced, ih hrest]
    · have hkey := hvalid key List.mem_cons_self
      simp [sweep, hreferenced, storageDelete, noOutage, respond_bind, hkey, ih hrest,
        removeObjects_cons]

variable (cleanup : AbandonedUploadCleanup) (provider) (now : Instant)

/-- What a run lists of an organization and does not find referenced. -/
def unreferenced (store : FileStore) (organizationId : UUID) : List String :=
  (provider.listOlderThan store.objects organizationId (now - hours cleanup.retentionHours)
    cleanup.batchSize).filter (· ∉ store.referencedStorageKeys organizationId)

/-- What a run leaves, and how many objects it deletes, one organization after the other. -/
def cleanUp : List UUID → FileStore → FileStore × Nat
  | [], store => (store, 0)
  | organizationId :: organizationIds, store =>
    let keys := unreferenced provider cleanup now store organizationId
    let rest := cleanUp organizationIds (removeObjects store keys)
    (rest.1, keys.length + rest.2)

variable (hvalid : ∀ objects organizationId cutoff limit,
  ∀ key ∈ provider.listOlderThan objects organizationId cutoff limit, provider.validKey key = true)

include hvalid

theorem respond_runOrganizations (organizationIds : List UUID) (store : FileStore) :
    respond (cleanup.runOrganizations provider noOutage false now organizationIds) ⟨store, id⟩ =
      (.ok {
        eligibleObjects := (cleanUp provider cleanup now organizationIds store).2
        deletedObjects := (cleanUp provider cleanup now organizationIds store).2
        dryRun := false }, ⟨(cleanUp provider cleanup now organizationIds store).1, id⟩) := by
  induction organizationIds generalizing store with
  | nil => rfl
  | cons organizationId organizationIds ih =>
    have hsweep := respond_sweep provider (store.referencedStorageKeys organizationId)
      store.moment
      (hvalid store.objects organizationId (now - hours cleanup.retentionHours) cleanup.batchSize)
      store
    simp only [AbandonedUploadCleanup.runOrganizations, storageList, readReferenced, close, respond_bind,
      respond_ensure, respond_lift, alone_get, alone_abort, Connection.view_begin, Connection.rollback]
    simp only [show noOutage (.list organizationId) = .answered from rfl, if_true, Bool.not_false,
      Connection.view_begin, hsweep, ih, respond_pure, cleanUp, unreferenced]

theorem respond_run (store : FileStore) :
    respond (cleanup.run provider noOutage false now) ⟨store, id⟩ =
      (.ok {
        eligibleObjects := (cleanUp provider cleanup now (store.organizations.rows.map (·.id)) store).2
        deletedObjects := (cleanUp provider cleanup now (store.organizations.rows.map (·.id)) store).2
        dryRun := false },
        ⟨(cleanUp provider cleanup now (store.organizations.rows.map (·.id)) store).1, id⟩) := by
  simp only [AbandonedUploadCleanup.run, close, respond_bind, respond_lift, alone_get, alone_abort,
    Connection.view_begin, Connection.rollback]
  exact respond_runOrganizations provider cleanup now hvalid _ store

end

section

variable {provider : StorageProvider} {cleanup : AbandonedUploadCleanup} {now : Instant}
  {organizationIds : List UUID} {store : FileStore}

theorem cleanUp_of_nothing
    (h : ∀ organizationId ∈ organizationIds,
      unreferenced provider cleanup now store organizationId = []) :
    cleanUp provider cleanup now organizationIds store = (store, 0) := by
  induction organizationIds with
  | nil => rfl
  | cons organizationId organizationIds ih =>
    obtain ⟨hfirst, hrest⟩ := List.forall_mem_cons.mp h
    simp [cleanUp, hfirst, ih hrest]

/-- A run deletes nothing if and only if it finds nothing. -/
theorem cleanUp_eq_zero_iff :
    (cleanUp provider cleanup now organizationIds store).2 = 0 ↔
      ∀ organizationId ∈ organizationIds,
        unreferenced provider cleanup now store organizationId = [] := by
  refine ⟨fun h => ?_, fun h => by rw [cleanUp_of_nothing h]⟩
  induction organizationIds with
  | nil => exact List.forall_mem_nil _
  | cons organizationId organizationIds ih =>
    obtain ⟨hfirst, hrest⟩ := Nat.add_eq_zero_iff.mp h
    have hnil := List.length_eq_zero_iff.mp hfirst
    refine List.forall_mem_cons.mpr ⟨hnil, ih ?_⟩
    rw [hnil, removeObjects_nil] at hrest
    exact hrest

/-- Objects go, and nothing else changes. -/
structure Shrinks (store after : FileStore) : Prop where
  rest : after = { store with objects := after.objects, history := after.history }
  objects : ∀ key, after.objects key = store.objects key ∨ after.objects key = none

theorem Shrinks.refl (store : FileStore) : Shrinks store store := ⟨rfl, fun _ => .inl rfl⟩

theorem Shrinks.trans {between after : FileStore} (h : Shrinks store between)
    (h' : Shrinks between after) : Shrinks store after := by
  refine ⟨?_, fun key => ?_⟩
  · rw [h'.rest, h.rest]
  · rcases h'.objects key with hkey | hkey
    · rw [hkey]
      exact h.objects key
    · exact .inr hkey

theorem shrinks_removeObjects (keys : List String) : Shrinks store (removeObjects store keys) := by
  refine ⟨rfl, fun key => ?_⟩
  by_cases hkey : key ∈ keys
  · exact .inr (if_pos hkey)
  · exact .inl (if_neg hkey)

theorem shrinks_cleanUp :
    Shrinks store (cleanUp provider cleanup now organizationIds store).1 := by
  induction organizationIds generalizing store with
  | nil => exact .refl store
  | cons organizationId organizationIds ih => exact (shrinks_removeObjects _).trans ih

/-- What the first run finds is gone after it. -/
theorem cleanUp_removes {organizationId : UUID} (horganization : organizationId ∈ organizationIds)
    {key : String} (hkey : key ∈ unreferenced provider cleanup now store organizationId) :
    ∃ found, (∃ id ∈ organizationIds, found ∈ unreferenced provider cleanup now store id) ∧
      (cleanUp provider cleanup now organizationIds store).1.objects found = none := by
  induction organizationIds with
  | nil => exact absurd horganization List.not_mem_nil
  | cons first organizationIds ih =>
    cases hfirst : unreferenced provider cleanup now store first with
    | cons found others =>
      refine ⟨found, ⟨first, List.mem_cons_self, hfirst ▸ List.mem_cons_self⟩, ?_⟩
      have hgone : (removeObjects store
          (unreferenced provider cleanup now store first)).objects found = none :=
        if_pos (hfirst ▸ List.mem_cons_self)
      have hshrinks : Shrinks (removeObjects store (unreferenced provider cleanup now store first))
          (cleanUp provider cleanup now organizationIds (removeObjects store
            (unreferenced provider cleanup now store first))).1 := shrinks_cleanUp
      rcases hshrinks.objects found with h | h
      · exact h.trans hgone
      · exact h
    | nil =>
      rcases List.mem_cons.mp horganization with rfl | hrest
      · rw [hfirst] at hkey
        exact absurd hkey List.not_mem_nil
      · obtain ⟨found, ⟨id, hid, hfound⟩, hgone⟩ := ih hrest
        refine ⟨found, ⟨id, List.mem_cons_of_mem _ hid, hfound⟩, ?_⟩
        rw [cleanUp, hfirst, removeObjects_nil]
        exact hgone

end

/-! ### What is left of abandoned objects -/

section

variable (kind : ProviderKind) (maxSizeBytes : Nat) (library : Library)
  (names : Objects → List String) (cleanup : AbandonedUploadCleanup) (now : Instant)

/-- No organization has an old object to which no file refers. -/
def Clean (store : FileStore) : Prop :=
  ∀ organization ∈ store.organizations.rows, ∀ key,
    isOld library store.objects organization.id (now - hours cleanup.retentionHours) key = true →
      ∃ file ∈ store.files.rows, file.storageKey = some key

/-- Unless nothing is abandoned, an old object that its organization does not refer to is among the
first entries that a listing looks at. -/
def Progresses (store : FileStore) : Prop :=
  Clean library cleanup now store ∨
    ∃ organization ∈ store.organizations.rows, ∃ i < pageSize kind cleanup.batchSize, ∃ key,
      (counted kind library names store.objects organization.id
        (now - hours cleanup.retentionHours))[i]? = some key ∧
      isOld library store.objects organization.id (now - hours cleanup.retentionHours) key = true ∧
      key ∉ store.referencedStorageKeys organization.id

/-- The run without dry run, while nothing else is at work and nothing fails. -/
def runAlone (store : FileStore) : Except Failure OrphanCleanupResult × Connection FileStore :=
  respond (cleanup.run (kind.provider maxSizeBytes library names) noOutage false now) ⟨store, id⟩

/-- The run ends and has deleted nothing. -/
def DeletesNothing (store : FileStore) : Prop :=
  ∃ result, (runAlone kind maxSizeBytes library names cleanup now store).1 = .ok result ∧
    result.deletedObjects = 0

/-- What a run leaves. -/
def left (store : FileStore) : FileStore :=
  (runAlone kind maxSizeBytes library names cleanup now store).2.committed

end

section

variable {kind : ProviderKind} {maxSizeBytes : Nat} {library : Library}
  {names : Objects → List String} {cleanup : AbandonedUploadCleanup} {now : Instant}
  {store : FileStore}

theorem isStorageKey_of_isOld {objects : Objects} {organizationId : UUID} {cutoff : Instant}
    {key : String} (h : isOld library objects organizationId cutoff key = true) :
    isStorageKey key = true := by
  simp only [isOld, Bool.and_eq_true] at h
  exact h.1.2

theorem validKey_of_listed (objects : Objects) (organizationId : UUID) (cutoff : Instant)
    (limit : Nat) : ∀ key ∈ (kind.provider maxSizeBytes library names).listOlderThan objects
      organizationId cutoff limit, (kind.provider maxSizeBytes library names).validKey key = true :=
  fun _ hkey => isStorageKey_of_isOld ((mem_listOlderThan kind library names).mp hkey).1

theorem deletesNothing_iff : DeletesNothing kind maxSizeBytes library names cleanup now store ↔
    ∀ organization ∈ store.organizations.rows,
      unreferenced (kind.provider maxSizeBytes library names) cleanup now store organization.id =
        [] := by
  unfold DeletesNothing runAlone
  rw [respond_run _ cleanup now validKey_of_listed]
  constructor
  · rintro ⟨_, hresult, hzero⟩
    cases hresult
    exact List.forall_mem_map.mp (cleanUp_eq_zero_iff.mp hzero)
  · intro h
    exact ⟨_, rfl, cleanUp_eq_zero_iff.mpr (List.forall_mem_map.mpr h)⟩

theorem left_eq : left kind maxSizeBytes library names cleanup now store =
    (cleanUp (kind.provider maxSizeBytes library names) cleanup now
      (store.organizations.rows.map (·.id)) store).1 := by
  unfold left runAlone
  rw [respond_run _ cleanup now validKey_of_listed]

theorem shrinks_left : Shrinks store (left kind maxSizeBytes library names cleanup now store) := by
  rw [left_eq]
  exact shrinks_cleanUp

theorem mem_unreferenced {organizationId : UUID} {key : String} :
    key ∈ unreferenced (kind.provider maxSizeBytes library names) cleanup now store organizationId ↔
      (∃ i < pageSize kind cleanup.batchSize,
        (counted kind library names store.objects organizationId
          (now - hours cleanup.retentionHours))[i]? = some key) ∧
      isOld library store.objects organizationId (now - hours cleanup.retentionHours) key = true ∧
      key ∉ store.referencedStorageKeys organizationId := by
  rw [unreferenced, List.mem_filter, mem_listOlderThan]
  simp only [decide_eq_true_eq]
  exact ⟨fun ⟨⟨hold, hcounted⟩, hnot⟩ => ⟨hcounted, hold, hnot⟩,
    fun ⟨hcounted, hold, hnot⟩ => ⟨⟨hold, hcounted⟩, hnot⟩⟩

variable (maxSizeBytes) in
theorem progresses_iff : Progresses kind library names cleanup now store ↔
    Clean library cleanup now store ∨
      ¬ DeletesNothing kind maxSizeBytes library names cleanup now store := by
  refine or_congr_right ?_
  rw [deletesNothing_iff]
  constructor
  · rintro ⟨organization, horganization, i, hi, key, hcounted, hold, hnot⟩ hnothing
    have hkey : key ∈ unreferenced (kind.provider maxSizeBytes library names) cleanup now store
        organization.id := mem_unreferenced.mpr ⟨⟨i, hi, hcounted⟩, hold, hnot⟩
    rw [hnothing organization horganization] at hkey
    exact absurd hkey List.not_mem_nil
  · intro hsome
    obtain ⟨organization, hnot⟩ := not_forall.mp hsome
    obtain ⟨horganization, hne⟩ := Classical.not_imp.mp hnot
    obtain ⟨key, hkey⟩ := List.exists_mem_of_ne_nil _ hne
    obtain ⟨⟨i, hi, hcounted⟩, hold, hnot⟩ := mem_unreferenced.mp hkey
    exact ⟨organization, horganization, i, hi, key, hcounted, hold, hnot⟩

/-! ### Repeated runs -/

/-- A run that finds nothing changes nothing. -/
theorem left_of_deletesNothing (h : DeletesNothing kind maxSizeBytes library names cleanup now store) :
    left kind maxSizeBytes library names cleanup now store = store := by
  rw [left_eq, cleanUp_of_nothing (List.forall_mem_map.mpr (deletesNothing_iff.mp h))]

/-- What is clean stays clean when objects go. -/
theorem Clean.shrinks {after : FileStore} (h : Clean library cleanup now store)
    (hshrinks : Shrinks store after) : Clean library cleanup now after := by
  rw [hshrinks.rest]
  intro organization horganization key hold
  refine h organization horganization key ?_
  simp only [isOld, Bool.and_eq_true] at hold ⊢
  refine ⟨hold.1, ?_⟩
  rcases hshrinks.objects key with hkey | hkey
  · rw [← hkey]
    exact hold.2
  · rw [hkey] at hold
    exact absurd hold.2 Bool.false_ne_true

/-- The keys that have objects. -/
def present (store : FileStore) : Set String := {key | (store.objects key).isSome = true}

theorem Shrinks.present {after : FileStore} (h : Shrinks store after) :
    present after ⊆ present store := by
  intro key hkey
  rcases h.objects key with h | h
  · exact (congrArg Option.isSome h).symm.trans hkey
  · exact absurd ((congrArg Option.isSome h).symm.trans hkey) Bool.false_ne_true

/-- A run that deletes something leaves fewer objects. -/
theorem card_left_lt (hfinite : (present store).Finite)
    (h : ¬ DeletesNothing kind maxSizeBytes library names cleanup now store) :
    (present (left kind maxSizeBytes library names cleanup now store)).ncard <
      (present store).ncard := by
  rw [deletesNothing_iff] at h
  obtain ⟨organization, hnot⟩ := not_forall.mp h
  obtain ⟨horganization, hne⟩ := Classical.not_imp.mp hnot
  obtain ⟨key, hkey⟩ := List.exists_mem_of_ne_nil _ hne
  obtain ⟨found, ⟨id, -, hfound⟩, hgone⟩ :=
    cleanUp_removes (List.mem_map_of_mem horganization) hkey
  have hpresent : found ∈ present store := by
    have hold := (mem_unreferenced.mp hfound).2.1
    simp only [isOld, Bool.and_eq_true] at hold
    exact Option.isSome_of_any hold.2
  refine Set.ncard_lt_ncard ⟨shrinks_left.present, fun hsubset => ?_⟩ hfinite
  have hstays := hsubset hpresent
  rw [left_eq] at hstays
  exact absurd ((congrArg Option.isSome hgone).symm.trans hstays) Bool.false_ne_true

theorem shrinks_iterate (n : ℕ) :
    Shrinks store ((left kind maxSizeBytes library names cleanup now)^[n] store) :=
  iterate_invariant (Shrinks store) (.refl store) (fun _ h => h.trans shrinks_left) n

/-- **What the cleanup leaves**: a run that deletes nothing has left no abandoned object if and only
if, unless there is none, one of them is among the first entries that the listing of an organization
looks at; and repeated runs remove all abandoned objects if and only if each run finds it so. -/
theorem cleanUp_iff (kind : ProviderKind) (maxSizeBytes : Nat) (library : Library)
    (names : Objects → List String) (cleanup : AbandonedUploadCleanup) (now : Instant)
    (store : FileStore) (hfinite : {key | (store.objects key).isSome = true}.Finite) :
    ((DeletesNothing kind maxSizeBytes library names cleanup now store →
        Clean library cleanup now store) ↔ Progresses kind library names cleanup now store) ∧
    ((∃ n, Clean library cleanup now
        ((left kind maxSizeBytes library names cleanup now)^[n] store)) ↔
      ∀ n, Progresses kind library names cleanup now
        ((left kind maxSizeBytes library names cleanup now)^[n] store)) := by
  refine ⟨?_, ?_, ?_⟩
  · rw [progresses_iff maxSizeBytes]
    exact imp_iff_not_or.trans or_comm
  · rintro ⟨n, hclean⟩ m
    rw [progresses_iff maxSizeBytes]
    by_contra hnot
    obtain ⟨hdirty, hnothing⟩ := not_or.mp hnot
    -- a run that has deleted nothing is repeated for ever
    have hfixed := left_of_deletesNothing (not_not.mp hnothing)
    rcases Nat.le_total m n with hmn | hnm
    · rw [iterate_of_fixed hfixed hmn] at hclean
      exact hdirty hclean
    · obtain ⟨k, rfl⟩ := Nat.exists_eq_add_of_le' hnm
      rw [Function.iterate_add_apply] at hdirty
      exact hdirty (hclean.shrinks (shrinks_iterate k))
  · intro hprogresses
    refine exists_iterate_of_decreasing _ (fun store => (present store).ncard) fun n hdirty => ?_
    rw [Function.iterate_succ_apply']
    refine card_left_lt (hfinite.subset (shrinks_iterate n).present) ?_
    exact ((progresses_iff maxSizeBytes).mp (hprogresses n)).resolve_left hdirty

end

/-! ### A full batch -/

/-- The digest of the id of the organization. -/
def digestLibrary : Library :=
  { LocalFileStorage.plainLibrary with
    sha256 := fun _ => "7ac1b8d7010bb6cd3a3e84e7f90136b880bbc899e428ece49333372911ab9052" }

def referencedKey : String := "7ac1b8d7010bb6cd-00000000000000000000000000000000.csv"

def abandonedKey : String := "7ac1b8d7010bb6cd-00000000000000000000000000000001.csv"

def crowdedRun : ReconciliationRunRecord where
  id := 2
  organizationId := 1
  createdAt := 0

/-- An organization with a file, and with an object to which no file refers. -/
def crowdedStore : FileStore where
  organizations := ⟨[{ id := 1, slug := "acme" }], by decide⟩
  runs := ⟨[crowdedRun], by decide⟩
  jobs := .empty
  files := ⟨[{
    id := 3
    runId := 2
    sourceType := .bankTransactions
    originalFilename := "bank.csv"
    checksumSha256 := ""
    sizeBytes := 3
    storageKey := some referencedKey
    createdAt := 0 }], by decide⟩
  objects key :=
    if key = referencedKey ∨ key = abandonedKey then
      some { sizeBytes := 3, lastModified := 0, inspect := fun _ => none }
    else none

theorem crowdedStore_finite : {key | (crowdedStore.objects key).isSome = true}.Finite := by
  refine (Set.toFinite {referencedKey, abandonedKey}).subset fun key hkey => ?_
  by_contra hnot
  exact absurd hkey (by simp [crowdedStore, show ¬ (key = referencedKey ∨ key = abandonedKey) from hnot])

theorem cleanUp_iff_crowded :
    ((DeletesNothing .s3 1024 digestLibrary (fun _ => [referencedKey, abandonedKey])
        ⟨1, 2, by decide⟩ (hours 2) crowdedStore →
        Clean digestLibrary ⟨1, 2, by decide⟩ (hours 2) crowdedStore) ↔
      Progresses .s3 digestLibrary (fun _ => [referencedKey, abandonedKey]) ⟨1, 2, by decide⟩
        (hours 2) crowdedStore) ∧
    ((∃ n, Clean digestLibrary ⟨1, 2, by decide⟩ (hours 2)
        ((left .s3 1024 digestLibrary (fun _ => [referencedKey, abandonedKey]) ⟨1, 2, by decide⟩
          (hours 2))^[n] crowdedStore)) ↔
      ∀ n, Progresses .s3 digestLibrary (fun _ => [referencedKey, abandonedKey])
        ⟨1, 2, by decide⟩ (hours 2)
        ((left .s3 1024 digestLibrary (fun _ => [referencedKey, abandonedKey]) ⟨1, 2, by decide⟩
          (hours 2))^[n] crowdedStore)) :=
  cleanUp_iff _ _ _ _ _ _ _ crowdedStore_finite

theorem organizationPrefix_digest (organizationId : UUID) :
    organizationPrefix digestLibrary organizationId = "7ac1b8d7010bb6cd-" := by
  have hne : organizationId.format ≠ "" := by
    intro h
    have hlength := congrArg String.length h
    simp [UUID.format] at hlength
  have hfilter : (some organizationId.format).filter (· ≠ "") = some organizationId.format := by
    simp [hne]
  unfold organizationPrefix LocalFileStorage.namespacePrefix
  rw [hfilter]
  show String.ofList ((digestLibrary.sha256 []).toList.take 16) ++ "-" = _
  decide +kernel

/-- Both objects are old. -/
theorem isOld_crowded {key : String} (h : key = referencedKey ∨ key = abandonedKey) :
    isOld digestLibrary crowdedStore.objects 1 (hours 2 - hours 1) key = true := by
  have hnamespace : hasPrefix digestLibrary 1 key = true := by
    unfold hasPrefix
    rw [organizationPrefix_digest]
    rcases h with rfl | rfl <;> decide +kernel
  have hobject : crowdedStore.objects key =
      some { sizeBytes := 3, lastModified := 0, inspect := fun _ => none } := if_pos h
  have hkey : isStorageKey key = true := by
    rcases h with rfl | rfl <;> decide +kernel
  rw [isOld, hnamespace, hkey, hobject]
  decide

/-- The batch is full with an object that is referenced: the other one stays for ever. -/
theorem abandoned_object_kept :
    ¬ (DeletesNothing .localDisk 1024 digestLibrary (fun _ => [referencedKey, abandonedKey])
        ⟨1, 1, by decide⟩ (hours 2) crowdedStore →
      Clean digestLibrary ⟨1, 1, by decide⟩ (hours 2) crowdedStore) := by
  intro h
  have hnothing : DeletesNothing .localDisk 1024 digestLibrary
      (fun _ => [referencedKey, abandonedKey]) ⟨1, 1, by decide⟩ (hours 2) crowdedStore := by
    refine deletesNothing_iff.mpr fun organization horganization => ?_
    obtain rfl := List.mem_singleton.mp horganization
    refine List.eq_nil_iff_forall_not_mem.mpr fun key hkey => ?_
    obtain ⟨⟨i, hi, hcounted⟩, -, hnot⟩ := mem_unreferenced.mp hkey
    obtain rfl : i = 0 := Nat.lt_one_iff.mp hi
    have hfirst : counted .localDisk digestLibrary (fun _ => [referencedKey, abandonedKey])
        crowdedStore.objects 1 (hours 2 - hours 1) = [referencedKey, abandonedKey] := by
      rw [counted, List.filter_cons_of_pos (isOld_crowded (.inl rfl)),
        List.filter_cons_of_pos (isOld_crowded (.inr rfl)), List.filter_nil]
    rw [hfirst] at hcounted
    obtain rfl := Option.some.inj hcounted
    exact hnot (by decide +kernel)
  obtain ⟨file, hfile, hreferenced⟩ :=
    h hnothing _ (List.mem_singleton.mpr rfl) abandonedKey (isOld_crowded (.inr rfl))
  obtain rfl := List.mem_singleton.mp hfile
  exact absurd hreferenced (by decide)

end ReconcileFlow.Storage
