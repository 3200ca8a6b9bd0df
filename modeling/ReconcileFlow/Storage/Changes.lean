import ReconcileFlow.Storage.Maintenance
import ReconcileFlow.Support.Interference

/-!
# Storage — Changes

All that the requests on source files may commit, or do to the objects (`FileChange`).  No change
moves a run to another organization, nor touches the rows that its client has not locked
(`FileChange.same`).

A change comes with what the request had read, some moments before, when it decided on it (`Was`).
What has happened since is in the history (`Leads`), so the reading still holds of the present as
far as no event speaks against it.
-/

namespace ReconcileFlow.Storage

open Support Support.ReadCommitted Api
open Persistence hiding SourceFileRecord sourceFileSchema

/-! ### Rows under locks -/

/-- The run has a file of the type. -/
def hasSource (store : FileStore) (runId : UUID) (sourceType : SourceType) : Bool :=
  store.files.rows.any fun file => decide (file.runId = runId ∧ file.sourceType = sourceType)

/-- What a lock protects. -/
def SameRow : FileLock → FileStore → FileStore → Prop
  | .run _, _, _ => True
  | .organization id, s, t => s.organizations.find id = t.organizations.find id
  | .file id, s, t => s.files.find id = t.files.find id
  | .source runId sourceType, s, t =>
    hasSource s runId sourceType = false → hasSource t runId sourceType = false

theorem SameRow.refl (k : FileLock) (s : FileStore) : SameRow k s s := by
  cases k with
  | run => exact trivial
  | organization | file => rfl
  | source => exact id

theorem SameRow.trans {k : FileLock} {s t u : FileStore} (h : SameRow k s t)
    (h' : SameRow k t u) : SameRow k s u := by
  cases k with
  | run => exact trivial
  | organization | file => exact Eq.trans h h'
  | source => exact h' ∘ h

/-- Neither the id of the file is taken, nor its run's file of the type. -/
def Unclaimed (store : FileStore) (file : SourceFileRecord) : Prop :=
  store.files.find file.id = none ∧ hasSource store file.runId file.sourceType = false

theorem hasSource_eq_false {store : FileStore} {runId : UUID} {sourceType : SourceType} :
    hasSource store runId sourceType = false ↔
      ∀ file ∈ store.files.rows, ¬ (file.runId = runId ∧ file.sourceType = sourceType) := by
  simp [hasSource]

theorem rows_add_of_unclaimed {store : FileStore} {file : SourceFileRecord}
    (h : Unclaimed store file) : (store.files.add file).rows = store.files.rows ++ [file] := by
  have hsource := hasSource_eq_false.mp h.2
  refine Table.rows_add rfl (Table.find_eq_none.mp h.1) fun other hother => ?_
  have hne := hsource other hother
  simp only [sourceFileSchema]
  grind

theorem find_put_usage {organizations : Table organizationSchema}
    {organization : OrganizationRecord}
    (hfind : organizations.find organization.id = some organization) (usedBytes : Nat) (id : UUID) :
    (organizations.put { organization with storageUsedBytes := usedBytes }).find id =
      if id = organization.id then some { organization with storageUsedBytes := usedBytes }
      else organizations.find id :=
  Table.find_put (S := organizationSchema)
    (r := { organization with storageUsedBytes := usedBytes }) hfind rfl (fun _ => ⟨rfl, rfl⟩) id

/-! ### What has happened since -/

/-- The object is there, or the provider has lost it. -/
def Preserved (store : FileStore) (key : String) : Prop :=
  (store.objects key).isSome = true ∨ key ∈ store.lost

/-- The file that was recorded or deleted. -/
def FileEvent.file : FileEvent → Option SourceFileRecord
  | .recorded file | .deleted file => some file
  | .removed _ => none

/-- The events lead from one store to the other. -/
structure Leads (events : List FileEvent) (s t : FileStore) : Prop where
  runs : t.runs = s.runs
  history : t.history = s.history ++ events
  kept : ∀ file ∈ s.files.rows, file ∈ t.files.rows ∨ .deleted file ∈ events
  recorded : ∀ file ∈ t.files.rows, file ∈ s.files.rows ∨ .recorded file ∈ events
  deleted : ∀ file, .deleted file ∈ events → file ∉ t.files.rows ∨ .recorded file ∈ events
  filesOf : ∀ organizationId, (∀ event ∈ events, ∀ file ∈ event.file,
    s.belongsTo organizationId file = false) → t.filesOf organizationId = s.filesOf organizationId
  objects : ∀ key, Preserved s key → Preserved t key ∨ .removed key ∈ events

/-- The history of one store goes on to the other. -/
def Evolves (s t : FileStore) : Prop := ∃ events, Leads events s t

theorem belongsTo_congr {s t : FileStore} (h : t.runs = s.runs) (organizationId : UUID)
    (file : SourceFileRecord) :
    t.belongsTo organizationId file = s.belongsTo organizationId file := by
  unfold FileStore.belongsTo
  rw [h]

theorem Leads.trans {events events' : List FileEvent} {s t u : FileStore} (h : Leads events s t)
    (h' : Leads events' t u) : Leads (events ++ events') s u where
  runs := h'.runs.trans h.runs
  history := by rw [h'.history, h.history, List.append_assoc]
  kept file hm := by
    rcases h.kept file hm with hm | hm
    · exact (h'.kept file hm).imp id (List.mem_append_right _)
    · exact .inr (List.mem_append_left _ hm)
  recorded file hm := by
    rcases h'.recorded file hm with hm | hm
    · exact (h.recorded file hm).imp id (List.mem_append_left _)
    · exact .inr (List.mem_append_right _ hm)
  deleted file hm := by
    rcases List.mem_append.mp hm with hm | hm
    · rcases h.deleted file hm with hgone | hm
      · by_cases hin : file ∈ u.files.rows
        · rcases h'.recorded file hin with hthere | hm
          · exact absurd hthere hgone
          · exact .inr (List.mem_append_right _ hm)
        · exact .inl hin
      · exact .inr (List.mem_append_left _ hm)
    · exact (h'.deleted file hm).imp id (List.mem_append_right _)
  filesOf organizationId hothers := by
    have hfirst := h.filesOf organizationId fun event hm =>
      hothers event (List.mem_append_left _ hm)
    have hsecond := h'.filesOf organizationId fun event hm file hfile =>
      (belongsTo_congr h.runs organizationId file).trans
        (hothers event (List.mem_append_right _ hm) file hfile)
    exact hsecond.trans hfirst
  objects key hkey := by
    rcases h.objects key hkey with hkey | hm
    · exact (h'.objects key hkey).imp id (List.mem_append_right _)
    · exact .inr (List.mem_append_left _ hm)

theorem Evolves.trans {s t u : FileStore} (h : Evolves s t) (h' : Evolves t u) : Evolves s u := by
  obtain ⟨events, hevents⟩ := h
  obtain ⟨events', hevents'⟩ := h'
  exact ⟨_, hevents.trans hevents'⟩

/-- Nothing happens to the files, and no object goes. -/
theorem evolves_of_same {s t : FileStore} (hruns : t.runs = s.runs) (hfiles : t.files = s.files)
    (hhistory : t.history = s.history) (hobjects : ∀ key, Preserved s key → Preserved t key) :
    Evolves s t := by
  have hsame (organizationId : UUID) : t.filesOf organizationId = s.filesOf organizationId := by
    unfold FileStore.filesOf
    rw [hfiles, funext (belongsTo_congr hruns organizationId)]
  refine ⟨[], hruns, by rw [hhistory, List.append_nil], fun file hm => .inl (hfiles ▸ hm),
    fun file hm => .inl (hfiles ▸ hm), fun _ hm => absurd hm List.not_mem_nil,
    fun organizationId _ => hsame organizationId, fun key hkey => .inl (hobjects key hkey)⟩

theorem Evolves.refl (s : FileStore) : Evolves s s := evolves_of_same rfl rfl rfl fun _ h => h

theorem Evolves.runs {s t : FileStore} (h : Evolves s t) : t.runs = s.runs := by
  obtain ⟨events, hevents⟩ := h
  exact hevents.runs

/-- What has happened since a moment. -/
def FileStore.eventsSince (store : FileStore) (since : Nat) : List FileEvent :=
  store.history.drop since

/-- It was so at the moment `since`. -/
def Was (P : FileStore → Prop) (since : Nat) (t : FileStore) : Prop :=
  ∃ s, P s ∧ s.moment = since ∧ Evolves s t

section

variable {P : FileStore → Prop} {since : Nat} {s t : FileStore}

theorem was_now (h : P s) : Was P s.moment s := ⟨s, h, rfl, .refl s⟩

theorem Was.evolves (h : Was P since s) (hst : Evolves s t) : Was P since t := by
  obtain ⟨origin, horigin, hmoment, hevolves⟩ := h
  exact ⟨origin, horigin, hmoment, hevolves.trans hst⟩

/-- What has happened since leads from what was to what is. -/
theorem Was.leads (h : Was P since t) : ∃ s, P s ∧ Leads (t.eventsSince since) s t := by
  obtain ⟨s, hs, rfl, events, hevents⟩ := h
  have hsince : t.eventsSince s.moment = events := by
    rw [FileStore.eventsSince, hevents.history]
    exact List.drop_left
  exact ⟨s, hs, hsince ▸ hevents⟩

end

/-! ### Changes -/

/-- Every object there was is still there, or lost. -/
def Keeps (s : FileStore) (objects : Objects) (lost : List String) : Prop :=
  ∀ key, Preserved s key → (objects key).isSome = true ∨ key ∈ lost

theorem keeps_put (s : FileStore) (key : String) (object : StorageObject) :
    Keeps s (putObject key object s).objects s.lost := by
  intro other hother
  by_cases hkey : other = key
  · simp [putObject, hkey]
  · simpa [putObject, Preserved, hkey] using hother

theorem keeps_lose (s : FileStore) (key : String) :
    Keeps s (Function.update s.objects key none) (key :: s.lost) := by
  intro other hother
  by_cases hkey : other = key
  · simp [hkey]
  · simpa [Preserved, hkey] using hother

section

variable (provider : StorageProvider) (C : Contract FileStore FileLock FileCommit)

/-- The key is of the organization's namespace, or may be listed for it. -/
def Offered (organizationId : UUID) (key : String) : Prop :=
  provider.belongsToNamespace key organizationId = true ∨ ∃ objects cutoff limit,
    key ∈ provider.listOlderThan objects organizationId cutoff limit

/-- Why a request takes a key for its own: it has drawn the key for an upload, or found no file of
the organization with the key, or it has found the file that it is to delete. -/
inductive Claims (organizationId : UUID) (key : String) :
    Option SourceFileRecord → FileStore → Prop
  | drawn {s : FileStore} (object : StorageObject) : C.Ok (.saved organizationId key) s →
      Claims organizationId key none (putObject key object s)
  | free {s : FileStore} : C.Inv s → Offered provider organizationId key →
      s.findByStorageKey key organizationId = none → Claims organizationId key none s
  | found {s : FileStore} {file : SourceFileRecord} : C.Inv s → file ∈ s.files.rows →
      file.storageKey = some key → Claims organizationId key (some file) s

/-- The request has taken the key for its own, and has seen the object since. -/
def Verified (organizationId : UUID) (key : String) (since : Nat) (t : FileStore) : Prop :=
  ∃ u, Was (Claims provider C organizationId key none) since u ∧ Preserved u key ∧ Evolves u t

/-- A commit, or a call of the provider, makes the second store of `t`, under the locks `L`. -/
inductive FileChange (L : Set FileLock) (t : FileStore) : FileCommit → FileStore → Prop
  | added {label : FileCommit} {organization : OrganizationRecord} {file : SourceFileRecord}
      {key : String} {since : Nat} (audit : List SecurityAuditEventRecord) :
      label = .uploaded file since ∨ label = .finalized file since → file.storageKey = some key →
      Verified provider C organization.id key since t →
      t.organizations.find organization.id = some organization →
      t.belongsTo organization.id file = true → Unclaimed t file →
      .organization organization.id ∈ L → .file file.id ∈ L →
      .source file.runId file.sourceType ∈ L →
      FileChange L t label { t with
        files := t.files.add file
        history := t.history ++ [.recorded file]
        organizations := t.organizations.put { organization with
          storageUsedBytes := organization.storageUsedBytes + file.sizeBytes }
        securityAuditEvents := audit }
  | deleted {organization : OrganizationRecord} {file : SourceFileRecord} {since : Nat}
      (audit : List SecurityAuditEventRecord) :
      Was (fun s => file ∈ s.files.rows) since t →
      t.organizations.find organization.id = some organization →
      t.belongsTo organization.id file = true →
      .organization organization.id ∈ L → .file file.id ∈ L →
      FileChange L t (.deleted organization.id file since) { t with
        files := t.files.filter fun other => decide (other.id ≠ file.id)
        history := t.history ++ ((t.files.find file.id).map .deleted).toList
        organizations := t.organizations.put { organization with
          storageUsedBytes := organization.storageUsedBytes - file.sizeBytes }
        securityAuditEvents := audit }
  | repaired {organizationId : UUID} {usedBytes since : Nat} :
      Was (fun s => s.totalSizeForOrganization organizationId = usedBytes) since t →
      .organization organizationId ∈ L →
      FileChange L t (.repaired organizationId usedBytes since)
        (setUsage t organizationId usedBytes)
  | removed {organizationId : UUID} {key : String} {record : Option SourceFileRecord}
      {since : Nat} :
      Was (Claims provider C organizationId key record) since t →
      FileChange L t (.removed key record since) { t with
        objects := Function.update t.objects key none
        history := t.history ++ [.removed key] }
  | saved {organizationId : UUID} {key : String} (object : StorageObject) :
      FileChange L t (.saved organizationId key) (putObject key object t)
  | objects {objects : Objects} {lost : List String} : Keeps t objects lost →
      FileChange L t .other { t with objects := objects, lost := lost }

end

namespace FileChange

variable {provider : StorageProvider} {C : Contract FileStore FileLock FileCommit}
  {L : Set FileLock} {t t' : FileStore} {label : FileCommit}

theorem same (h : FileChange provider C L t label t') {k : FileLock} (hk : k ∉ L) :
    SameRow k t t' := by
  have hne {other : FileLock} (hlock : other ∈ L) : k ≠ other := fun he => hk (he ▸ hlock)
  cases k with
  | run => exact trivial
  | organization id =>
    cases h with
    | added _ _ _ _ hfind _ _ hlock =>
      exact ((find_put_usage hfind _ id).trans (if_neg fun he => hne hlock (by rw [he]))).symm
    | deleted _ _ hfind _ hlock =>
      exact ((find_put_usage hfind _ id).trans (if_neg fun he => hne hlock (by rw [he]))).symm
    | @repaired organizationId _ _ _ hlock =>
      unfold setUsage
      split
      · next organization hfind =>
        obtain rfl : organization.id = organizationId := Table.key_of_find hfind
        exact ((find_put_usage hfind _ id).trans (if_neg fun he => hne hlock (by rw [he]))).symm
      · exact Eq.refl (t.organizations.find id)
    | removed | saved | objects => exact Eq.refl (t.organizations.find id)
  | file id =>
    cases h with
    | @added _ _ file _ _ _ _ _ _ _ _ _ _ hlock =>
      have hid : id ≠ file.id := fun he => hne hlock (by rw [he])
      exact (Table.find_add_of_ne (S := sourceFileSchema) _ hid).symm
    | @deleted _ file _ _ _ _ _ _ hlock =>
      have hid : id ≠ file.id := fun he => hne hlock (by rw [he])
      refine Eq.symm ((Table.find_filter _ _ id).trans ?_)
      cases hfind : t.files.find id with
      | none => rfl
      | some other =>
        have hkey : other.id = id := Table.key_of_find hfind
        simp [hkey, hid]
    | repaired =>
      unfold setUsage
      split <;> exact Eq.refl (t.files.find id)
    | removed | saved | objects => exact Eq.refl (t.files.find id)
  | source runId sourceType =>
    intro hfree
    rw [hasSource_eq_false] at hfree ⊢
    intro other hm
    cases h with
    | @added _ _ file _ _ _ _ _ _ _ _ _ _ _ hlock =>
      rcases Table.mem_add hm with rfl | hm
      · rintro ⟨rfl, rfl⟩
        exact hne hlock rfl
      · exact hfree other hm
    | deleted => exact hfree other (List.mem_of_mem_filter hm)
    | repaired =>
      unfold setUsage at hm
      split at hm <;> exact hfree other hm
    | removed | saved | objects => exact hfree other hm

theorem evolves_add {file : SourceFileRecord} (h : Unclaimed t file)
    {organizations : Table organizationSchema} {audit : List SecurityAuditEventRecord} :
    Evolves t { t with
      files := t.files.add file
      history := t.history ++ [.recorded file]
      organizations := organizations
      securityAuditEvents := audit } := by
  have hrows := rows_add_of_unclaimed h
  refine ⟨[.recorded file], rfl, rfl, fun other hm => .inl ?_, fun other hm => ?_,
    fun other hm => ?_, fun organizationId hothers => ?_, fun key hkey => .inl hkey⟩
  · show other ∈ (t.files.add file).rows
    rw [hrows]
    exact List.mem_append_left _ hm
  · rcases Table.mem_add hm with rfl | hm
    · exact .inr List.mem_cons_self
    · exact .inl hm
  · cases List.mem_singleton.mp hm
  · have hother := hothers _ List.mem_cons_self file rfl
    show (t.files.add file).rows.filter (t.belongsTo organizationId) = t.filesOf organizationId
    rw [hrows, List.filter_append]
    simp [hother, FileStore.filesOf]

theorem evolves_delete (file : SourceFileRecord) {organizations : Table organizationSchema}
    {audit : List SecurityAuditEventRecord} :
    Evolves t { t with
      files := t.files.filter fun other => decide (other.id ≠ file.id)
      history := t.history ++ ((t.files.find file.id).map .deleted).toList
      organizations := organizations
      securityAuditEvents := audit } := by
  have hevent {other : SourceFileRecord} :
      .deleted other ∈ ((t.files.find file.id).map FileEvent.deleted).toList ↔
        t.files.find file.id = some other := by simp
  refine ⟨_, rfl, rfl, fun other hm => ?_, fun other hm => .inl (List.mem_of_mem_filter hm),
    fun other hm => .inl ?_, fun organizationId hothers => ?_, fun key hkey => .inl hkey⟩
  · by_cases hid : other.id = file.id
    · exact .inr (hevent.mpr (hid ▸ Table.find_of_mem hm))
    · exact .inl (List.mem_filter.mpr ⟨hm, decide_eq_true hid⟩)
  · have hid : other.id = file.id := Table.key_of_find (hevent.mp hm)
    exact fun hin => of_decide_eq_true (List.mem_filter.mp hin).2 hid
  · show (t.files.rows.filter fun other => decide (other.id ≠ file.id)).filter
      (t.belongsTo organizationId) = t.filesOf organizationId
    rw [List.filter_filter]
    refine List.filter_congr fun other hm => ?_
    by_cases hid : other.id = file.id
    · rw [hothers _ (hevent.mpr (hid ▸ Table.find_of_mem hm)) other rfl, Bool.false_and]
    · rw [decide_eq_true hid, Bool.and_true]

theorem evolves_remove (key : String) : Evolves t { t with
    objects := Function.update t.objects key none
    history := t.history ++ [.removed key] } := by
  refine ⟨[.removed key], rfl, rfl, fun file hm => .inl hm, fun file hm => .inl hm,
    fun file hm => ?_, fun _ _ => rfl, fun other hother => ?_⟩
  · cases List.mem_singleton.mp hm
  · by_cases hkey : other = key
    · exact .inr (hkey ▸ List.mem_cons_self)
    · refine .inl ?_
      show (Function.update t.objects key none other).isSome = true ∨ other ∈ t.lost
      rw [Function.update_of_ne hkey]
      exact hother

/-- **Every change is in the history.** -/
theorem evolves (h : FileChange provider C L t label t') : Evolves t t' := by
  cases h with
  | added audit _ _ _ _ _ hunclaimed => exact evolves_add hunclaimed
  | deleted audit => exact evolves_delete _
  | repaired =>
    unfold setUsage
    split <;> exact evolves_of_same rfl rfl rfl fun _ hkey => hkey
  | @removed _ key => exact evolves_remove key
  | saved object => exact evolves_of_same rfl rfl rfl (keeps_put t _ object)
  | objects hkeeps => exact evolves_of_same rfl rfl rfl hkeeps

end FileChange

end ReconcileFlow.Storage
