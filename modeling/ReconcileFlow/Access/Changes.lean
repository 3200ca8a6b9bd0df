import ReconcileFlow.Api.Memberships
import ReconcileFlow.Support.Interference

/-!
# Access — Changes

All that the membership requests may commit (`Change`), under any contract among the clients in
which a lock on a membership keeps it (`SameMembership`): `wp_program` leaves of a request the
commits that it may come to.  A manager was admitted on an active membership, and where an owner's
membership is concerned, on one with the role OWNER.
-/

namespace ReconcileFlow.Access

open Support Support.ReadCommitted Persistence Api

/-! ### Memberships under locks -/

/-- What a lock on memberships protects. -/
def SameMembership : DirectoryLock → Directory → Directory → Prop
  | .membership id, s, t => s.memberships.find id = t.memberships.find id
  | .member organizationId userId, s, t =>
    (s.membershipFor organizationId userId).isSome = (t.membershipFor organizationId userId).isSome
  | _, _, _ => True

theorem SameMembership.refl (k : DirectoryLock) (s : Directory) : SameMembership k s s := by
  cases k <;> first | exact trivial | rfl

theorem SameMembership.trans {k : DirectoryLock} {s t u : Directory} (h : SameMembership k s t)
    (h' : SameMembership k t u) : SameMembership k s u := by
  cases k <;> first | exact trivial | exact Eq.trans h h'

theorem membershipFor_isSome {directory : Directory} {organizationId userId : UUID} :
    (directory.membershipFor organizationId userId).isSome = true ↔
      ∃ membership ∈ directory.memberships.rows,
        membership.organizationId = organizationId ∧ membership.userId = userId := by
  simp [Directory.membershipFor]

/-- `after` is the membership of the same user in the same organization. -/
structure Rewrites (before after : OrganizationMembershipRecord) : Prop where
  id : after.id = before.id
  organization : after.organizationId = before.organizationId
  user : after.userId = before.userId

theorem Rewrites.setRole (before : OrganizationMembershipRecord) (role : MembershipRole) :
    Rewrites before { before with role := role } :=
  ⟨rfl, rfl, rfl⟩

theorem Rewrites.deactivate (before : OrganizationMembershipRecord) :
    Rewrites before { before with isActive := false } :=
  ⟨rfl, rfl, rfl⟩

/-- Neither the id of the membership is taken, nor its user a member of the organization. -/
def Unclaimed (directory : Directory) (membership : OrganizationMembershipRecord) : Prop :=
  directory.memberships.find membership.id = none ∧
    directory.membershipFor membership.organizationId membership.userId = none

section

variable {directory : Directory} {before after membership : OrganizationMembershipRecord}

theorem mem_put_membership (hfind : directory.memberships.find before.id = some before)
    (h : Rewrites before after) : after ∈ (directory.memberships.put after).rows := by
  refine Table.mem_put_self (S := membershipSchema) (h.id.symm ▸ hfind) rfl fun other hother hne => ?_
  -- who shares the user and the organization is the membership itself
  by_contra hclash
  have hshared : before.organizationId = other.organizationId ∧ before.userId = other.userId := by
    simp only [membershipSchema, h.organization, h.user] at hclash
    grind
  have heq : before = other :=
    Table.eq_of_clash (Table.mem_of_find hfind) hother (by simpa [membershipSchema] using hshared)
  exact hne (heq ▸ h.id.symm)

theorem mem_add_membership (h : Unclaimed directory membership) :
    membership ∈ (directory.memberships.add membership).rows := by
  refine Table.mem_add_self rfl (fun other hother => Table.find_eq_none.mp h.1 other hother)
    fun other hother => ?_
  have hother := List.find?_eq_none.mp h.2 other hother
  simp only [membershipSchema]
  grind

theorem sameMembership_put (hfind : directory.memberships.find before.id = some before)
    (h : Rewrites before after) {k : DirectoryLock} (hk : k ≠ .membership before.id) :
    SameMembership k directory
      { directory with memberships := directory.memberships.put after } := by
  cases k with
  | membership id =>
    have hne : id ≠ after.id := fun he => hk (by rw [he, h.id])
    exact (Table.find_put_of_ne (S := membershipSchema) _ hne).symm
  | member organizationId userId =>
    refine Bool.eq_iff_iff.mpr (membershipFor_isSome.trans (Iff.trans ?_ membershipFor_isSome.symm))
    constructor
    · rintro ⟨membership, hm, horganization, huser⟩
      by_cases hid : membership.id = after.id
      · have hfound : directory.memberships.find membership.id = some membership :=
          Table.find_of_mem hm
        rw [hid, h.id, hfind] at hfound
        obtain rfl := Option.some.inj hfound
        exact ⟨after, mem_put_membership hfind h, h.organization ▸ horganization, h.user ▸ huser⟩
      · exact ⟨membership, Table.mem_put_of_ne hm hid, horganization, huser⟩
    · rintro ⟨membership, hm, horganization, huser⟩
      rcases Table.mem_put hm with rfl | hm
      · exact ⟨before, Table.mem_of_find hfind, h.organization ▸ horganization, h.user ▸ huser⟩
      · exact ⟨membership, hm, horganization, huser⟩
  | _ => exact trivial

theorem sameMembership_add {users : Table userSchema} {organizations : Table organizationSchema}
    {k : DirectoryLock} (hid : k ≠ .membership membership.id)
    (hmember : k ≠ .member membership.organizationId membership.userId) :
    SameMembership k directory
      ⟨users, organizations, directory.memberships.add membership⟩ := by
  cases k with
  | membership id =>
    have hne : id ≠ membership.id := fun he => hid (by rw [he])
    exact (Table.find_add_of_ne (S := membershipSchema) _ hne).symm
  | member organizationId userId =>
    refine Bool.eq_iff_iff.mpr (membershipFor_isSome.trans (Iff.trans ?_ membershipFor_isSome.symm))
    constructor
    · rintro ⟨other, hm, h⟩
      exact ⟨other, Table.mem_add_of_mem hm, h⟩
    · rintro ⟨other, hm, horganization, huser⟩
      rcases Table.mem_add hm with rfl | hm
      · exact absurd (by rw [horganization, huser]) hmember
      · exact ⟨other, hm, horganization, huser⟩
  | _ => exact trivial

/-- Under its locks an unclaimed membership stays so. -/
theorem Unclaimed.same {s t : Directory} (h : Unclaimed s membership)
    (hid : SameMembership (.membership membership.id) s t)
    (hmember : SameMembership (.member membership.organizationId membership.userId) s t) :
    Unclaimed t membership := by
  refine ⟨hid ▸ h.1, ?_⟩
  have hsome : (t.membershipFor membership.organizationId membership.userId).isSome = false := by
    rw [← (hmember : _ = _), h.2]
    rfl
  simpa using hsome

end

/-! ### What the routes find -/

/-- The manager has an active membership of the organization with the role. -/
def Holds (directory : Directory) (manager : TenantContext) : Prop :=
  ∃ membership ∈ directory.memberships.rows,
    membership.organizationId = manager.organizationId ∧ membership.userId = manager.userId ∧
      membership.role = manager.role ∧ membership.isActive = true

section

variable {C : Contract Directory DirectoryLock DirectoryCommit} {α : Type}
  {pending : Directory → Directory} {L : Set DirectoryLock} {s : Directory}
  {fail : Error → (Directory → Directory) → Set DirectoryLock → Directory → Prop}

theorem wpr_authorise {token : AccessToken} {header : OrganizationHeader}
    {post : TenantContext → (Directory → Directory) → Set DirectoryLock → Directory → Prop}
    (hs : C.Inv s)
    (h : ∀ t manager, C.Interferes L s t → token = some manager.userId → Holds t manager →
      manager.role = .owner ∨ manager.role = .admin → post manager id L t)
    (hfail : ∀ e t, C.Interferes L s t → fail e id L t) :
    wpr C (authorise token header) post fail id L s := by
  have hsame : C.Interferes L s s := .refl hs
  refine wpr_bind.mpr (wpr_bind.mpr (wpr_expect.mpr ⟨fun subject htoken => ?_, fun _ =>
    hfail _ s hsame⟩))
  refine wpr_bind.mpr (wpr_lift.mpr (wp_get.mpr fun t ht => ?_))
  refine wpr_expect.mpr ⟨fun user huser => ?_, fun _ => hfail _ t ht⟩
  have hid : user.id = subject := by
    obtain ⟨hfind, -⟩ := Option.filter_eq_some_iff.mp huser
    exact Table.key_of_find hfind
  refine wpr_bind.mpr ?_
  cases header with
  | missing => exact wpr_throw.mpr (hfail _ t ht)
  | malformed => exact wpr_throw.mpr (hfail _ t ht)
  | selected organizationId =>
    refine wpr_bind.mpr (wpr_lift.mpr (wp_get.mpr fun u hu => ?_))
    have hsu := ht.trans hu
    refine wpr_bind.mpr (wpr_expect.mpr ⟨fun membership hmembership => ?_, fun _ =>
      hfail _ u hsu⟩)
    refine wpr_pure.mpr (wpr_bind.mpr (wpr_ensure.mpr ⟨fun hrole => ?_, fun _ =>
      hfail _ u hsu⟩))
    refine wpr_pure.mpr (h u _ hsu (by rw [htoken, hid]) ?_ hrole)
    have hfound := List.find?_some hmembership
    simp only [Bool.and_eq_true, decide_eq_true_eq] at hfound
    exact ⟨membership, List.mem_of_find?_eq_some hmembership, hfound.1.1.1, hfound.1.1.2, rfl,
      hfound.1.2⟩

theorem wpr_getLocked {membershipId organizationId : UUID}
    {post : OrganizationMembershipRecord → (Directory → Directory) → Set DirectoryLock →
      Directory → Prop}
    (h : ∀ t membership, C.Interferes L s t → t.memberships.find membershipId = some membership →
      membership.organizationId = organizationId →
      post membership id (insert (.membership membershipId) L) t)
    (hfail : ∀ e L t, fail e id L t) :
    wpr C (OrganizationMembershipRepository.getLocked membershipId organizationId) post fail id L
      s := by
  refine wpr_bind.mpr (wpr_lift.mpr (wp_selectForUpdate.mpr fun t ht => ?_))
  cases hrow : (t.memberships.find membershipId).filter
      fun membership => decide (membership.organizationId = organizationId) with
  | none =>
    simp only [id_eq, hrow]
    exact wpr_throw.mpr (hfail _ _ _)
  | some row =>
    simp only [id_eq, hrow]
    intro u hu
    have hid : row.id = membershipId := by
      obtain ⟨hfind, -⟩ := Option.filter_eq_some_iff.mp hrow
      exact Table.key_of_find hfind
    refine wpr_expect.mpr ⟨fun membership hmembership => ?_, fun _ => hfail _ _ _⟩
    obtain ⟨hfind, horganization⟩ := Option.filter_eq_some_iff.mp hmembership
    rw [hid]
    exact h u membership (ht.trans hu) hfind (by simpa using horganization)

theorem wpr_freeSlug {slugs : List String}
    {post : String → (Directory → Directory) → Set DirectoryLock → Directory → Prop}
    (hs : C.Inv s) (h : ∀ slug t, C.Interferes L s t → post slug pending L t)
    (hfail : ∀ e t, C.Interferes L s t → fail e pending L t) :
    wpr C (freeSlug slugs) post fail pending L s := by
  induction slugs generalizing s with
  | nil => exact wpr_throw.mpr (hfail _ s (.refl hs))
  | cons slug slugs ih =>
    refine wpr_bind.mpr (wpr_lift.mpr (wp_get.mpr fun t ht => ?_))
    split
    · exact ih ht.inv (fun slug u hu => h slug u (ht.trans hu)) fun e u hu => hfail e u (ht.trans hu)
    · exact wpr_pure.mpr (h slug t ht)

end

/-! ### What the requests commit -/

section

variable (C : Contract Directory DirectoryLock DirectoryCommit)

/-- The actor was admitted as an owner of the organization, or neither the membership as it is nor
as it is asked for is an owner's. -/
def Managed (s : Directory) (token : AccessToken) (organizationId : UUID) (target : MembershipRole)
    (requested : Option MembershipRole) : Prop :=
  (∃ t userId, C.Interferes ∅ s t ∧ token = some userId ∧
    Holds t ⟨organizationId, userId, .owner⟩) ∨ target ≠ .owner ∧ requested ≠ some .owner

/-- A request that began in `s` makes `t'` of the committed `t`, under the locks `L`. -/
inductive Change (s : Directory) : MembershipRequest → DirectoryCommit → Set DirectoryLock →
    Directory → Directory → Prop
  | registered {request : RegistrationRequest} {L : Set DirectoryLock} {t : Directory}
      {users : Table userSchema} {organization : OrganizationRecord}
      {membership : OrganizationMembershipRecord} :
      organization.id = request.organizationId →
      membership.organizationId = request.organizationId → membership.role = .owner →
      membership.isActive = true → Unclaimed t membership → .membership membership.id ∈ L →
      .member membership.organizationId membership.userId ∈ L →
      Change s (.register request) .other L t
        ⟨users, t.organizations.add organization, t.memberships.add membership⟩
  | added {token : AccessToken} {header : OrganizationHeader} {organizationId membershipId : UUID}
      {email : String} {role : MembershipRole} {L : Set DirectoryLock} {t : Directory}
      {membership : OrganizationMembershipRecord} :
      Managed C s token organizationId role (some role) →
      membership.organizationId = organizationId → membership.role = role →
      .membership membership.id ∈ L → .member membership.organizationId membership.userId ∈ L →
      Change s (.addMember token header organizationId email role membershipId) .other L t
        { t with memberships := t.memberships.add membership }
  | updated {token : AccessToken} {header : OrganizationHeader} {organizationId : UUID}
      {role : MembershipRole} {L : Set DirectoryLock} {t : Directory}
      {before : OrganizationMembershipRecord} :
      Managed C s token organizationId before.role (some role) →
      before.organizationId = organizationId → t.memberships.find before.id = some before →
      .membership before.id ∈ L →
      Change s (.updateMember token header organizationId before.id role)
        (ownerChange before { before with role := role }) L t
        { t with memberships := t.memberships.put { before with role := role } }
  | deactivated {token : AccessToken} {header : OrganizationHeader} {organizationId : UUID}
      {L : Set DirectoryLock} {t : Directory} {before : OrganizationMembershipRecord} :
      Managed C s token organizationId before.role none →
      before.organizationId = organizationId → t.memberships.find before.id = some before →
      .membership before.id ∈ L →
      Change s (.deactivateMember token header organizationId before.id)
        (ownerChange before { before with isActive := false }) L t
        { t with memberships := t.memberships.put { before with isActive := false } }

variable {C} {s : Directory} {token : AccessToken} {header : OrganizationHeader}
  {organizationId : UUID}

/-- The dependencies of a route, and its check of the organization. -/
theorem wpr_admit {α : Type} {f : TenantContext → DirectoryRequest α} (hs : C.Inv s)
    (h : ∀ t manager, C.Interferes ∅ s t →
      (∀ target requested, ¬ (manager.role = .admin ∧ (target = .owner ∨ requested = some .owner)) →
        Managed C s token organizationId target requested) →
      wpr C (f manager) Whatever Whatever id ∅ t) :
    wpr C (do
      let manager ← authorise token header
      ensureSelected organizationId manager
      f manager) Whatever Whatever id ∅ s := by
  refine wpr_bind.mpr (wpr_authorise hs (fun t manager ht htoken hholds hrole => ?_)
    fun _ _ _ => trivial)
  refine wpr_bind.mpr (wpr_ensure.mpr ⟨fun hselected => h t manager ht ?_, fun _ => trivial⟩)
  intro target requested hmay
  rcases hrole with howner | hadmin
  · refine .inl ⟨t, manager.userId, ht, htoken, ?_⟩
    rw [hselected, ← howner]
    exact hholds
  · exact .inr ⟨fun he => hmay ⟨hadmin, .inl he⟩, fun he => hmay ⟨hadmin, .inr he⟩⟩

/-- What is asked of the commits of a request. -/
def Keeps (C : Contract Directory DirectoryLock DirectoryCommit) (s : Directory)
    (request : MembershipRequest) : Prop :=
  ∀ label L t t', Change C s request label L t t' → C.Inv t → C.Ok label t →
    C.Commits label L t t'

variable {membershipId : UUID} {email : String} {role : MembershipRole}

/-- A membership whose lock is held is not changed by others. -/
theorem find_of_interferes {L : Set DirectoryLock} {t u : Directory}
    {membership : Option OrganizationMembershipRecord} (hsame : C.Same = SameMembership)
    (hu : C.Interferes L t u) (hlock : .membership membershipId ∈ L)
    (hfind : t.memberships.find membershipId = membership) :
    u.memberships.find membershipId = membership := by
  have hlocked := hu.same _ hlock
  rw [hsame] at hlocked
  exact (Eq.symm hlocked).trans hfind

/-- What changes a membership that is locked. -/
theorem wpr_flush {α : Type} (value : α) (label : α → DirectoryCommit)
    {before after : OrganizationMembershipRecord} {t : Directory} (hsame : C.Same = SameMembership)
    (hfind : t.memberships.find before.id = some before)
    (h : ∀ u, u.memberships.find before.id = some before → C.Inv u → C.Ok (label value) u →
      C.Commits (label value) (insert (.membership before.id) ∅) u
        { u with memberships := u.memberships.put after }) :
    wpr C (do
      OrganizationMembershipRepository.flush after
      return value) (Committable C label) Whatever id (insert (.membership before.id) ∅) t := by
  refine wpr_bind.mpr (wpr_lift.mpr (wp_update.mpr (wpr_pure.mpr fun u hu hok => ?_)))
  exact h u (find_of_interferes hsame hu (Set.mem_insert _ _) hfind) hu.inv hok

theorem wpr_updateMember (hs : C.Inv s) (hsame : C.Same = SameMembership)
    (h : Keeps C s (.updateMember token header organizationId membershipId role)) :
    wpr C (updateMember token header organizationId membershipId role) Whatever Whatever id ∅ s := by
  refine wpr_admit hs fun t₀ manager ht₀ hmanaged => ?_
  refine wpr_bind.mpr (wpr_committable (fun _ _ => trivial) (fun _ _ => trivial) ?_)
  refine wpr_bind.mpr (wpr_getLocked (fun t membership ht hfind horganization => ?_)
    fun _ _ _ => trivial)
  obtain rfl : membership.id = membershipId := Table.key_of_find hfind
  refine wpr_bind.mpr (wpr_ensure.mpr ⟨fun hmay => ?_, fun _ => trivial⟩)
  have hflush (u) (hu : C.Interferes (insert (.membership membership.id) ∅) t u) :=
    wpr_flush (membership, { membership with role := role })
      (fun change => ownerChange change.1 change.2) hsame
      (find_of_interferes hsame hu (Set.mem_insert _ _) hfind) fun v hv => h _ _ v _
        (.updated (hmanaged _ _ hmay) horganization hv (Set.mem_insert _ _))
  show wpr C (if _ then _ else _) _ _ _ _ _
  split
  · refine wpr_bind.mpr (wpr_lift.mpr (wp_get.mpr fun u hu => ?_))
    exact wpr_bind.mpr (wpr_ensure.mpr ⟨fun _ => hflush u hu, fun _ => trivial⟩)
  · exact hflush t (.refl ht.inv)

theorem wpr_deactivateMember (hs : C.Inv s) (hsame : C.Same = SameMembership)
    (h : Keeps C s (.deactivateMember token header organizationId membershipId)) :
    wpr C (deactivateMember token header organizationId membershipId) Whatever Whatever id ∅ s := by
  refine wpr_admit hs fun t₀ manager ht₀ hmanaged => ?_
  refine wpr_bind.mpr (wpr_committable (fun _ _ => trivial) (fun _ _ => trivial) ?_)
  refine wpr_bind.mpr (wpr_getLocked (fun t membership ht hfind horganization => ?_)
    fun _ _ _ => trivial)
  obtain rfl : membership.id = membershipId := Table.key_of_find hfind
  refine wpr_bind.mpr (wpr_ensure.mpr ⟨fun hmay => ?_, fun _ => trivial⟩)
  refine wpr_bind.mpr (wpr_ensure.mpr ⟨fun _ => ?_, fun _ => trivial⟩)
  have hflush (u) (hu : C.Interferes (insert (.membership membership.id) ∅) t u) :=
    wpr_flush membership
      (fun membership => ownerChange membership { membership with isActive := false })
      hsame (find_of_interferes hsame hu (Set.mem_insert _ _) hfind) fun v hv => h _ _ v _
        (.deactivated (hmanaged _ _ hmay) horganization hv (Set.mem_insert _ _))
  show wpr C (if _ then _ else _) _ _ _ _ _
  split
  · refine wpr_bind.mpr (wpr_lift.mpr (wp_get.mpr fun u hu => ?_))
    exact wpr_bind.mpr (wpr_ensure.mpr ⟨fun _ => hflush u hu, fun _ => trivial⟩)
  · exact hflush t (.refl ht.inv)

/-- What adds a membership; before the commit, only rows of other tables may be pending. -/
theorem wpr_create {userId : UUID} {pending : Directory → Directory} {L : Set DirectoryLock}
    {t : Directory} {label : OrganizationMembershipRecord → DirectoryCommit}
    (ht : C.Inv t) (hsame : C.Same = SameMembership)
    (hpending : ∀ u, (pending u).memberships = u.memberships)
    (h : ∀ u membership L, membership.organizationId = organizationId → membership.role = role →
      membership.isActive = true → Unclaimed u membership → .membership membership.id ∈ L →
      .member membership.organizationId membership.userId ∈ L → C.Inv u →
      C.Ok (label membership) u → C.Commits (label membership) L u
        { pending u with memberships := u.memberships.add membership }) :
    wpr C (OrganizationMembershipRepository.create membershipId organizationId userId role)
      (Committable C label) Whatever pending L t := by
  refine wpr_bind.mpr (wpr_insert ht (fun u hu hfree => ?_) fun _ _ => trivial)
  refine wpr_pure.mpr fun v hv hok => ?_
  obtain ⟨hid, hmember⟩ := Bool.or_eq_false_iff.mp hfree
  have hunclaimed : Unclaimed u { id := membershipId, organizationId, userId, role } :=
    ⟨by simpa [hpending] using hid, by simpa [Directory.membershipFor, hpending] using hmember⟩
  have hsame' (k) (hk : k ∈ L ∪ {k | k ∈ [.membership membershipId, .member organizationId userId]}) :
      SameMembership k u v := hsame ▸ hv.same k hk
  have hadd := h v { id := membershipId, organizationId, userId, role }
    (L ∪ {k | k ∈ [.membership membershipId, .member organizationId userId]}) rfl rfl rfl
    (hunclaimed.same (hsame' _ (by simp)) (hsame' _ (by simp))) (by simp) (by simp) hv.inv hok
  rwa [← hpending v] at hadd

theorem wpr_addMember (hs : C.Inv s) (hsame : C.Same = SameMembership)
    (h : Keeps C s (.addMember token header organizationId email role membershipId)) :
    wpr C (addMember token header organizationId email role membershipId) Whatever Whatever id ∅ s := by
  refine wpr_admit hs fun t₀ manager ht₀ hmanaged => ?_
  refine wpr_bind.mpr (wpr_ensure.mpr ⟨fun hmay => ?_, fun _ => trivial⟩)
  refine wpr_committable (fun _ _ => trivial) (fun _ _ => trivial) ?_
  refine wpr_bind.mpr (wpr_lift.mpr (wp_get.mpr fun t ht => ?_))
  refine wpr_bind.mpr (wpr_expect.mpr ⟨fun user _ => ?_, fun _ => trivial⟩)
  refine wpr_bind.mpr (wpr_lift.mpr (wp_get.mpr fun u hu => ?_))
  refine wpr_bind.mpr (wpr_ensure.mpr ⟨fun _ => ?_, fun _ => trivial⟩)
  refine wpr_create hu.inv hsame (fun _ => rfl) ?_
  intro v membership L horganization hrole _ _ hid hmember hv hok
  exact h _ _ v _ (.added (hmanaged _ _ hmay) horganization hrole hid hmember) hv hok

theorem wpr_register {request : RegistrationRequest} (hsame : C.Same = SameMembership)
    (h : Keeps C s (.register request)) :
    wpr C (register request) Whatever Whatever id ∅ s := by
  refine wpr_committable (fun _ _ => trivial) (fun _ _ => trivial) ?_
  refine wpr_bind.mpr (wpr_lift.mpr (wp_get.mpr fun t ht => ?_))
  refine wpr_bind.mpr (wpr_ensure.mpr ⟨fun _ => ?_, fun _ => trivial⟩)
  refine wpr_bind.mpr (wpr_freeSlug ht.inv (fun slug u hu => ?_) fun _ _ _ => trivial)
  refine wpr_bind.mpr (wpr_insert hu.inv (fun v hv _ => ?_) fun _ _ => trivial)
  refine wpr_bind.mpr (wpr_insert hv.inv (fun v' hv' _ => ?_) fun _ _ => trivial)
  refine wpr_create hv'.inv hsame (fun _ => rfl) ?_
  intro v'' membership L horganization hrole hactive hunclaimed hid hmember hinv hok
  exact h _ _ v'' _ (.registered rfl horganization hrole hactive hunclaimed hid hmember) hinv hok

/-- **A request keeps to the contract if what it may commit does.** -/
theorem wp_program {request : MembershipRequest} (hs : C.Inv s) (hsame : C.Same = SameMembership)
    (h : Keeps C s request) : wp C request.program Whatever id ∅ s := by
  cases request with
  | register request => exact wp_serve (wpr_register hsame h)
  | addMember token header organizationId email role membershipId =>
    exact wp_serve (wpr_addMember hs hsame h)
  | updateMember token header organizationId membershipId role =>
    exact wp_serve (wpr_updateMember hs hsame h)
  | deactivateMember token header organizationId membershipId =>
    exact wp_serve (wpr_deactivateMember hs hsame h)

end

/-! ### A first registration -/

/-- Before anyone has registered. -/
def noRows : World Directory DirectoryLock DirectoryCommit where
  state := ⟨.empty, .empty, .empty⟩

theorem idle_noRows : Idle noRows := fun _ => rfl

def registration (n : UUID) (email : String) : RegistrationRequest where
  userId := n
  organizationId := n
  membershipId := n
  email := email
  passwordHash := ""
  displayName := none
  slugs := [email]
  quota := none

end ReconcileFlow.Access
