import ReconcileFlow.Access.Changes

/-!
# Access — Escalation

Whoever is no active owner of an organization changes nothing about its owners, through however
long a chain of requests: `owners_unchanged` holds of every interleaving of them, and so when they
are executed one at a time.
-/

namespace ReconcileFlow.Access

open Support Support.ReadCommitted Persistence Api

/-- The memberships of the organization that have the role OWNER. -/
def ownersOf (organizationId : UUID) (directory : Directory) : List OrganizationMembershipRecord :=
  directory.memberships.rows.filter fun membership =>
    decide (membership.organizationId = organizationId ∧ membership.role = .owner)

/-- Whom the access token names, in the requests that need one. -/
def token : MembershipRequest → AccessToken
  | .register _ => none
  | .addMember token _ _ _ _ _ => token
  | .updateMember token _ _ _ _ => token
  | .deactivateMember token _ _ _ => token

/-- The request registers another organization, or its actor is no active owner of this one. -/
def NotByOwner (organizationId : UUID) (request : MembershipRequest) (directory : Directory) :
    Prop :=
  match request with
  | .register request => request.organizationId ≠ organizationId
  | request => ∀ membership ∈ directory.memberships.rows,
      Directory.isActiveOwner organizationId membership = true →
        token request ≠ some membership.userId

instance (organizationId : UUID) (directory : Directory) :
    ∀ request, Decidable (NotByOwner organizationId request directory)
  | .register _ => inferInstanceAs (Decidable (_ ≠ _))
  | .addMember .. => inferInstanceAs (Decidable (∀ _ ∈ _, _ → _))
  | .updateMember .. => inferInstanceAs (Decidable (∀ _ ∈ _, _ → _))
  | .deactivateMember .. => inferInstanceAs (Decidable (∀ _ ∈ _, _ → _))

/-- The owners of the organization stay as they are. -/
def unescalated (organizationId : UUID) (owners : List OrganizationMembershipRecord) :
    Contract Directory DirectoryLock DirectoryCommit where
  Inv directory := ownersOf organizationId directory = owners
  Rely _ _ := True
  Same := SameMembership
  Ok _ _ := True
  Post _ _ _ := True
  rely_refl _ := trivial
  rely_trans _ _ := trivial
  same_refl := .refl
  same_trans := .trans

section

variable {organizationId selected : UUID} {owners : List OrganizationMembershipRecord}
  {s : Directory}

/-- A request of somebody else that is admitted is about another organization, or about the
membership of no owner. -/
theorem managed_of_notByOwner {actor : AccessToken} {target : MembershipRole}
    {requested : Option MembershipRole} (hs : (unescalated organizationId owners).Inv s)
    (hmanaged : Managed (unescalated organizationId owners) s actor selected target requested)
    (hother : ∀ membership ∈ s.memberships.rows,
      Directory.isActiveOwner organizationId membership = true → actor ≠ some membership.userId) :
    selected ≠ organizationId ∨ target ≠ .owner ∧ requested ≠ some .owner := by
  rcases hmanaged with ⟨t, userId, ht, rfl, membership, hm, horganization, huser, hrole, hactive⟩ | h
  · refine .inl fun he => ?_
    -- the owner who was admitted was one when the request began
    have howner : membership ∈ ownersOf organizationId t :=
      List.mem_filter.mpr ⟨hm, by simp [horganization, he, hrole]⟩
    rw [ht.inv.trans (Eq.symm hs)] at howner
    refine hother membership (List.mem_of_mem_filter howner) ?_ (by rw [huser])
    simp [Directory.isActiveOwner, horganization, he, hrole, hactive]
  · exact .inr h

theorem ownersOf_put {before after : OrganizationMembershipRecord}
    (hfind : s.memberships.find before.id = some before) (h : Rewrites before after)
    (hother : before.organizationId ≠ organizationId ∨ before.role ≠ .owner ∧ after.role ≠ .owner) :
    ownersOf organizationId { s with memberships := s.memberships.put after } =
      ownersOf organizationId s := by
  refine Table.filter_put (h.id ▸ hfind) ?_ ?_
  · rcases hother with hother | ⟨hrole, -⟩ <;> simp [*]
  · rcases hother with hother | ⟨-, hrole⟩
    · simp [h.organization, hother]
    · simp [hrole]

theorem keeps_unescalated (hs : (unescalated organizationId owners).Inv s)
    {request : MembershipRequest} (hrequest : NotByOwner organizationId request s) :
    Keeps (unescalated organizationId owners) s request := by
  intro label L t t' hchange hinv _
  cases hchange with
  | registered hid horganization hrole hactive hunclaimed hlock hmember =>
    refine ⟨Eq.trans (Table.filter_add _ ?_) hinv, trivial, fun k hk => ?_, trivial⟩
    · simp [horganization, show _ ≠ _ from hrequest]
    · exact sameMembership_add (fun he => hk (he ▸ hlock)) fun he => hk (he ▸ hmember)
  | added hmanaged horganization hrole hlock hmember =>
    refine ⟨Eq.trans (Table.filter_add _ ?_) hinv, trivial, fun k hk => ?_, trivial⟩
    · rcases managed_of_notByOwner hs hmanaged hrequest with hother | ⟨hother, -⟩
      · simp [horganization, hother]
      · simp [hrole, hother]
    · exact sameMembership_add (fun he => hk (he ▸ hlock)) fun he => hk (he ▸ hmember)
  | updated hmanaged horganization hfind hlock =>
    have hother := managed_of_notByOwner hs hmanaged hrequest
    refine ⟨Eq.trans (ownersOf_put hfind (.setRole _ _) ?_) hinv, trivial, fun k hk => ?_, trivial⟩
    · rcases hother with hother | ⟨hbefore, hafter⟩
      · exact .inl (horganization ▸ hother)
      · exact .inr ⟨hbefore, fun he => hafter (congrArg some he)⟩
    · have hne : k ≠ .membership _ := fun he => hk (he ▸ hlock)
      exact sameMembership_put hfind (.setRole _ _) hne
  | deactivated hmanaged horganization hfind hlock =>
    have hother := managed_of_notByOwner hs hmanaged hrequest
    refine ⟨Eq.trans (ownersOf_put hfind (.deactivate _) ?_) hinv, trivial, fun k hk => ?_, trivial⟩
    · rcases hother with hother | ⟨hbefore, -⟩
      · exact .inl (horganization ▸ hother)
      · exact .inr ⟨hbefore, hbefore⟩
    · have hne : k ≠ .membership _ := fun he => hk (he ▸ hlock)
      exact sameMembership_put hfind (.deactivate _) hne

end

/-- **No chain of requests by others than its active owners makes or removes an owner** of an
organization. -/
theorem owners_unchanged {organizationId : UUID}
    {w₀ w : World Directory DirectoryLock DirectoryCommit} (hidle : Idle w₀)
    (hrun : Reaches (step MembershipRequest.program)
      (Allows (fun _ _ => True) (NotByOwner organizationId)) w₀ w) :
    ownersOf organizationId w.state = ownersOf organizationId w₀.state :=
  (safe_of_reaches (C := unescalated organizationId (ownersOf organizationId w₀.state))
    (fun _ _ hs hrequest => wp_program hs rfl (keeps_unescalated hs hrequest)) hidle rfl hrun).inv

/-- An administrator, whom the owner has added, makes another one, who is refused an owner's role
for the first; the owner stays. -/
theorem owners_unchanged_admins : ∃ w₀ w : World Directory DirectoryLock DirectoryCommit,
    Idle w₀ ∧ Reaches (step MembershipRequest.program)
      (Allows (fun _ _ => True) (NotByOwner 1)) w₀ w ∧ w.state.memberships.rows.length = 5 ∧
      ownersOf 1 w.state = ownersOf 1 w₀.state := by
  let register (n : UUID) (email : String) : List (Action MembershipRequest) :=
    .begin 0 (.register (registration n email)) :: List.replicate 15 (.advance 0)
  let owned : List (Action MembershipRequest) :=
    register 1 "ada" ++ register 2 "ben" ++ register 3 "cleo" ++
      .begin 0 (.addMember (some 1) (.selected 1) 1 "ben" .admin 4) :: List.replicate 9 (.advance 0)
  let admins : List (Action MembershipRequest) :=
    .begin 0 (.addMember (some 2) (.selected 1) 1 "cleo" .admin 5) ::
      List.replicate 9 (.advance 0) ++
      .begin 0 (.updateMember (some 3) (.selected 1) 1 4 .owner) :: List.replicate 5 (.advance 0)
  have hrun : (exec (step MembershipRequest.program) Always owned noRows).any (fun w₀ =>
      (exec (step MembershipRequest.program) (Allows (fun _ _ => True) (NotByOwner 1)) admins
        { state := w₀.state }).any fun w => w.state.memberships.rows.length = 5) = true := by
    decide +kernel
  obtain ⟨w₀, -, hadmins⟩ := (Option.any_eq_true _ _).mp hrun
  obtain ⟨w, hw, hfive⟩ := (Option.any_eq_true _ _).mp hadmins
  exact ⟨{ state := w₀.state }, w, fun _ => rfl, reaches_of_exec hw, of_decide_eq_true hfive,
    owners_unchanged (fun _ => rfl) (reaches_of_exec hw)⟩

end ReconcileFlow.Access
