import ReconcileFlow.Access.Changes

/-!
# Access — Owners

Whether an organization can lose its last owner.  A request that takes an owner counts the owners
without a lock, and locks only the membership that it changes: two of them can each take the owner
that the other one counts (`owners_lost`).  As long as each of them commits while the count that it
asked for still holds, every organization keeps an active owner, whatever else interleaves
(`owners_remain`).
-/

namespace ReconcileFlow.Access

open Support Support.ReadCommitted Persistence Api

/-- Every organization has an active membership with the role OWNER. -/
def Owned (directory : Directory) : Prop :=
  ∀ organization ∈ directory.organizations.rows, ∃ membership ∈ directory.memberships.rows,
    Directory.isActiveOwner organization.id membership = true

/-- There is more than one active owner, where one is taken. -/
def Spare : DirectoryCommit → Directory → Prop
  | .ownerLost organizationId, directory => 1 < directory.countActiveOwners organizationId
  | .other, _ => True

instance : ∀ label directory, Decidable (Spare label directory)
  | .ownerLost _, _ => inferInstanceAs (Decidable (_ < _))
  | .other, _ => .isTrue trivial

/-- The clients keep every organization owned, and leave alone what they have not locked. -/
def ownership : Contract Directory DirectoryLock DirectoryCommit where
  Inv := Owned
  Rely _ _ := True
  Same := SameMembership
  Ok := Spare
  Post _ _ _ := True
  rely_refl _ := trivial
  rely_trans _ _ := trivial
  same_refl := .refl
  same_trans := .trans

theorem isActiveOwner_iff {organizationId : UUID} {membership : OrganizationMembershipRecord} :
    Directory.isActiveOwner organizationId membership = true ↔
      membership.organizationId = organizationId ∧ membership.role = .owner ∧
        membership.isActive = true := by
  simp [Directory.isActiveOwner, and_assoc]

/-! ### The commits -/

section

variable {t : Directory} {before after membership : OrganizationMembershipRecord}

/-- A new membership takes none away. -/
theorem Owned.add (h : Owned t) :
    Owned { t with memberships := t.memberships.add membership } := by
  intro organization horganization
  obtain ⟨owner, hm, howner⟩ := h organization horganization
  exact ⟨owner, Table.mem_add_of_mem hm, howner⟩

/-- A new organization has the membership that comes with it. -/
theorem Owned.register {users : Table userSchema} {organization : OrganizationRecord}
    (h : Owned t) (hunclaimed : Unclaimed t membership)
    (howner : Directory.isActiveOwner organization.id membership = true) :
    Owned ⟨users, t.organizations.add organization, t.memberships.add membership⟩ := by
  intro other hother
  rcases Table.mem_add hother with rfl | hother
  · exact ⟨membership, mem_add_membership hunclaimed, howner⟩
  · obtain ⟨owner, hm, howner⟩ := h other hother
    exact ⟨owner, Table.mem_add_of_mem hm, howner⟩

/-- Either the membership is an active owner's still, or there is another one. -/
theorem Owned.put (h : Owned t) (hfind : t.memberships.find before.id = some before)
    (hrewrites : Rewrites before after) (hspare : Spare (ownerChange before after) t) :
    Owned { t with memberships := t.memberships.put after } := by
  intro organization horganization
  obtain ⟨owner, hm, howner⟩ := h organization horganization
  by_cases hid : owner.id = before.id
  · obtain rfl : owner = before := by
      have hfound : t.memberships.find owner.id = some owner := Table.find_of_mem hm
      exact Option.some.inj (hfound.symm.trans (hid ▸ hfind))
    obtain ⟨hselected, -⟩ := isActiveOwner_iff.mp howner
    rw [← hselected] at howner ⊢
    by_cases hkept : Directory.isActiveOwner owner.organizationId after = true
    · exact ⟨after, mem_put_membership hfind hrewrites, hkept⟩
    · rw [ownerChange, if_pos ⟨howner, hkept⟩] at hspare
      obtain ⟨other, hother, hisOwner, hne⟩ := Table.exists_other hspare owner.id
      exact ⟨other, Table.mem_put_of_ne hother fun he => hne (he.trans hrewrites.id), hisOwner⟩
  · exact ⟨owner, Table.mem_put_of_ne hm (fun he => hid (he.trans hrewrites.id)), howner⟩

end

/-- Whatever a request commits keeps every organization owned. -/
theorem keeps_ownership (s : Directory) (request : MembershipRequest) :
    Keeps ownership s request := by
  intro label L t t' hchange hinv hok
  cases hchange with
  | registered hid horganization hrole hactive hunclaimed hlock hmember =>
    refine ⟨Owned.register hinv hunclaimed ?_, trivial, fun k hk => ?_, trivial⟩
    · exact isActiveOwner_iff.mpr ⟨horganization.trans hid.symm, hrole, hactive⟩
    · exact sameMembership_add (fun he => hk (he ▸ hlock)) fun he => hk (he ▸ hmember)
  | added _ _ _ hlock hmember =>
    refine ⟨Owned.add hinv, trivial, fun k hk => ?_, trivial⟩
    exact sameMembership_add (fun he => hk (he ▸ hlock)) fun he => hk (he ▸ hmember)
  | updated _ _ hfind hlock =>
    refine ⟨Owned.put hinv hfind (.setRole _ _) hok, trivial, fun k hk => ?_, trivial⟩
    have hne : k ≠ .membership _ := fun he => hk (he ▸ hlock)
    exact sameMembership_put hfind (.setRole _ _) hne
  | deactivated _ _ hfind hlock =>
    refine ⟨Owned.put hinv hfind (.deactivate _) hok, trivial, fun k hk => ?_, trivial⟩
    have hne : k ≠ .membership _ := fun he => hk (he ▸ hlock)
    exact sameMembership_put hfind (.deactivate _) hne

/-! ### Every run -/

/-- **An organization keeps an active owner** in every run in which whoever takes one commits while
there is more than one. -/
theorem owners_remain {w₀ w : World Directory DirectoryLock DirectoryCommit} (hidle : Idle w₀)
    (hinv : Owned w₀.state)
    (hrun : Reaches (step MembershipRequest.program) (Allows Spare fun _ _ => True) w₀ w) :
    Owned w.state :=
  (safe_of_reaches (C := ownership) (fun request s hs _ => wp_program hs rfl
    (keeps_ownership s request)) hidle hinv hrun).inv

instance (directory : Directory) : Decidable (Owned directory) :=
  inferInstanceAs (Decidable (∀ _ ∈ _, ∃ _ ∈ _, _))

theorem owned_noRows : Owned noRows.state := by decide

/-- Users 1 and 2 register, and 1 makes 2 an owner of the organization 1 too. -/
def twoOwners : List (Action MembershipRequest) :=
  .begin 0 (.register (registration 1 "ada")) :: List.replicate 15 (.advance 0) ++
  .begin 0 (.register (registration 2 "ben")) :: List.replicate 15 (.advance 0) ++
  .begin 0 (.addMember (some 1) (.selected 1) 1 "ben" .owner 3) :: List.replicate 9 (.advance 0)

/-- User 1 removes 2, alone. -/
theorem owners_remain_one : ∃ w : World Directory DirectoryLock DirectoryCommit,
    Reaches (step MembershipRequest.program) (Allows Spare fun _ _ => True) noRows w ∧
      w.state.countActiveOwners 1 = 1 ∧ Owned w.state := by
  have hrun : (exec (step MembershipRequest.program) (Allows Spare fun _ _ => True)
      (twoOwners ++ .begin 0 (.deactivateMember (some 1) (.selected 1) 1 3) ::
        List.replicate 7 (.advance 0)) noRows).any
      (fun w => w.state.countActiveOwners 1 = 1) = true := by decide +kernel
  obtain ⟨w, hw, hone⟩ := (Option.any_eq_true _ _).mp hrun
  exact ⟨w, reaches_of_exec hw, of_decide_eq_true hone,
    owners_remain idle_noRows owned_noRows (reaches_of_exec hw)⟩

/-- Each of the two owners removes the other one: both have counted two before either commits. -/
theorem owners_lost : Idle noRows ∧ Owned noRows.state ∧
    ∃ w : World Directory DirectoryLock DirectoryCommit,
      Reaches (step MembershipRequest.program) Always noRows w ∧ ¬ Owned w.state := by
  have hrun : (exec (step MembershipRequest.program) Always
      (twoOwners ++ .begin 0 (.deactivateMember (some 1) (.selected 1) 1 3) ::
        .begin 1 (.deactivateMember (some 2) (.selected 1) 1 1) ::
        List.replicate 6 (.advance 0) ++ List.replicate 6 (.advance 1) ++
        [.advance 0, .advance 1]) noRows).any (fun w => ¬ Owned w.state) = true := by
    decide +kernel
  obtain ⟨w, hw, hlost⟩ := (Option.any_eq_true _ _).mp hrun
  exact ⟨idle_noRows, owned_noRows, w, reaches_of_exec hw, of_decide_eq_true hlost⟩

end ReconcileFlow.Access
