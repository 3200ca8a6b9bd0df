import ReconcileFlow.Access.Tokens

/-!
# Access — Revocation

Which tokens survive a revocation of a whole family or of all that a user has.  The tokens are
selected by one statement, which does not see the token that a concurrent rotation is about to
commit in place of the one it waits for (`token_survives`).  Those survive that were committed
after the statement began and are live at the commit, and no others (`revoked_iff`).
-/

namespace ReconcileFlow.Access

open Support Support.ReadCommitted Persistence Api

/-- No token of the scope is live. -/
def AllRevoked (scope : TokenScope) (store : SessionStore) : Prop :=
  ∀ token ∈ store.tokens.rows, scope.covers token = true → token.isLive = false

instance (scope : TokenScope) (store : SessionStore) : Decidable (AllRevoked scope store) :=
  inferInstanceAs (Decidable (∀ _ ∈ _, _ → _))

/-- Every live token of the scope is one of these. -/
def LiveAmong (seen : List UUID) (scope : TokenScope) (store : SessionStore) : Prop :=
  ∀ token ∈ store.tokens.rows, scope.covers token = true → token.isLive = true → token.id ∈ seen

instance (seen : List UUID) (scope : TokenScope) (store : SessionStore) :
    Decidable (LiveAmong seen scope store) :=
  inferInstanceAs (Decidable (∀ _ ∈ _, _ → _ → _))

/-- A revocation ends all that were committed when it looked. -/
def Revokes : SessionCommit → SessionStore → SessionStore → Prop
  | .revoked scope seen, s, t => AllRevoked scope t ↔ LiveAmong seen scope s
  | _, _, _ => True

def revocation : Contract SessionStore SessionLock SessionCommit where
  Inv _ := True
  Rely := Later
  Same := SameToken
  Ok _ _ := True
  Post := Revokes
  rely_refl := .refl
  rely_trans := .trans
  same_refl := .refl
  same_trans := .trans

theorem allRevoked_iff {users : Table userSchema} {scope : TokenScope} {seen kept : List UUID}
    {now : Instant} {t : SessionStore} (hkept : ∀ id ∈ kept, id ∈ seen)
    (hseen : ∀ token ∈ t.tokens.rows, scope.covers token = true → token.isLive = true →
      token.id ∈ seen → token.id ∈ kept) :
    AllRevoked scope ⟨users, kept.foldl (RefreshTokenRepository.revokeRow now) t.tokens⟩ ↔
      LiveAmong seen scope t := by
  constructor
  · intro hall token hm hcovers hlive
    by_contra hnew
    have hstored := find_revokeRows t.tokens now kept token.id
    rw [if_neg fun hid => hnew (hkept _ hid)] at hstored
    have hended := hall token (Table.mem_of_find (hstored.trans (Table.find_of_mem hm))) hcovers
    rw [hended] at hlive
    cases hlive
  · intro hamong token hm hcovers
    have hstored : (kept.foldl (RefreshTokenRepository.revokeRow now) t.tokens).find token.id =
      some token := Table.find_of_mem hm
    rw [find_revokeRows] at hstored
    split at hstored
    · obtain ⟨before, -, rfl⟩ := Option.map_eq_some_iff.mp hstored
      rfl
    · next hdropped =>
      have hm := Table.mem_of_find hstored
      by_contra hlive
      have hlive : token.isLive = true := by simpa using hlive
      exact hdropped (hseen token hm hcovers hlive (hamong token hm hcovers hlive))

theorem fits_revocation : Fits revocation where
  same := rfl
  rely := rfl
  commits {label L t t'} h _ _ := by
    refine ⟨trivial, h.later, fun k hk => h.same hk, ?_⟩
    cases h with
    | revoked hkept hseen => exact allRevoked_iff (fun id hid => (hkept id hid).1) hseen
    | _ => exact trivial

/-- **A revocation leaves no live token of its scope** exactly if none that is live at its commit
was committed after its statement had begun. -/
theorem revoked_iff {settings : AuthSettings} {w₀ w w' : World SessionStore SessionLock SessionCommit}
    {n : ℕ} {scope : TokenScope} {seen : List UUID}
    {next : Program SessionStore SessionLock SessionCommit Unit} (hidle : Idle w₀)
    (hrun : Reaches (step (AuthRequest.program settings)) Always w₀ w)
    (hcommit : w.program n = .commit (.revoked scope seen) next) (hstep : w.advance n = some w') :
    AllRevoked scope w'.state ↔ LiveAmong seen scope w.state := by
  have hallowed : Reaches (step (AuthRequest.program settings))
    (Allows revocation.Ok fun _ _ => True) w₀ w := hrun.mono fun w a _ => allows_always w a
  have hsafe : Safe revocation w :=
    safe_of_reaches (fun _ _ _ _ => wp_auth fits_revocation) hidle trivial hallowed
  have hpost := (hsafe.commits hcommit trivial).post
  unfold World.advance at hstep
  rw [hcommit] at hstep
  obtain rfl := Option.some.inj hstep
  exact hpost

/-- What the next statement of client `n` revokes, if it is the commit of a revocation. -/
def revoking (w : World SessionStore SessionLock SessionCommit) (n : ℕ) :
    Option (TokenScope × List UUID) :=
  match w.program n with
  | .commit (.revoked scope seen) _ => some (scope, seen)
  | _ => none

theorem exists_commit {w : World SessionStore SessionLock SessionCommit} {n : ℕ} {scope : TokenScope}
    {seen : List UUID} (h : revoking w n = some (scope, seen)) :
    ∃ next, w.program n = .commit (.revoked scope seen) next := by
  unfold revoking at h
  split at h
  · next scope' seen' next hprogram =>
    obtain ⟨rfl, rfl⟩ := Prod.mk.inj (Option.some.inj h)
    exact ⟨next, hprogram⟩
  · cases h

/-- The token 1 is presented again, and nothing else is going on. -/
theorem revoked_alone : ∃ (w w' : World SessionStore SessionLock SessionCommit)
    (next : Program SessionStore SessionLock SessionCommit Unit),
    Reaches (step (AuthRequest.program plain)) Always oneUser w ∧
      w.program 1 = .commit (.revoked (.family 1) [1, 2]) next ∧ w.advance 1 = some w' ∧
      (AllRevoked (.family 1) w'.state ↔ LiveAmong [1, 2] (.family 1) w.state) ∧
      AllRevoked (.family 1) w'.state := by
  have hrun : (exec (step (AuthRequest.program plain)) Always
      (loggedIn ++ .begin 1 (.refreshTokens (presentedToken 1) (issuedToken 3) 0) ::
        List.replicate 5 (.advance 1)) oneUser).any (fun w =>
      revoking w 1 = some (.family 1, [1, 2]) ∧ LiveAmong [1, 2] (.family 1) w.state ∧
        (w.advance 1).isSome = true) = true := by decide +kernel
  obtain ⟨w, hw, hready⟩ := (Option.any_eq_true _ _).mp hrun
  obtain ⟨hrevoking, hamong, hstep⟩ := of_decide_eq_true hready
  obtain ⟨next, hcommit⟩ := exists_commit hrevoking
  obtain ⟨w', hw'⟩ := Option.isSome_iff_exists.mp hstep
  have hiff := revoked_iff idle_oneUser (reaches_of_exec hw) hcommit hw'
  exact ⟨w, w', next, reaches_of_exec hw, hcommit, hw', hiff, hiff.mpr hamong⟩

/-- Client 0 commits the token 3 in place of 2 while client 1, to whom 1 is presented again, waits
for 2: the token 3 survives the reuse that has been detected. -/
theorem token_survives : ∃ (w w' : World SessionStore SessionLock SessionCommit)
    (next : Program SessionStore SessionLock SessionCommit Unit), Idle oneUser ∧
      Reaches (step (AuthRequest.program plain)) Always oneUser w ∧
      w.program 1 = .commit (.revoked (.family 1) [1, 2]) next ∧ w.advance 1 = some w' ∧
      ¬ AllRevoked (.family 1) w'.state := by
  have hrun : (exec (step (AuthRequest.program plain)) Always
      (loggedIn ++ .begin 0 (.refreshTokens (presentedToken 2) (issuedToken 3) 0) ::
        .begin 1 (.refreshTokens (presentedToken 1) (issuedToken 4) 0) ::
        List.replicate 8 (.advance 0) ++ List.replicate 3 (.advance 1) ++ .advance 0 ::
        List.replicate 2 (.advance 1)) oneUser).any (fun w =>
      revoking w 1 = some (.family 1, [1, 2]) ∧
        (w.advance 1).any (fun w' => ¬ AllRevoked (.family 1) w'.state) = true) = true := by
    decide +kernel
  obtain ⟨w, hw, hready⟩ := (Option.any_eq_true _ _).mp hrun
  obtain ⟨hrevoking, hstep⟩ := of_decide_eq_true hready
  obtain ⟨next, hcommit⟩ := exists_commit hrevoking
  obtain ⟨w', hw', hsurvives⟩ := (Option.any_eq_true _ _).mp hstep
  exact ⟨w, w', next, idle_oneUser, reaches_of_exec hw, hcommit, hw', of_decide_eq_true hsurvives⟩

end ReconcileFlow.Access
