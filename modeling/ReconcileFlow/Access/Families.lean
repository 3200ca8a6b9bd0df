import ReconcileFlow.Access.Tokens

/-!
# Access — Families

A family of refresh tokens has at most one that is live, and a token that has been revoked is not
accepted again, whatever the order of the requests (`one_live_token`).  The families that logins
draw are assumed to be new.
-/

namespace ReconcileFlow.Access

open Support Support.ReadCommitted Persistence Api

/-- No two live tokens of one family. -/
def SingleLive (store : SessionStore) : Prop :=
  ∀ token ∈ store.tokens.rows, ∀ other ∈ store.tokens.rows, token.familyId = other.familyId →
    token.isLive = true → other.isLive = true → token = other

instance (store : SessionStore) : Decidable (SingleLive store) :=
  inferInstanceAs (Decidable (∀ _ ∈ _, ∀ _ ∈ _, _ → _ → _ → _))

/-- `uuid4` draws an id that no family has. -/
def NewFamily : SessionCommit → SessionStore → Prop
  | .issued familyId, store => ∀ token ∈ store.tokens.rows, token.familyId ≠ familyId
  | _, _ => True

instance (store : SessionStore) : ∀ label, Decidable (NewFamily label store)
  | .issued _ => inferInstanceAs (Decidable (∀ _ ∈ _, _))
  | .rotated _ | .revoked _ _ | .other => .isTrue trivial

/-- A token is accepted while it is live. -/
def Accepts : SessionCommit → SessionStore → Prop
  | .rotated tokenId, store => ∃ token, store.tokens.find tokenId = some token ∧ token.isLive = true
  | _, _ => True

def families : Contract SessionStore SessionLock SessionCommit where
  Inv := SingleLive
  Rely := Later
  Same := SameToken
  Ok := NewFamily
  Post label s _ := Accepts label s
  rely_refl := .refl
  rely_trans := .trans
  same_refl := .refl
  same_trans := .trans

/-! ### The commits -/

section

variable {L : Set SessionLock} {t t' : SessionStore} {label : SessionCommit}

theorem SingleLive.mono (h : SingleLive t)
    (hlive : ∀ token ∈ t'.tokens.rows, token.isLive = true → token ∈ t.tokens.rows) :
    SingleLive t' := by
  intro token hm other hm' hfamily hl hl'
  exact h token (hlive token hm hl) other (hlive other hm' hl') hfamily hl hl'

theorem SingleLive.issue {users : Table userSchema} {token : RefreshTokenRecord} (h : SingleLive t)
    (hnew : NewFamily (.issued token.familyId) t) : SingleLive ⟨users, t.tokens.add token⟩ := by
  intro first hm other hm' hfamily hl hl'
  rcases Table.mem_add hm with rfl | hold
  · rcases Table.mem_add hm' with rfl | hold'
    · rfl
    · exact absurd hfamily.symm (hnew other hold')
  · rcases Table.mem_add hm' with rfl | hold'
    · exact absurd hfamily (hnew first hold)
    · exact h first hold other hold' hfamily hl hl'

/-- What is live under the id of a token that is put is that token. -/
theorem ne_of_live {tokens : Table refreshTokenSchema} {current after token : RefreshTokenRecord}
    (hfind : tokens.find current.id = some current) (h : Succeeds current after)
    (hended : after.isLive = false) (hm : token ∈ (tokens.put after).rows)
    (hlive : token.isLive = true) : token ∈ tokens.rows ∧ token.id ≠ current.id := by
  have hstored : (tokens.put after).find token.id = some token := Table.find_of_mem hm
  rw [find_put_token hfind h] at hstored
  by_cases hid : token.id = current.id
  · rw [if_pos hid] at hstored
    rw [← Option.some.inj hstored, hended] at hlive
    cases hlive
  · rw [if_neg hid] at hstored
    exact ⟨Table.mem_of_find hstored, hid⟩

theorem SingleLive.rotate {current after replacement : RefreshTokenRecord} (h : SingleLive t)
    (hfind : t.tokens.find current.id = some current) (hlive : current.isLive = true)
    (hsucceeds : Succeeds current after) (hended : after.isLive = false)
    (hfamily : replacement.familyId = current.familyId) :
    SingleLive { t with tokens := (t.tokens.add replacement).put after } := by
  -- a token that stays live is the replacement, or of another family
  have hcases (token : RefreshTokenRecord)
      (hm : token ∈ ((t.tokens.add replacement).put after).rows) (hl : token.isLive = true) :
      token = replacement ∨ token ∈ t.tokens.rows ∧ token.familyId ≠ replacement.familyId := by
    obtain ⟨hm, hne⟩ := ne_of_live (Table.find_add_of_find hfind) hsucceeds hended hm hl
    refine (Table.mem_add hm).imp_right fun hm => ⟨hm, fun he => hne ?_⟩
    rw [h token hm current (Table.mem_of_find hfind) (he.trans hfamily) hl hlive]
  intro token hm other hm' he hl hl'
  rcases hcases token hm hl with rfl | ⟨hold, hother⟩
  · rcases hcases other hm' hl' with rfl | ⟨-, hother'⟩
    · rfl
    · exact absurd he.symm hother'
  · rcases hcases other hm' hl' with rfl | ⟨hold', -⟩
    · exact absurd he hother
    · exact h token hold other hold' he hl hl'

theorem TokenChange.singleLive (h : TokenChange L t label t') (hinv : SingleLive t)
    (hnew : NewFamily label t) : SingleLive t' := by
  cases h with
  | users => exact hinv
  | issued _ => exact hinv.issue hnew
  | rotated hfind hlive hsucceeds hended hfamily =>
    exact hinv.rotate hfind hlive hsucceeds hended hfamily
  | ended hfind hsucceeds hended =>
    exact hinv.mono fun token hm hl => (ne_of_live hfind hsucceeds hended hm hl).1
  | @revoked _ _ _ kept now =>
    refine hinv.mono fun token hm hl => ?_
    have hstored : (kept.foldl (RefreshTokenRepository.revokeRow now) t.tokens).find token.id =
      some token := Table.find_of_mem hm
    rw [find_revokeRows] at hstored
    split at hstored
    · obtain ⟨before, -, rfl⟩ := Option.map_eq_some_iff.mp hstored
      cases hl
    · exact Table.mem_of_find hstored

theorem fits_families : Fits families where
  same := rfl
  rely := rfl
  commits {label L t t'} h hinv hok := by
    refine ⟨h.singleLive hinv hok, h.later, fun k hk => h.same hk, ?_⟩
    cases h with
    | rotated hfind hlive => exact ⟨_, hfind, hlive⟩
    | _ => exact trivial

end

/-! ### Every run -/

/-- **At most one token of a family is live, and a revoked one is never accepted again.** -/
theorem one_live_token {settings : AuthSettings}
    {w₀ w : World SessionStore SessionLock SessionCommit} (hidle : Idle w₀)
    (hinv : SingleLive w₀.state)
    (hrun : Reaches (step (AuthRequest.program settings)) (Allows NewFamily fun _ _ => True) w₀ w) :
    SingleLive w.state ∧ ∀ token ∈ w.state.tokens.rows, token.isLive = false →
      ∀ w' n next,
        Reaches (step (AuthRequest.program settings)) (Allows NewFamily fun _ _ => True) w w' →
          w'.program n ≠ .commit (.rotated token.id) next := by
  have hcode : ∀ request s, families.Inv s → True →
      wp families (AuthRequest.program settings request) Whatever id ∅ s :=
    fun request s _ _ => wp_auth fits_families
  have hsafe : Safe families w := safe_of_reaches hcode hidle hinv hrun
  refine ⟨hsafe.inv, fun token hm hended w' n next hrun' hcommit => ?_⟩
  obtain ⟨hsafe', hlater⟩ := rely_of_reaches hcode hsafe hrun'
  obtain ⟨after, hafter, hsucceeds⟩ := hlater token.id token (Table.find_of_mem hm)
  obtain ⟨accepted, haccepted, hlive⟩ := (hsafe'.commits hcommit trivial).post
  rw [hafter, Option.some.injEq] at haccepted
  rw [← haccepted, hsucceeds.ended hended] at hlive
  cases hlive

/-- The first token of a family, presented again after it has been replaced. -/
theorem one_live_token_reused :
    ∃ (w w' : World SessionStore SessionLock SessionCommit) (token : RefreshTokenRecord),
      Reaches (step (AuthRequest.program plain)) (Allows NewFamily fun _ _ => True) oneUser w ∧
      Reaches (step (AuthRequest.program plain)) (Allows NewFamily fun _ _ => True) w w' ∧
      w'.state.tokens.rows.length = 2 ∧ token ∈ w.state.tokens.rows ∧ token.isLive = false ∧
      SingleLive w.state ∧ ∀ next, w'.program 0 ≠ .commit (.rotated token.id) next := by
  have hrun : (exec (step (AuthRequest.program plain)) (Allows NewFamily fun _ _ => True) loggedIn
      oneUser).any (fun w => (w.state.tokens.rows.any fun token => token.isLive = false) &&
        (exec (step (AuthRequest.program plain)) (Allows NewFamily fun _ _ => True)
          (.begin 0 (.refreshTokens (presentedToken 1) (issuedToken 3) 0) ::
            List.replicate 5 (.advance 0)) w).any
          fun w' => w'.state.tokens.rows.length = 2) = true := by decide +kernel
  obtain ⟨w, hw, hlater⟩ := (Option.any_eq_true _ _).mp hrun
  obtain ⟨htoken, hlater⟩ := (Bool.and_eq_true _ _).mp hlater
  obtain ⟨token, hm, hended⟩ := List.any_eq_true.mp htoken
  obtain ⟨w', hw', htwo⟩ := (Option.any_eq_true _ _).mp hlater
  obtain ⟨hsingle, hnever⟩ :=
    one_live_token idle_oneUser (by decide +kernel) (reaches_of_exec hw)
  exact ⟨w, w', token, reaches_of_exec hw, reaches_of_exec hw', of_decide_eq_true htwo, hm,
    of_decide_eq_true hended, hsingle, fun next =>
      hnever token hm (of_decide_eq_true hended) w' 0 next (reaches_of_exec hw')⟩

end ReconcileFlow.Access
