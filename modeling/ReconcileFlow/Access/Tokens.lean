import ReconcileFlow.Api.Sessions
import ReconcileFlow.Support.Interference

/-!
# Access — Tokens

All that the authentication requests may commit to the refresh tokens (`TokenChange`): `wp_auth`
leaves of a request the commits that it may come to.  No commit forgets a token or revives it
(`TokenChange.later`), nor touches one that its client has not locked (`TokenChange.same`).
-/

namespace ReconcileFlow.Access

open Support Support.ReadCommitted Persistence Api

/-! ### Tokens in time -/

/-- `after` is the same token, and revoked if `token` was. -/
structure Succeeds (token after : RefreshTokenRecord) : Prop where
  id : after.id = token.id
  user : after.userId = token.userId
  family : after.familyId = token.familyId
  hash : after.tokenHash = token.tokenHash
  ended : token.isLive = false → after.isLive = false

/-- Every token of `s` is still there in `t`. -/
def Later (s t : SessionStore) : Prop :=
  ∀ id token, s.tokens.find id = some token →
    ∃ after, t.tokens.find id = some after ∧ Succeeds token after

/-- What the lock on a token protects. -/
def SameToken : SessionLock → SessionStore → SessionStore → Prop
  | .token id, s, t => s.tokens.find id = t.tokens.find id
  | _, _, _ => True

theorem Succeeds.refl (token : RefreshTokenRecord) : Succeeds token token :=
  ⟨rfl, rfl, rfl, rfl, fun h => h⟩

theorem Succeeds.trans {token after last : RefreshTokenRecord} (h : Succeeds token after)
    (h' : Succeeds after last) : Succeeds token last :=
  ⟨h'.id.trans h.id, h'.user.trans h.user, h'.family.trans h.family, h'.hash.trans h.hash,
    fun hended => h'.ended (h.ended hended)⟩

theorem Succeeds.covers {token after : RefreshTokenRecord} (h : Succeeds token after)
    (scope : TokenScope) : scope.covers after = scope.covers token := by
  cases scope with
  | family id => simp [TokenScope.covers, h.family]
  | user id => simp [TokenScope.covers, h.user]

/-- What is live was. -/
theorem Succeeds.live {token after : RefreshTokenRecord} (h : Succeeds token after)
    (hlive : after.isLive = true) : token.isLive = true := by
  by_contra hended
  rw [h.ended (by simpa using hended)] at hlive
  cases hlive

theorem Succeeds.revoked (token : RefreshTokenRecord) (now : Instant) :
    Succeeds token (token.revoked now) :=
  ⟨rfl, rfl, rfl, rfl, fun _ => rfl⟩

theorem Later.refl (s : SessionStore) : Later s s := fun _ token h => ⟨token, h, .refl token⟩

theorem Later.trans {s t u : SessionStore} (h : Later s t) (h' : Later t u) : Later s u := by
  intro id token hfind
  obtain ⟨after, hafter, hsucceeds⟩ := h id token hfind
  obtain ⟨last, hlast, hsucceeds'⟩ := h' id after hafter
  exact ⟨last, hlast, hsucceeds.trans hsucceeds'⟩

theorem SameToken.refl (k : SessionLock) (s : SessionStore) : SameToken k s s := by
  cases k <;> first | exact trivial | rfl

theorem SameToken.trans {k : SessionLock} {s t u : SessionStore} (h : SameToken k s t)
    (h' : SameToken k t u) : SameToken k s u := by
  cases k <;> first | exact trivial | exact Eq.trans h h'

/-! ### Changes of the table -/

section

variable {tokens : Table refreshTokenSchema} {token after : RefreshTokenRecord}

theorem find_put_token (hfind : tokens.find token.id = some token) (h : Succeeds token after)
    (id : UUID) :
    (tokens.put after).find id = if id = token.id then some after else tokens.find id := by
  rw [← h.id]
  refine Table.find_put (S := refreshTokenSchema) (h.id.symm ▸ hfind) rfl (fun other => ?_) id
  simp [refreshTokenSchema, h.hash]

theorem succeeds_put {before : RefreshTokenRecord} {id : UUID}
    (hbefore : tokens.find before.id = some before) (h : Succeeds before after)
    (hfind : tokens.find id = some token) :
    ∃ last, (tokens.put after).find id = some last ∧ Succeeds token last := by
  rw [find_put_token hbefore h]
  by_cases hid : id = before.id
  · rw [hid, hbefore] at hfind
    exact ⟨after, if_pos hid, Option.some.inj hfind ▸ h⟩
  · exact ⟨token, (if_neg hid).trans hfind, .refl token⟩

/-- Revoking the rows of a list, one after another. -/
theorem find_revokeRows (tokens : Table refreshTokenSchema) (now : Instant) (kept : List UUID)
    (id : UUID) :
    (kept.foldl (RefreshTokenRepository.revokeRow now) tokens).find id =
      if id ∈ kept then (tokens.find id).map (·.revoked now)
      else tokens.find id := by
  induction kept generalizing tokens with
  | nil => rfl
  | cons first kept ih =>
    rw [List.foldl_cons, ih]
    have hrow : (RefreshTokenRepository.revokeRow now tokens first).find id =
        if id = first then (tokens.find id).map (·.revoked now)
        else tokens.find id := by
      unfold RefreshTokenRepository.revokeRow
      cases hfind : tokens.find first with
      | none =>
        by_cases hid : id = first
        · simp [hid, hfind]
        · simp [hid]
      | some token =>
        obtain rfl : token.id = first := Table.key_of_find hfind
        dsimp only
        rw [find_put_token hfind (.revoked token now)]
        by_cases hid : id = token.id
        · simp [hid, hfind]
        · simp [hid]
    rw [hrow]
    by_cases hfirst : id = first
    · subst hfirst
      by_cases hkept : id ∈ kept
      · cases tokens.find id <;> simp [hkept, RefreshTokenRecord.revoked]
      · simp [hkept]
    · simp [hfirst]

end

/-- A commit makes the second store of `t`, under the locks `L`. -/
inductive TokenChange (L : Set SessionLock) (t : SessionStore) : SessionCommit → SessionStore → Prop
  /-- Only users change. -/
  | users {users : Table userSchema} : TokenChange L t .other ⟨users, t.tokens⟩
  | issued {users : Table userSchema} {token : RefreshTokenRecord} :
      .token token.id ∈ L → TokenChange L t (.issued token.familyId) ⟨users, t.tokens.add token⟩
  | rotated {current after replacement : RefreshTokenRecord} :
      t.tokens.find current.id = some current → current.isLive = true → Succeeds current after →
      after.isLive = false → replacement.familyId = current.familyId →
      .token current.id ∈ L → .token replacement.id ∈ L →
      TokenChange L t (.rotated current.id)
        { t with tokens := (t.tokens.add replacement).put after }
  | ended {token after : RefreshTokenRecord} :
      t.tokens.find token.id = some token → Succeeds token after → after.isLive = false →
      .token token.id ∈ L → TokenChange L t .other { t with tokens := t.tokens.put after }
  | revoked {users : Table userSchema} {scope : TokenScope} {seen kept : List UUID} {now : Instant} :
      (∀ id ∈ kept, id ∈ seen ∧ .token id ∈ L) →
      (∀ token ∈ t.tokens.rows, scope.covers token = true → token.isLive = true →
        token.id ∈ seen → token.id ∈ kept) →
      TokenChange L t (.revoked scope seen)
        ⟨users, kept.foldl (RefreshTokenRepository.revokeRow now) t.tokens⟩

namespace TokenChange

variable {L : Set SessionLock} {t t' : SessionStore} {label : SessionCommit}

theorem later (h : TokenChange L t label t') : Later t t' := by
  intro id token hfind
  cases h with
  | users => exact ⟨token, hfind, .refl token⟩
  | issued _ => exact ⟨token, Table.find_add_of_find hfind, .refl token⟩
  | rotated hcurrent _ hsucceeds =>
    exact succeeds_put (Table.find_add_of_find hcurrent) hsucceeds (Table.find_add_of_find hfind)
  | ended hbefore hsucceeds => exact succeeds_put hbefore hsucceeds hfind
  | @revoked _ _ _ kept now =>
    have hrevoked := find_revokeRows t.tokens now kept id
    rw [hfind] at hrevoked
    by_cases hid : id ∈ kept
    · rw [if_pos hid] at hrevoked
      exact ⟨_, hrevoked, .revoked token now⟩
    · rw [if_neg hid] at hrevoked
      exact ⟨token, hrevoked, .refl token⟩

theorem same (h : TokenChange L t label t') {k : SessionLock} (hk : k ∉ L) :
    SameToken k t t' := by
  cases k with
  | token id =>
    have hne {other : UUID} (hlock : SessionLock.token other ∈ L) : id ≠ other :=
      fun he => hk (he ▸ hlock)
    cases h with
    | users => exact Eq.refl (t.tokens.find id)
    | issued hlock => exact (Table.find_add_of_ne (S := refreshTokenSchema) _ (hne hlock)).symm
    | @rotated current after replacement _ _ hsucceeds _ _ hlock hlock' =>
      have hafter : id ≠ after.id := fun he => hne hlock (he.trans hsucceeds.id)
      exact ((Table.find_put_of_ne (S := refreshTokenSchema) (t.tokens.add replacement) hafter).trans
        (Table.find_add_of_ne (S := refreshTokenSchema) _ (hne hlock'))).symm
    | @ended before after _ hsucceeds _ hlock =>
      have hafter : id ≠ after.id := fun he => hne hlock (he.trans hsucceeds.id)
      exact (Table.find_put_of_ne (S := refreshTokenSchema) _ hafter).symm
    | @revoked _ _ _ kept now hkept =>
      have hrevoked := find_revokeRows t.tokens now kept id
      rw [if_neg fun hid => hk (hkept id hid).2] at hrevoked
      exact hrevoked.symm
  | _ => exact trivial

end TokenChange

/-! ### What the requests commit -/

/-- The contract asks no more of the clients than of their changes of the tokens. -/
structure Fits (C : Contract SessionStore SessionLock SessionCommit) : Prop where
  same : C.Same = SameToken
  rely : C.Rely = Later
  commits : ∀ {label L t t'}, TokenChange L t label t' → C.Inv t → C.Ok label t →
    C.Commits label L t t'

section

variable {C : Contract SessionStore SessionLock SessionCommit} {L : Set SessionLock}
  {s t u : SessionStore} {pending : SessionStore → SessionStore}

/-- A token whose lock is held is not changed by others. -/
theorem Fits.find (hC : Fits C) {id : UUID} {token : Option RefreshTokenRecord}
    (hu : C.Interferes L t u) (hlock : .token id ∈ L) (hfind : t.tokens.find id = token) :
    u.tokens.find id = token := by
  have hlocked := hu.same _ hlock
  rw [hC.same] at hlocked
  exact (Eq.symm hlocked).trans hfind

theorem Fits.later (hC : Fits C) (hu : C.Interferes L t u) : Later t u := hC.rely ▸ hu.rely

/-- The token that is presented is the stored one, and locked. -/
theorem wpr_presented (hC : Fits C) {request : RefreshTokenRequest} {claims : TokenClaims}
    {post : Option RefreshTokenRecord → (SessionStore → SessionStore) → Set SessionLock →
      SessionStore → Prop}
    {fail : Error → (SessionStore → SessionStore) → Set SessionLock → SessionStore → Prop}
    (hnone : ∀ L t, C.Inv t → post none id L t)
    (hsome : ∀ t record, C.Inv t → t.tokens.find record.id = some record →
      post (some record) id {.token record.id} t) :
    wpr C (presented request claims) post fail id ∅ s := by
  refine wpr_bind.mpr (wpr_lift.mpr (wp_selectForUpdate.mpr fun t ht => ?_))
  cases hrow : t.tokens.rows.find? fun token => decide (token.tokenHash = request.tokenHash) with
  | none =>
    simp only [id_eq, hrow]
    exact wpr_pure.mpr (hnone _ t ht.inv)
  | some row =>
    simp only [id_eq, hrow]
    refine fun u hu => wpr_pure.mpr ?_
    cases hagain : u.tokens.rows.find? fun token =>
        decide (token.tokenHash = request.tokenHash) with
    | none => exact hnone _ u hu.inv
    | some record =>
      -- the row that was locked is still the one with this hash
      have hrecord : record.id = row.id := by
        have hhash : row.tokenHash = request.tokenHash := by simpa using List.find?_some hrow
        have hhash' : record.tokenHash = request.tokenHash := by simpa using List.find?_some hagain
        have hfound : t.tokens.find row.id = some row :=
          Table.find_of_mem (List.mem_of_find?_eq_some hrow)
        obtain ⟨after, hafter, hsucceeds⟩ := hC.later hu row.id row hfound
        have hclash : refreshTokenSchema.clash record after = true := by
          simp [refreshTokenSchema, hhash', hsucceeds.hash, hhash]
        rw [Table.eq_of_clash (List.mem_of_find?_eq_some hagain) (Table.mem_of_find hafter) hclash]
        exact hsucceeds.id
      cases hmatch : (some record).filter fun record =>
          decide (record.id = claims.tokenId ∧ record.userId = claims.subject) with
      | none => exact hnone _ u hu.inv
      | some found =>
        obtain ⟨he, -⟩ := Option.filter_eq_some_iff.mp hmatch
        obtain rfl := Option.some.inj he
        have hlocks : insert (SessionLock.token row.id) ∅ =
            ({.token record.id} : Set SessionLock) := by rw [hrecord]; simp
        rw [hlocks]
        exact hsome u record hu.inv (Table.find_of_mem (List.mem_of_find?_eq_some hagain))

/-- The tokens of the scope that are live at the commit were found by the statement that selected
them, or came after it. -/
theorem wpr_revokeLive (hC : Fits C) {scope : TokenScope} {now : Instant}
    (hpending : ∀ s, (pending s).tokens = s.tokens) :
    wpr C (RefreshTokenRepository.revokeLive scope now)
      (Committable C fun revocation => .revoked scope revocation.seen) Whatever pending L s := by
  refine wpr_bind.mpr (wpr_lift.mpr (wp_get.mpr fun t ht => ?_))
  rw [hpending]
  refine wpr_bind.mpr (wpr_lift.mpr (wp_lockRows ht.inv fun u kept hu hkept => ?_))
  refine wpr_bind.mpr (wpr_lift.mpr (wp_update.mpr (wpr_pure.mpr fun v hv hok => ?_)))
  rw [hpending] at *
  refine hC.commits (.revoked (fun id hid => ⟨?_, .inr ⟨id, hkept.sublist.subset hid, rfl⟩⟩)
    fun token hm hcovers hlive hseen => ?_) hv.inv hok
  · obtain ⟨token, htoken, rfl⟩ := List.mem_map.mp (hkept.sublist.subset hid)
    exact List.mem_map_of_mem (List.mem_of_mem_filter htoken)
  · by_contra hdropped
    have hstored : v.tokens.find token.id = some token := Table.find_of_mem hm
    have hlater {w : SessionStore} (hwv : Later w v) {row : RefreshTokenRecord}
        (hrow : w.tokens.find token.id = some row) :
        scope.covers row = true ∧ row.isLive = true := by
      obtain ⟨after, hafter, hsucceeds⟩ := hwv _ _ hrow
      obtain rfl := Option.some.inj (hafter.symm.trans hstored)
      exact ⟨hsucceeds.covers scope ▸ hcovers, hsucceeds.live hlive⟩
    obtain ⟨row, hrow, hid⟩ := List.mem_map.mp hseen
    have hfound : t.tokens.find token.id = some row := hid ▸ Table.find_of_mem hrow
    have huv := hC.later hv
    obtain ⟨hrowCovers, hrowLive⟩ := hlater ((hC.later hu).trans huv) hfound
    obtain ⟨w, htw, hwu, hstill⟩ := hkept.dropped token.id (hid ▸ List.mem_map_of_mem
      (List.mem_filter.mpr ⟨hrow, by simp [hrowCovers, hrowLive]⟩)) hdropped
    obtain ⟨row', hrow', -⟩ := hC.later htw _ _ hfound
    obtain ⟨hcovers', hlive'⟩ := hlater ((hC.later hwu).trans huv) hrow'
    rw [hpending, hrow'] at hstill
    simp [hcovers', hlive'] at hstill

theorem wpr_revoke {α : Type} {value : α} {label : α → SessionCommit} (hC : Fits C)
    (hlabel : label value = .other) {token : RefreshTokenRecord} {now : Instant}
    (hfind : t.tokens.find token.id = some token) :
    wpr C (do
      RefreshTokenRepository.revoke token now
      return value) (Committable C label) Whatever id {.token token.id} t := by
  unfold RefreshTokenRepository.revoke
  refine wpr_bind.mpr ?_
  split
  · refine wpr_lift.mpr (wp_update.mpr (wpr_pure.mpr fun u hu hok => ?_))
    have hstored := hC.find hu rfl hfind
    rw [hlabel] at hok ⊢
    exact hC.commits (.ended hstored (.revoked token now) rfl rfl) hu.inv hok
  · refine wpr_pure.mpr (wpr_pure.mpr fun u hu hok => ?_)
    rw [hlabel] at hok ⊢
    exact hC.commits .users hu.inv hok

theorem wpr_issue {α : Type} {value : α} {label : α → SessionCommit} (hC : Fits C)
    {token : RefreshTokenRecord} (hlabel : label value = .issued token.familyId) (ht : C.Inv t)
    (hpending : ∀ u, (pending u).tokens = u.tokens) :
    wpr C (do
      RefreshTokenRepository.create token
      return value) (Committable C label) Whatever pending L t := by
  refine wpr_bind.mpr (wpr_insert ht (fun u hu _ => wpr_pure.mpr fun v hv hok => ?_)
    fun _ _ => trivial)
  rw [hlabel] at hok ⊢
  rw [hpending]
  exact hC.commits (.issued (.inr (by simp))) hv.inv hok

theorem wpr_rotate {α : Type} {value : α} {label : α → SessionCommit} (hC : Fits C)
    {current : RefreshTokenRecord} {replacementId : UUID} {replacementHash : String}
    {expiresAt now : Instant} (hlabel : label value = .rotated current.id) (ht : C.Inv t)
    (hfind : t.tokens.find current.id = some current) (hlive : current.isLive = true) :
    wpr C (do
      RefreshTokenRepository.rotate current replacementId replacementHash expiresAt now
      return value) (Committable C label) Whatever id {.token current.id} t := by
  refine wpr_bind.mpr (wpr_bind.mpr (wpr_insert ht (fun u hu _ => ?_) fun _ _ => trivial))
  refine wpr_lift.mpr (wp_update.mpr (wpr_pure.mpr fun v hv hok => ?_))
  have hstored := hC.find hv (.inl rfl) (hC.find hu rfl hfind)
  have hsucceeds : Succeeds current
      { current.revoked now with replacedById := some replacementId } :=
    ⟨rfl, rfl, rfl, rfl, fun _ => rfl⟩
  rw [hlabel] at hok ⊢
  exact hC.commits (.rotated hstored hlive hsucceeds rfl rfl (.inl rfl) (.inr (by simp))) hv.inv hok

variable {settings : AuthSettings} {now : Instant}

/-- A failed login leaves the tokens. -/
theorem committable_users {α : Type} {value : α} {label : α → SessionCommit} (hC : Fits C)
    (hlabel : label value = .other) (hpending : ∀ u, (pending u).tokens = u.tokens) :
    Committable C label value pending L t := by
  intro u hu hok
  rw [hlabel] at hok ⊢
  have hchange : TokenChange L u .other ⟨(pending u).users, u.tokens⟩ := .users
  rw [← hpending u] at hchange
  exact hC.commits hchange hu.inv hok

theorem wpr_login (hC : Fits C) {request : LoginRequest} :
    wpr C (login settings request now) Whatever Whatever id ∅ s := by
  refine wpr_bind.mpr (wpr_committable (fun outcome _ => ?_) (fun _ _ => trivial) ?_)
  · cases outcome <;> exact trivial
  refine wpr_bind.mpr (wpr_lift.mpr (wp_selectForUpdate_any fun found L t ht => ?_))
  cases found with
  | none => exact wpr_pure.mpr (committable_users hC rfl fun _ => rfl)
  | some user =>
    dsimp only
    split
    · exact wpr_pure.mpr (committable_users hC rfl fun _ => rfl)
    · split
      · refine wpr_bind.mpr (wpr_lift.mpr (wp_update.mpr ?_))
        exact wpr_pure.mpr (committable_users hC rfl fun _ => rfl)
      · refine wpr_bind.mpr (wpr_lift.mpr (wp_update.mpr ?_))
        exact wpr_issue hC rfl ht fun _ => rfl

theorem wpr_refreshTokens (hC : Fits C) {request : RefreshTokenRequest}
    {replacement : IssuedToken} :
    wpr C (refreshTokens request replacement now) Whatever Whatever id ∅ s := by
  refine wpr_bind.mpr (wpr_expect.mpr ⟨fun claims _ => ?_, fun _ => trivial⟩)
  refine wpr_bind.mpr (wpr_committable (fun outcome _ => ?_) (fun _ _ => trivial) ?_)
  · cases outcome <;> exact trivial
  refine wpr_bind.mpr (wpr_presented hC (fun L t ht => ?_) fun t record ht hfind => ?_)
  · exact wpr_pure.mpr (committable_users hC rfl fun _ => rfl)
  · dsimp only
    split
    · exact wpr_bind.mpr (wpr_revokeLive hC fun _ => rfl)
    · next hlive =>
      split
      · exact wpr_revoke hC rfl hfind
      · refine wpr_bind.mpr (wpr_lift.mpr (wp_get.mpr fun u hu => ?_))
        split
        · exact wpr_rotate hC rfl hu.inv (hC.find hu rfl hfind) (by simpa using hlive)
        · exact wpr_bind.mpr (wpr_revokeLive hC fun _ => rfl)

theorem wpr_logout (hC : Fits C) {request : RefreshTokenRequest} :
    wpr C (logout request now) Whatever Whatever id ∅ s := by
  refine wpr_bind.mpr (wpr_expect.mpr ⟨fun claims _ => ?_, fun _ => trivial⟩)
  refine wpr_bind.mpr (wpr_committable (fun found _ => ?_) (fun _ _ => trivial) ?_)
  · exact wpr_ensure.mpr ⟨fun _ => trivial, fun _ => trivial⟩
  refine wpr_bind.mpr (wpr_presented hC (fun L t ht => ?_) fun t record ht hfind => ?_)
  · exact wpr_pure.mpr (committable_users hC rfl fun _ => rfl)
  · exact wpr_revoke hC rfl hfind

/-- Who is logged in is known before the block begins. -/
theorem wpr_currentUser {α : Type} {f : UserRecord → SessionRequest α} {token : AccessToken}
    (h : ∀ user t, C.Inv t → wpr C (f user) Whatever Whatever id ∅ t) :
    wpr C (currentUser token >>= f) Whatever Whatever id ∅ s := by
  refine wpr_bind.mpr (wpr_bind.mpr (wpr_expect.mpr ⟨fun subject _ => ?_, fun _ => trivial⟩))
  refine wpr_bind.mpr (wpr_lift.mpr (wp_get.mpr fun t ht => ?_))
  exact wpr_expect.mpr ⟨fun user _ => h user t ht.inv, fun _ => trivial⟩

theorem wpr_changePassword (hC : Fits C) {token : AccessToken} {request : ChangePasswordRequest} :
    wpr C (changePassword settings token request now) Whatever Whatever id ∅ s := by
  refine wpr_currentUser fun user t ht => wpr_bind.mpr ?_
  refine wpr_committable (fun _ _ => trivial) (fun _ _ => trivial) ?_
  refine wpr_bind.mpr (wpr_lift.mpr (wp_selectForUpdate_any fun found L u hu => ?_))
  refine wpr_bind.mpr (wpr_expect.mpr ⟨fun stored _ => ?_, fun _ => trivial⟩)
  refine wpr_bind.mpr (wpr_ensure.mpr ⟨fun _ => ?_, fun _ => trivial⟩)
  refine wpr_bind.mpr (wpr_lift.mpr (wp_update.mpr ?_))
  exact wpr_revokeLive hC fun _ => rfl

theorem wpr_revokeAllSessions (hC : Fits C) {token : AccessToken} :
    wpr C (revokeAllSessions token now) Whatever Whatever id ∅ s := by
  refine wpr_currentUser fun user t ht => wpr_bind.mpr ?_
  refine wpr_committable (fun _ _ => trivial) (fun _ _ => trivial) ?_
  exact wpr_revokeLive hC fun _ => rfl

/-- **Every request keeps to a contract that asks no more than this of it.** -/
theorem wp_auth (hC : Fits C) {request : AuthRequest} :
    wp C (request.program settings) Whatever id ∅ s := by
  cases request with
  | login request now => exact wp_serve (wpr_login hC)
  | refreshTokens request replacement now => exact wp_serve (wpr_refreshTokens hC)
  | logout request now => exact wp_serve (wpr_logout hC)
  | changePassword token request now => exact wp_serve (wpr_changePassword hC)
  | revokeAllSessions token now => exact wp_serve (wpr_revokeAllSessions hC)

end

/-! ### A first login -/

/-- Passwords are stored as they are. -/
def plain : AuthSettings where
  verify password hash := decide (password = hash)
  loginMaxFailedAttempts := 5
  loginLockoutMinutes := 15

/-- There is one user, and no session. -/
def oneUser : World SessionStore SessionLock SessionCommit where
  state := ⟨Table.empty.add { id := 1, email := "ada", passwordHash := "secret" }, .empty⟩

theorem idle_oneUser : Idle oneUser := fun _ => rfl

/-- A hash for each token. -/
def tallyHash (n : UUID) : String := String.ofList (List.replicate n.toNat 'a')

def issuedToken (n : UUID) : IssuedToken := ⟨n, tallyHash n, 1000⟩

def presentedToken (n : UUID) : RefreshTokenRequest := ⟨some ⟨1, n⟩, tallyHash n⟩

/-- The user logs in, which issues the token 1, and the token is replaced by 2. -/
def loggedIn : List (Action AuthRequest) :=
  .begin 0 (.login ⟨"ada", "secret", issuedToken 1, 1⟩ 0) :: List.replicate 8 (.advance 0) ++
  .begin 0 (.refreshTokens (presentedToken 1) (issuedToken 2) 0) :: List.replicate 9 (.advance 0)

end ReconcileFlow.Access
