import ReconcileFlow.Api.Memberships

/-!
# Api — Sessions

Login, refresh, logout, and the two requests that end every session of a user, statement by
statement.  A request comes with what the token manager makes of the tokens it presents and issues,
with the ids it draws, and with the moment; `verify` is the password manager's.  The audit events
of the routes are left out.
-/

namespace ReconcileFlow.Api

open Support Support.Program Persistence

/-- The rows that sessions depend on. -/
structure SessionStore where
  users : Table userSchema
  tokens : Table refreshTokenSchema

inductive SessionLock
  | user (id : UUID)
  | token (id : UUID)
  | tokenHash (hash : String)
deriving DecidableEq

/-- The tokens that are revoked together. -/
inductive TokenScope
  | family (id : UUID)
  | user (id : UUID)
deriving DecidableEq

def TokenScope.covers : TokenScope → RefreshTokenRecord → Bool
  | .family id, token => decide (token.familyId = id)
  | .user id, token => decide (token.userId = id)

/-- What a commit did to the tokens. -/
inductive SessionCommit
  /-- A login issued the first token of the family. -/
  | issued (familyId : UUID)
  /-- A refresh accepted the token. -/
  | rotated (tokenId : UUID)
  /-- The live tokens of the scope were revoked, by a statement that began when `seen` were the
  committed tokens. -/
  | revoked (scope : TokenScope) (seen : List UUID)
  | other
deriving DecidableEq

abbrev SessionRequest := ExceptT Error (Program SessionStore SessionLock SessionCommit)

/-! ### Repositories -/

namespace UserRepository

def getByEmail (email : String) : SessionRequest (Option UserRecord) :=
  ExceptT.lift (selectForUpdate
    (fun store => store.users.rows.find? fun user => decide (user.email = email))
    fun user => .user user.id)

/-- `get` with `lock=True`. -/
def getLocked (userId : UUID) : SessionRequest (Option UserRecord) :=
  ExceptT.lift (selectForUpdate (fun store => store.users.find userId) fun user => .user user.id)

/-- `update_password`, `record_failed_login` and `reset_login_protection`. -/
def flush (user : UserRecord) : SessionRequest Unit :=
  ExceptT.lift (update fun store => { store with users := store.users.put user })

end UserRepository

def recordFailedLogin (user : UserRecord) (threshold : Nat) (lockedUntil : Instant) : UserRecord :=
  { user with
    failedLoginAttempts := user.failedLoginAttempts + 1
    lockedUntil :=
      if threshold ≤ user.failedLoginAttempts + 1 then some lockedUntil else user.lockedUntil }

def resetLoginProtection (user : UserRecord) : UserRecord :=
  { user with failedLoginAttempts := 0, lockedUntil := none }

namespace RefreshTokenRepository

def create (token : RefreshTokenRecord) : SessionRequest Unit :=
  insert integrityError [.token token.id, .tokenHash token.tokenHash]
    (fun store => (store.tokens.find token.id).isSome ||
      store.tokens.rows.any fun other => decide (other.tokenHash = token.tokenHash))
    fun store => { store with tokens := store.tokens.add token }

/-- `get_by_hash` with `lock=True`. -/
def getByHash (tokenHash : String) : SessionRequest (Option RefreshTokenRecord) :=
  ExceptT.lift (selectForUpdate
    (fun store => store.tokens.rows.find? fun token => decide (token.tokenHash = tokenHash))
    fun token => .token token.id)

def flush (token : RefreshTokenRecord) : SessionRequest Unit :=
  ExceptT.lift (update fun store => { store with tokens := store.tokens.put token })

def rotate (current : RefreshTokenRecord) (replacementId : UUID) (replacementHash : String)
    (replacementExpiresAt now : Instant) : SessionRequest Unit := do
  create {
    id := replacementId, userId := current.userId, familyId := current.familyId
    tokenHash := replacementHash, expiresAt := replacementExpiresAt }
  flush { current.revoked now with replacedById := some replacementId }

def revoke (token : RefreshTokenRecord) (now : Instant) : SessionRequest Unit :=
  if token.isLive then flush (token.revoked now) else return

/-- `UPDATE … SET revoked_at` of one row. -/
def revokeRow (now : Instant) (tokens : Table refreshTokenSchema) (tokenId : UUID) :
    Table refreshTokenSchema :=
  match tokens.find tokenId with
  | some token => tokens.put (token.revoked now)
  | none => tokens

structure Revocation where
  /-- The tokens that were committed when the statement began. -/
  seen : List UUID
  count : Nat

/-- What `revoke_family` and `revoke_all_for_user` have in common. -/
def revokeLive (scope : TokenScope) (now : Instant) : SessionRequest Revocation := do
  let live (token : RefreshTokenRecord) : Bool := scope.covers token && token.isLive
  let found ← ExceptT.lift (get fun store => store.tokens.rows)
  -- of the tokens that were live when the statement began, those that still are
  let records ← ExceptT.lift (lockRows SessionLock.token
    (fun tokenId (store : SessionStore) => (store.tokens.find tokenId).any live)
    ((found.filter live).map (·.id)))
  ExceptT.lift (update fun store =>
    { store with tokens := records.foldl (revokeRow now) store.tokens })
  return ⟨found.map (·.id), records.length⟩

def revokeFamily (familyId : UUID) (now : Instant) : SessionRequest Revocation :=
  revokeLive (.family familyId) now

def revokeAllForUser (userId : UUID) (now : Instant) : SessionRequest Revocation :=
  revokeLive (.user userId) now

end RefreshTokenRepository

/-! ### Routes -/

structure AuthSettings where
  /-- `PasswordManager.verify`. -/
  verify : String → String → Bool
  loginMaxFailedAttempts : Nat
  loginLockoutMinutes : Nat

/-- A refresh token that `issue_refresh` has made. -/
structure IssuedToken where
  tokenId : UUID
  tokenHash : String
  expiresAt : Instant

structure TokenClaims where
  subject : UUID
  tokenId : UUID
deriving DecidableEq

structure RefreshTokenRequest where
  /-- What `decode_refresh` makes of the token, if it is valid. -/
  claims : Option TokenClaims
  /-- What `hash_refresh_token` makes of it. -/
  tokenHash : String

def invalidCredentials : Error :=
  .api 401 "INVALID_CREDENTIALS" "The email or password is incorrect."

def invalidRefreshToken : Error :=
  .api 401 "INVALID_REFRESH_TOKEN" "The refresh token is invalid."

inductive LoginOutcome
  | invalid
  | loggedIn (familyId : UUID)

def LoginOutcome.commit : LoginOutcome → SessionCommit
  | .invalid => .other
  | .loggedIn familyId => .issued familyId

structure LoginRequest where
  email : String
  password : String
  refresh : IssuedToken
  familyId : UUID

def login (settings : AuthSettings) (request : LoginRequest) (now : Instant) :
    SessionRequest IssuedToken := do
  let outcome ← unitOfWork LoginOutcome.commit do
    let found ← UserRepository.getByEmail request.email
    match found with
    | none => return .invalid
    | some user =>
      if user.lockedUntil.any (fun lockedUntil => decide (now < lockedUntil)) ∨ user.isActive = false then
        return .invalid
      else if settings.verify request.password user.passwordHash = false then
        -- a lock that is over is dropped, with the failures that led to it
        let unlocked := if user.lockedUntil.isSome then resetLoginProtection user else user
        UserRepository.flush (recordFailedLogin unlocked settings.loginMaxFailedAttempts
          (now + seconds (60 * settings.loginLockoutMinutes)))
        return .invalid
      else
        UserRepository.flush (resetLoginProtection user)
        RefreshTokenRepository.create {
          id := request.refresh.tokenId, userId := user.id, familyId := request.familyId
          tokenHash := request.refresh.tokenHash, expiresAt := request.refresh.expiresAt }
        return .loggedIn request.familyId
  match outcome with
  | .invalid => throw invalidCredentials
  | .loggedIn _ => return request.refresh

/-- The token that the request presents, locked, if it is stored as the claims have it. -/
def presented (request : RefreshTokenRequest) (claims : TokenClaims) :
    SessionRequest (Option RefreshTokenRecord) := do
  let record ← RefreshTokenRepository.getByHash request.tokenHash
  return record.filter fun record =>
    decide (record.id = claims.tokenId ∧ record.userId = claims.subject)

inductive RefreshOutcome
  | invalid
  | reused (familyId : UUID) (revocation : RefreshTokenRepository.Revocation)
  | userInactive (familyId : UUID) (revocation : RefreshTokenRepository.Revocation)
  | rotated (tokenId : UUID)

def RefreshOutcome.commit : RefreshOutcome → SessionCommit
  | .invalid => .other
  | .reused familyId revocation => .revoked (.family familyId) revocation.seen
  | .userInactive familyId revocation => .revoked (.family familyId) revocation.seen
  | .rotated tokenId => .rotated tokenId

def refreshTokens (request : RefreshTokenRequest) (replacement : IssuedToken) (now : Instant) :
    SessionRequest IssuedToken := do
  let claims ← expect invalidRefreshToken request.claims
  let outcome ← unitOfWork RefreshOutcome.commit do
    let record ← presented request claims
    match record with
    | none => return .invalid
    | some record =>
      -- a token that is presented again may have been stolen
      if record.isLive = false then
        let revocation ← RefreshTokenRepository.revokeFamily record.familyId now
        return .reused record.familyId revocation
      else if record.expiresAt ≤ now then
        RefreshTokenRepository.revoke record now
        return .invalid
      else
        -- the user is not locked
        let user ← ExceptT.lift (get fun store => store.users.find record.userId)
        if user.any (·.isActive) then
          RefreshTokenRepository.rotate record replacement.tokenId replacement.tokenHash
            replacement.expiresAt now
          return .rotated record.id
        else
          let revocation ← RefreshTokenRepository.revokeFamily record.familyId now
          return .userInactive record.familyId revocation
  match outcome with
  | .rotated _ => return replacement
  | .reused .. => throw (.api 401 "REFRESH_TOKEN_REUSED" "The refresh token is invalid.")
  | .invalid | .userInactive .. => throw invalidRefreshToken

def logout (request : RefreshTokenRequest) (now : Instant) : SessionRequest Unit := do
  let claims ← expect invalidRefreshToken request.claims
  let found ← unitOfWork (fun _ => .other) do
    let record ← presented request claims
    match record with
    | none => return false
    | some record =>
      RefreshTokenRepository.revoke record now
      return true
  ensure (found = true) invalidRefreshToken

/-- `get_current_user`. -/
def currentUser (token : AccessToken) : SessionRequest UserRecord := do
  let subject ← expect invalidAccessToken token
  let user ← ExceptT.lift (get fun store => store.users.find subject)
  expect invalidAccessToken (user.filter (·.isActive))

structure ChangePasswordRequest where
  currentPassword : String
  newPassword : String
  /-- What `PasswordManager.hash` makes of the new password. -/
  newPasswordHash : String

def changePassword (settings : AuthSettings) (token : AccessToken) (request : ChangePasswordRequest)
    (now : Instant) : SessionRequest Unit := do
  let user ← currentUser token
  let _ ← unitOfWork (fun revocation => .revoked (.user user.id) revocation.seen) do
    let found ← UserRepository.getLocked user.id
    let stored ← expect
      (.api 401 "INVALID_CURRENT_PASSWORD" "The current password is incorrect.")
      (found.filter fun stored => settings.verify request.currentPassword stored.passwordHash)
    ensure (settings.verify request.newPassword stored.passwordHash = false)
      (.api 409 "PASSWORD_REUSE" "The new password must be different from the current password.")
    UserRepository.flush { stored with passwordHash := request.newPasswordHash }
    RefreshTokenRepository.revokeAllForUser user.id now

def revokeAllSessions (token : AccessToken) (now : Instant) : SessionRequest Unit := do
  let user ← currentUser token
  let _ ← unitOfWork (fun revocation => .revoked (.user user.id) revocation.seen)
    (RefreshTokenRepository.revokeAllForUser user.id now)

/-! ### Any requests -/

inductive AuthRequest
  | login (request : LoginRequest) (now : Instant)
  | refreshTokens (request : RefreshTokenRequest) (replacement : IssuedToken) (now : Instant)
  | logout (request : RefreshTokenRequest) (now : Instant)
  | changePassword (token : AccessToken) (request : ChangePasswordRequest) (now : Instant)
  | revokeAllSessions (token : AccessToken) (now : Instant)

/-- What a request runs. -/
def AuthRequest.program (settings : AuthSettings) :
    AuthRequest → Program SessionStore SessionLock SessionCommit Unit
  | .login request now => serve (Api.login settings request now)
  | .refreshTokens request replacement now => serve (Api.refreshTokens request replacement now)
  | .logout request now => serve (Api.logout request now)
  | .changePassword token request now => serve (Api.changePassword settings token request now)
  | .revokeAllSessions token now => serve (Api.revokeAllSessions token now)

end ReconcileFlow.Api
