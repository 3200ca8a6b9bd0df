import ReconcileFlow.Api.Sessions
import ReconcileFlow.Support.Alone
import ReconcileFlow.Support.Lockout

/-!
# Api — Login protection

How many passwords can be tried for one user.  The failed logins and the lock of a user are a
`Lockout`, and a login that is refused moves it as a try does (`answer_eq`); so whoever never
succeeds gets an answer that depends on the password at most so often (`guesses_bounded`).
-/

namespace ReconcileFlow.Api

open Support Support.Program Persistence

/-- A login request, served at `now`. -/
structure LoginAttempt where
  request : LoginRequest
  now : Instant

namespace SessionStore

def userWith (store : SessionStore) (email : String) : Option UserRecord :=
  store.users.rows.find? fun user => decide (user.email = email)

/-- Neither the id nor the hash is that of a stored token. -/
def Fresh (store : SessionStore) (issued : IssuedToken) : Prop :=
  store.tokens.find issued.tokenId = none ∧
    ∀ token ∈ store.tokens.rows, token.tokenHash ≠ issued.tokenHash

end SessionStore

def protection (user : UserRecord) : Lockout :=
  ⟨user.failedLoginAttempts, user.lockedUntil⟩

/-- `timedelta(minutes=settings.login_lockout_minutes)`. -/
def AuthSettings.lockout (settings : AuthSettings) : Int :=
  seconds (60 * settings.loginLockoutMinutes)

variable (settings : AuthSettings)

/-- The user after a wrong password. -/
def refused (user : UserRecord) (now : Instant) : UserRecord :=
  recordFailedLogin (if user.lockedUntil.isSome then resetLoginProtection user else user)
    settings.loginMaxFailedAttempts (now + settings.lockout)

namespace LoginAttempt

/-- The response of `login`, and what it leaves. -/
def answer (attempt : LoginAttempt) (store : SessionStore) :
    Except Error IssuedToken × SessionStore :=
  let served := respond (login settings attempt.request attempt.now) ⟨store, id⟩
  (served.1, served.2.committed)

/-- No lock is active. -/
def decidedByPassword (attempt : LoginAttempt) (store : SessionStore) : Bool :=
  (store.userWith attempt.request.email).any fun user => !(protection user).closed attempt.now

/-- A lock is active. -/
def locked (attempt : LoginAttempt) (store : SessionStore) : Bool :=
  (store.userWith attempt.request.email).any fun user => (protection user).closed attempt.now

end LoginAttempt

/-- A login as it was answered. -/
structure ServedLogin where
  before : SessionStore
  attempt : LoginAttempt
  answer : Except Error IssuedToken

def serveLogins : SessionStore → List LoginAttempt → List ServedLogin
  | _, [] => []
  | store, attempt :: attempts =>
    ⟨store, attempt, (attempt.answer settings store).1⟩ ::
      serveLogins (attempt.answer settings store).2 attempts

/-- How many of the answers depended on the password. -/
def guesses (served : List ServedLogin) : Nat :=
  served.countP fun login => login.attempt.decidedByPassword login.before

theorem guesses_cons (login : ServedLogin) (served : List ServedLogin) :
    guesses (login :: served) =
      (if login.attempt.decidedByPassword login.before then 1 else 0) + guesses served := by
  unfold guesses
  rw [List.countP_cons, add_comm]

/-! ### One login -/

section

variable {settings} {store : SessionStore} {user : UserRecord} {attempt : LoginAttempt}

theorem answer_of_locked (h : attempt.locked store = true) :
    attempt.answer settings store = (.error invalidCredentials, store) := by
  obtain ⟨user, hstored, hclosed⟩ := (Option.any_eq_true _ _).mp h
  have hfound : store.users.rows.find? (fun user => decide (user.email = attempt.request.email)) =
      some user := hstored
  have hlocked : user.lockedUntil.any (fun lockedUntil => decide (attempt.now < lockedUntil)) =
      true := hclosed
  unfold LoginAttempt.answer login UserRepository.getByEmail
  simp [respond_bind, respond_unitOfWork, hfound, hlocked, Connection.commit]

/-- While the user is not locked the password decides. -/
theorem answer_of_open (hstored : store.userWith attempt.request.email = some user)
    (hactive : user.isActive = true) (hopen : (protection user).closed attempt.now = false)
    (hfresh : store.Fresh attempt.request.refresh) :
    if settings.verify attempt.request.password user.passwordHash then
      (attempt.answer settings store).1 = .ok attempt.request.refresh
    else attempt.answer settings store = (.error invalidCredentials,
      { store with users := store.users.put (refused settings user attempt.now) }) := by
  have hfound : store.users.rows.find? (fun user => decide (user.email = attempt.request.email)) =
      some user := hstored
  have hunlocked : user.lockedUntil.any (fun lockedUntil => decide (attempt.now < lockedUntil)) =
      false := hopen
  unfold LoginAttempt.answer login UserRepository.getByEmail
  cases hverify : settings.verify attempt.request.password user.passwordHash with
  | false =>
    simp [respond_bind, respond_unitOfWork, hfound, hunlocked, hactive, hverify,
      UserRepository.flush, Connection.commit, Connection.view, Connection.write, refused,
      AuthSettings.lockout]
  | true =>
    have hhash : store.tokens.rows.any
        (fun other => decide (other.tokenHash = attempt.request.refresh.tokenHash)) = false := by
      simpa using hfresh.2
    simp [respond_bind, respond_unitOfWork, hfound, hunlocked, hactive, hverify,
      UserRepository.flush, RefreshTokenRepository.create, hfresh.1, hhash]

/-- A wrong password is a failure of the lockout. -/
theorem protection_refused (user : UserRecord) (now : Instant) :
    protection (refused settings user now) =
      (protection user).fail settings.loginMaxFailedAttempts settings.lockout now := by
  unfold protection refused recordFailedLogin Lockout.fail resetLoginProtection
  cases hlocked : user.lockedUntil <;> simp [hlocked]

theorem userWith_put (user' : UserRecord) {email : String}
    (hstored : store.userWith email = some user) (hid : user'.id = user.id)
    (hemail : user'.email = user.email) :
    ({ store with users := store.users.put user' } : SessionStore).userWith email = some user' := by
  have hm : user ∈ store.users.rows := List.mem_of_find?_eq_some hstored
  have hat : user.email = email := by simpa using List.find?_some hstored
  have hstays : user' ∈ (store.users.put user').rows := by
    refine Table.mem_put_self (s := user) ?_ rfl fun other hother hne => ?_
    · rw [show userSchema.key user' = userSchema.key user from hid]
      exact Table.find_of_mem hm
    · have hapart : user.email ≠ other.email := fun he =>
        hne ((congrArg UserRecord.id (Table.eq_of_clash hm hother (decide_eq_true he))).symm.trans
          hid.symm)
      simp [userSchema, hemail, hapart, hapart.symm]
  show (store.users.put user').rows.find? _ = _
  cases hfound : (store.users.put user').rows.find? fun user => decide (user.email = email) with
  | none => simpa [hemail, hat] using List.find?_eq_none.mp hfound user' hstays
  | some other =>
    have hother : other.email = email := by simpa using List.find?_some hfound
    have hclash : userSchema.clash other user' = true :=
      decide_eq_true (hother.trans (hemail.trans hat).symm)
    rw [Table.eq_of_clash (List.mem_of_find?_eq_some hfound) hstays hclash]

end

/-! ### Every sequence of logins -/

section

variable {settings} {email : String}

/-- As long as none succeeds, the logins that the password decides are the tries that find the
lockout open. -/
theorem guesses_eq_tries {store : SessionStore} {user : UserRecord} {attempts : List LoginAttempt}
    (hstored : store.userWith email = some user) (hactive : user.isActive = true)
    (hsame : ∀ attempt ∈ attempts, attempt.request.email = email)
    (hfresh : ∀ attempt ∈ attempts, store.Fresh attempt.request.refresh)
    (hrefused : ∀ login ∈ serveLogins settings store attempts, login.answer.isOk = false) :
    guesses (serveLogins settings store attempts) =
      (protection user).tries settings.loginMaxFailedAttempts settings.lockout
        (attempts.map (·.now)) := by
  induction attempts generalizing store user with
  | nil => rfl
  | cons attempt attempts ih =>
    have hat : store.userWith attempt.request.email = some user :=
      hsame attempt List.mem_cons_self ▸ hstored
    have hsame' : ∀ later ∈ attempts, later.request.email = email := fun later hm =>
      hsame later (List.mem_cons_of_mem _ hm)
    have hfresh' : ∀ later ∈ attempts, store.Fresh later.request.refresh := fun later hm =>
      hfresh later (List.mem_cons_of_mem _ hm)
    have hhead := hrefused _ List.mem_cons_self
    have htail : ∀ login ∈ serveLogins settings (attempt.answer settings store).2 attempts,
        login.answer.isOk = false := fun login hm => hrefused login (List.mem_cons_of_mem _ hm)
    rw [serveLogins, guesses_cons, List.map_cons, Lockout.tries, Lockout.attempt]
    cases hclosed : (protection user).closed attempt.now with
    | true =>
      have hlocked : attempt.locked store = true := by simp [LoginAttempt.locked, hat, hclosed]
      have hundecided : attempt.decidedByPassword store = false := by
        simp [LoginAttempt.decidedByPassword, hat, hclosed]
      rw [answer_of_locked hlocked] at htail ⊢
      simp only [hundecided, Bool.false_eq_true, if_false, if_true, zero_add]
      exact ih hstored hactive hsame' hfresh' htail
    | false =>
      have hdecided : attempt.decidedByPassword store = true := by
        simp [LoginAttempt.decidedByPassword, hat, hclosed]
      have hanswer := @answer_of_open settings _ _ attempt hat hactive hclosed
        (hfresh attempt List.mem_cons_self)
      split at hanswer
      · rw [hanswer] at hhead
        cases hhead
      · rw [hanswer] at htail ⊢
        have hstored' := userWith_put (refused settings user attempt.now) hstored
          (by unfold refused recordFailedLogin resetLoginProtection; split <;> rfl)
          (by unfold refused recordFailedLogin resetLoginProtection; split <;> rfl)
        have hactive' : (refused settings user attempt.now).isActive = true := by
          unfold refused recordFailedLogin resetLoginProtection
          split <;> exact hactive
        simp only [hdecided, Bool.false_eq_true, if_false, if_true, ← protection_refused]
        rw [ih hstored' hactive' hsame' hfresh' htail]

/-- **Whoever never succeeds gets only so many answers that depend on the password**: the threshold
for every lockout that fits in the time.  A login during a lock is refused, whatever its password,
and changes nothing. -/
theorem guesses_bounded {store : SessionStore} {user : UserRecord} {attempts : List LoginAttempt}
    {t₀ t₁ : Instant} (hthreshold : 2 ≤ settings.loginMaxFailedAttempts)
    (hlockout : 0 < settings.lockout) (hstored : store.userWith email = some user)
    (hactive : user.isActive = true)
    (hsame : ∀ attempt ∈ attempts, attempt.request.email = email)
    (hfresh : ∀ attempt ∈ attempts, store.Fresh attempt.request.refresh)
    (hordered : (attempts.map (·.now)).Pairwise (· ≤ ·)) (htime : t₀ ≤ t₁)
    (hspan : ∀ attempt ∈ attempts, t₀ ≤ attempt.now ∧ attempt.now ≤ t₁) :
    ((∀ login ∈ serveLogins settings store attempts, login.answer.isOk = false) →
      (guesses (serveLogins settings store attempts) : ℤ) ≤
        settings.loginMaxFailedAttempts * (1 + (t₁ - t₀) / settings.lockout)) ∧
    ∀ (store : SessionStore) (attempt : LoginAttempt), attempt.locked store = true →
      attempt.answer settings store = (.error invalidCredentials, store) := by
  refine ⟨fun hrefused => ?_, fun _ _ hlocked => answer_of_locked hlocked⟩
  rw [guesses_eq_tries hstored hactive hsame hfresh hrefused]
  refine Lockout.tries_le (by omega) hlockout htime (protection user) hordered fun now hm => ?_
  obtain ⟨attempt, hattempt, rfl⟩ := List.mem_map.mp hm
  exact hspan attempt hattempt

end

/-- A user whose password is `secret`. -/
def oneUser : SessionStore where
  users := (Table.ofRows? userSchema
    [{ id := 1, email := "user", passwordHash := "secret", failedLoginAttempts := 1 }]).getD .empty
  tokens := .empty

/-- Two failures lock a user for a minute. -/
def strict : AuthSettings where
  verify password hash := password == hash
  loginMaxFailedAttempts := 2
  loginLockoutMinutes := 1

def guess (password : String) (second : Nat) : LoginAttempt where
  request := {
    email := "user", password, familyId := 1
    refresh := { tokenId := 1, tokenHash := "hash", expiresAt := 0 } }
  now := seconds second

/-- The first guess locks the user, so the right one comes too early; a minute later three guesses
are made, of which the last is not decided by the password. -/
def patience : List LoginAttempt :=
  [guess "a" 0, guess "secret" 59, guess "b" 60, guess "c" 61, guess "d" 62]

theorem guesses_bounded_patience :
    guesses (serveLogins strict oneUser patience) = 3 ∧
      (guesses (serveLogins strict oneUser patience) : ℤ) ≤
        2 * (1 + (seconds 62 - seconds 0) / strict.lockout) := by
  have hstored : oneUser.userWith "user" = some {
      id := 1, email := "user", passwordHash := "secret", failedLoginAttempts := 1 } := by
    decide +kernel
  have hfresh : ∀ attempt ∈ patience, oneUser.Fresh attempt.request.refresh := fun _ _ =>
    ⟨rfl, fun _ hm => absurd hm List.not_mem_nil⟩
  refine ⟨by decide +kernel, ?_⟩
  exact (guesses_bounded (by decide) (by decide) hstored rfl (by decide) hfresh (by decide)
    (by decide) (by decide)).1 (by decide +kernel)

end ReconcileFlow.Api
