import ReconcileFlow.Persistence.Records

/-!
# Persistence — Accounts

The rows of organizations, of users and their memberships, and of refresh tokens.
-/

namespace ReconcileFlow.Persistence

open Support

structure OrganizationRecord where
  id : UUID
  slug : String
  isActive : Bool := true
  storageQuotaBytes : Option Nat := some (10 * 1024 * 1024 * 1024)
  storageUsedBytes : Nat := 0
deriving DecidableEq, Repr

def organizationSchema : Schema OrganizationRecord UUID where
  key := (·.id)
  clash organization other := decide (organization.slug = other.slug)
  check _ := true

structure UserRecord where
  id : UUID
  email : String
  passwordHash : String
  displayName : Option String := none
  isActive : Bool := true
  failedLoginAttempts : Nat := 0
  lockedUntil : Option Instant := none
deriving DecidableEq, Repr

def userSchema : Schema UserRecord UUID where
  key := (·.id)
  clash user other := decide (user.email = other.email)
  check _ := true

inductive MembershipRole
  | owner | admin | analyst | viewer
deriving DecidableEq, Repr

structure OrganizationMembershipRecord where
  id : UUID
  organizationId : UUID
  userId : UUID
  role : MembershipRole
  isActive : Bool := true
deriving DecidableEq, Repr

/-- A user has at most one membership of an organization. -/
def membershipSchema : Schema OrganizationMembershipRecord UUID where
  key := (·.id)
  clash membership other :=
    decide (membership.organizationId = other.organizationId ∧ membership.userId = other.userId)
  check _ := true

structure RefreshTokenRecord where
  id : UUID
  userId : UUID
  familyId : UUID
  tokenHash : String
  expiresAt : Instant
  revokedAt : Option Instant := none
  replacedById : Option UUID := none
deriving DecidableEq, Repr

/-- Not revoked. -/
def RefreshTokenRecord.isLive (token : RefreshTokenRecord) : Bool := token.revokedAt.isNone

def RefreshTokenRecord.revoked (token : RefreshTokenRecord) (now : Instant) : RefreshTokenRecord :=
  { token with revokedAt := some now }

def refreshTokenSchema : Schema RefreshTokenRecord UUID where
  key := (·.id)
  clash token other := decide (token.tokenHash = other.tokenHash)
  check _ := true

end ReconcileFlow.Persistence
