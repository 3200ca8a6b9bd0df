import ReconcileFlow.Persistence.Accounts
import ReconcileFlow.Persistence.Repositories
import ReconcileFlow.Support.ReadCommitted

/-!
# Api — Memberships

Registration and the membership routes, statement by statement, with the dependencies that
authorise them.  Ids and the moment are arguments; the audit events of the routes are left out.
-/

namespace ReconcileFlow.Api

open Support Support.Program Persistence

/-- The rows that memberships depend on. -/
structure Directory where
  users : Table userSchema
  organizations : Table organizationSchema
  memberships : Table membershipSchema

/-- What a statement locks: a row, or a unique value that it is about to write. -/
inductive DirectoryLock
  | user (id : UUID)
  | email (email : String)
  | organization (id : UUID)
  | slug (slug : String)
  | membership (id : UUID)
  | member (organizationId userId : UUID)
deriving DecidableEq

/-- What a commit did, as far as owners are concerned. -/
inductive DirectoryCommit
  /-- An active owner of the organization is none any more. -/
  | ownerLost (organizationId : UUID)
  | other
deriving DecidableEq

abbrev DirectoryRequest := ExceptT Error (Program Directory DirectoryLock DirectoryCommit)

/-! ### Repositories -/

namespace Directory

variable (directory : Directory)

/-- `get_active`. -/
def activeMembership (organizationId userId : UUID) : Option OrganizationMembershipRecord :=
  directory.memberships.rows.find? fun membership =>
    decide (membership.organizationId = organizationId ∧ membership.userId = userId) &&
      membership.isActive &&
      (directory.organizations.find membership.organizationId).any (·.isActive)

def membershipFor (organizationId userId : UUID) : Option OrganizationMembershipRecord :=
  directory.memberships.rows.find? fun membership =>
    decide (membership.organizationId = organizationId ∧ membership.userId = userId)

def isActiveOwner (organizationId : UUID) (membership : OrganizationMembershipRecord) : Bool :=
  decide (membership.organizationId = organizationId) && decide (membership.role = .owner) &&
    membership.isActive

def countActiveOwners (organizationId : UUID) : Nat :=
  (directory.memberships.rows.filter (isActiveOwner organizationId)).length

end Directory

def membershipNotFound (membershipId : UUID) : Error :=
  .recordNotFound ("organization membership " ++ membershipId.format ++ " was not found")

namespace OrganizationMembershipRepository

/-- `get` with `lock=True`. -/
def getLocked (membershipId organizationId : UUID) :
    DirectoryRequest OrganizationMembershipRecord := do
  let found ← ExceptT.lift (selectForUpdate
    (fun directory => (directory.memberships.find membershipId).filter fun membership =>
      decide (membership.organizationId = organizationId))
    fun membership => .membership membership.id)
  expect (membershipNotFound membershipId) found

def create (membershipId organizationId userId : UUID) (role : MembershipRole) :
    DirectoryRequest OrganizationMembershipRecord := do
  let membership : OrganizationMembershipRecord := {
    id := membershipId, organizationId, userId, role }
  insert integrityError [.membership membershipId, .member organizationId userId]
    (fun directory => (directory.memberships.find membershipId).isSome ||
      (directory.membershipFor organizationId userId).isSome)
    fun directory => { directory with memberships := directory.memberships.add membership }
  return membership

/-- `set_role` and `deactivate`. -/
def flush (membership : OrganizationMembershipRecord) : DirectoryRequest Unit :=
  ExceptT.lift (update fun directory =>
    { directory with memberships := directory.memberships.put membership })

end OrganizationMembershipRepository

/-! ### Authorisation -/

/-- The `X-Organization-ID` header. -/
inductive OrganizationHeader
  | missing
  | malformed
  | selected (organizationId : UUID)
deriving DecidableEq, Repr

structure TenantContext where
  organizationId : UUID
  userId : UUID
  role : MembershipRole
deriving DecidableEq, Repr

/-- The access token's subject, if the token is valid. -/
abbrev AccessToken := Option UUID

def invalidAccessToken : Error :=
  .api 401 "INVALID_ACCESS_TOKEN" "A valid access token is required."

def organizationAccessDenied : Error :=
  .api 403 "ORGANIZATION_ACCESS_DENIED" "Access to this organization is denied."

def getCurrentUser (token : AccessToken) : DirectoryRequest UserRecord := do
  let subject ← expect invalidAccessToken token
  let user ← ExceptT.lift (get fun directory => directory.users.find subject)
  expect invalidAccessToken (user.filter (·.isActive))

def getTenantContext (user : UserRecord) : OrganizationHeader → DirectoryRequest TenantContext
  | .missing => throw (.api 400 "ORGANIZATION_REQUIRED" "X-Organization-ID is required.")
  | .malformed =>
    throw (.api 400 "INVALID_ORGANIZATION" "X-Organization-ID must be a valid UUID.")
  | .selected organizationId => do
    let found ← ExceptT.lift (get fun directory =>
      directory.activeMembership organizationId user.id)
    let membership ← expect organizationAccessDenied found
    return ⟨organizationId, user.id, membership.role⟩

def getMembershipManager (tenant : TenantContext) : DirectoryRequest TenantContext := do
  ensure (tenant.role = .owner ∨ tenant.role = .admin)
    (.api 403 "INSUFFICIENT_ROLE"
      "Your organization role does not permit membership management.")
  return tenant

/-- The dependencies of a membership route. -/
def authorise (token : AccessToken) (header : OrganizationHeader) :
    DirectoryRequest TenantContext := do
  let user ← getCurrentUser token
  let tenant ← getTenantContext user header
  getMembershipManager tenant

/-! ### Routes -/

def ensureSelected (organizationId : UUID) (manager : TenantContext) : DirectoryRequest Unit :=
  ensure (organizationId = manager.organizationId) organizationAccessDenied

def ensureAdminCanManage (manager : TenantContext) (targetRole : MembershipRole)
    (requestedRole : Option MembershipRole) : DirectoryRequest Unit :=
  ensure (¬ (manager.role = .admin ∧ (targetRole = .owner ∨ requestedRole = some .owner)))
    (.api 403 "OWNER_ROLE_REQUIRED" "Only an organization owner can manage owner memberships.")

/-- What the change of a membership means for the owners. -/
def ownerChange (before after : OrganizationMembershipRecord) : DirectoryCommit :=
  if Directory.isActiveOwner before.organizationId before ∧
      ¬ Directory.isActiveOwner before.organizationId after then
    .ownerLost before.organizationId
  else .other

structure RegistrationRequest where
  userId : UUID
  organizationId : UUID
  membershipId : UUID
  email : String
  passwordHash : String
  displayName : Option String
  /-- What `_slug` makes of the organization's name, and the slugs drawn after it. -/
  slugs : List String
  quota : Option Nat

/-- The loop over `slug_exists`; the request does not survive the list. -/
def freeSlug : List String → DirectoryRequest String
  | [] => throw (.runtime "the request was cut off")
  | slug :: slugs => do
    let taken ← ExceptT.lift (get fun directory =>
      directory.organizations.rows.any fun organization => decide (organization.slug = slug))
    if taken then freeSlug slugs else return slug

def register (request : RegistrationRequest) : DirectoryRequest OrganizationMembershipRecord :=
  unitOfWork (fun _ => .other) do
    let emailExists ← ExceptT.lift (get fun directory =>
      directory.users.rows.any fun user => decide (user.email = request.email))
    ensure (emailExists = false)
      (.api 409 "EMAIL_ALREADY_REGISTERED" "An account with this email already exists.")
    let slug ← freeSlug request.slugs
    let user : UserRecord := {
      id := request.userId, email := request.email, passwordHash := request.passwordHash
      displayName := request.displayName }
    insert integrityError [.user user.id, .email user.email]
      (fun directory => (directory.users.find user.id).isSome ||
        directory.users.rows.any fun other => decide (other.email = user.email))
      fun directory => { directory with users := directory.users.add user }
    let organization : OrganizationRecord := {
      id := request.organizationId, slug := slug, storageQuotaBytes := request.quota }
    insert integrityError [.organization organization.id, .slug slug]
      (fun directory => (directory.organizations.find organization.id).isSome ||
        directory.organizations.rows.any fun other => decide (other.slug = slug))
      fun directory => { directory with organizations := directory.organizations.add organization }
    OrganizationMembershipRepository.create request.membershipId organization.id user.id .owner

def addMember (token : AccessToken) (header : OrganizationHeader) (organizationId : UUID)
    (email : String) (role : MembershipRole) (membershipId : UUID) :
    DirectoryRequest OrganizationMembershipRecord := do
  let manager ← authorise token header
  ensureSelected organizationId manager
  ensureAdminCanManage manager role (some role)
  unitOfWork (fun _ => .other) do
    let found ← ExceptT.lift (get fun directory =>
      directory.users.rows.find? fun user => decide (user.email = email))
    let user ← expect (.api 404 "USER_NOT_FOUND" "The requested user was not found.")
      (found.filter (·.isActive))
    let existing ← ExceptT.lift (get fun directory => directory.membershipFor organizationId user.id)
    ensure (existing = none)
      (.persistenceConflict "the user already has an organization membership")
    OrganizationMembershipRepository.create membershipId organizationId user.id role

def updateMember (token : AccessToken) (header : OrganizationHeader)
    (organizationId membershipId : UUID) (role : MembershipRole) :
    DirectoryRequest OrganizationMembershipRecord := do
  let manager ← authorise token header
  ensureSelected organizationId manager
  let change ← unitOfWork (fun change => ownerChange change.1 change.2) do
    let membership ← OrganizationMembershipRepository.getLocked membershipId organizationId
    ensureAdminCanManage manager membership.role (some role)
    if membership.role = .owner ∧ role ≠ .owner then
      let owners ← ExceptT.lift (get fun directory => directory.countActiveOwners organizationId)
      ensure (1 < owners)
        (.api 409 "FINAL_OWNER_REQUIRED" "The final active owner cannot be demoted.")
    OrganizationMembershipRepository.flush { membership with role := role }
    return (membership, { membership with role := role })
  return change.2

def deactivateMember (token : AccessToken) (header : OrganizationHeader)
    (organizationId membershipId : UUID) : DirectoryRequest Unit := do
  let manager ← authorise token header
  ensureSelected organizationId manager
  let _ ← unitOfWork
    (fun membership => ownerChange membership { membership with isActive := false }) do
    let membership ← OrganizationMembershipRepository.getLocked membershipId organizationId
    ensureAdminCanManage manager membership.role none
    ensure (membership.isActive = true)
      (.api 409 "MEMBERSHIP_INACTIVE" "The membership is already inactive.")
    if membership.role = .owner then
      let owners ← ExceptT.lift (get fun directory => directory.countActiveOwners organizationId)
      ensure (1 < owners)
        (.api 409 "FINAL_OWNER_REQUIRED" "The final active owner cannot be removed.")
    OrganizationMembershipRepository.flush { membership with isActive := false }
    return membership

/-! ### Any requests -/

inductive MembershipRequest
  | register (request : RegistrationRequest)
  | addMember (token : AccessToken) (header : OrganizationHeader) (organizationId : UUID)
      (email : String) (role : MembershipRole) (membershipId : UUID)
  | updateMember (token : AccessToken) (header : OrganizationHeader)
      (organizationId membershipId : UUID) (role : MembershipRole)
  | deactivateMember (token : AccessToken) (header : OrganizationHeader)
      (organizationId membershipId : UUID)

/-- What a request runs. -/
def MembershipRequest.program :
    MembershipRequest → Program Directory DirectoryLock DirectoryCommit Unit
  | .register request => serve (Api.register request)
  | .addMember token header organizationId email role membershipId =>
    serve (Api.addMember token header organizationId email role membershipId)
  | .updateMember token header organizationId membershipId role =>
    serve (Api.updateMember token header organizationId membershipId role)
  | .deactivateMember token header organizationId membershipId =>
    serve (Api.deactivateMember token header organizationId membershipId)

end ReconcileFlow.Api
