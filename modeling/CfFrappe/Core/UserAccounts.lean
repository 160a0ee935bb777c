import CfFrappe.Core.Events
import CfFrappe.Lib.EventLog

set_option autoImplicit false

/-! # User accounts

An account is the fold of its stream: who it is, its address and whether that has been verified,
its roles, the links to outside identity providers, and the outstanding recovery challenges.
-/

open Utf

/-- What the language and the deployment give the account service: text order and case, dates, the
check of a token against its hash, and the settings of the service. -/
structure UserAccountPlatform where
  localeCompare : JsString → JsString → Ordering
  toLowerCase : JsString → JsString
  dateParse : JsString → Option Int
  toISOString : Int → JsString
  verifyToken : (token tokenHash : JsString) → Bool
  adminRoles : List JsString
  recoveryAvailable : Bool
  passwordResetExpiresInSeconds : Nat
  emailVerificationExpiresInSeconds : Nat

structure UserAuthProviderLink where
  provider : JsString
  subject : JsString
  email : Option JsString := none
  roles : Option (List JsString) := none
  enabled : Option Bool := none
  emailVerifiedAt : Option Timestamp := none
  linkedAt : Timestamp
  lastSyncedAt : Timestamp
  deriving DecidableEq

structure UserAccountRecoveryChallenge where
  tokenHash : JsString
  expiresAt : Timestamp
  requestedAt : Timestamp
  deriving DecidableEq

structure UserAccountEmailVerificationChallenge extends UserAccountRecoveryChallenge where
  email : JsString
  deriving DecidableEq

structure UserAccountState where
  tenantId : TenantId
  userId : JsString
  version : Nat
  «exists» : Bool
  email : Option JsString := none
  emailVerifiedAt : Option Timestamp := none
  roles : List JsString := []
  providers : List UserAuthProviderLink := []
  passwordHash : Option JsString := none
  passwordReset : Option UserAccountRecoveryChallenge := none
  emailVerification : Option UserAccountEmailVerificationChallenge := none
  enabled : Bool
  createdAt : Option Timestamp := none
  updatedAt : Option Timestamp := none
  deriving DecidableEq

/-- What a provider says about an account. `emailVerifiedAt` is absent, `null` or a time. -/
structure UserAuthProviderPatch where
  provider : JsString
  subject : JsString
  email : Option JsString := none
  roles : Option (List JsString) := none
  enabled : Option Bool := none
  emailVerifiedAt : Option (Option Timestamp) := none
  deriving DecidableEq

/-- The payloads of an account stream; `other` stands for the kinds that are not of accounts. -/
inductive UserAccountEventPayload
  | accountCreated (userId : JsString) (email : Option JsString) (roles : List JsString)
      (passwordHash : Option JsString) (enabled : Bool) (emailVerifiedAt : Option Timestamp)
  | authProviderLinked (userId : JsString) (patch : UserAuthProviderPatch)
  | authProviderSynced (userId : JsString) (patch : UserAuthProviderPatch)
  | passwordRehashed (userId passwordHash : JsString)
  | passwordChanged (userId passwordHash : JsString)
  | passwordResetRequested (userId tokenHash : JsString) (expiresAt : Timestamp)
  | passwordResetCompleted (userId passwordHash : JsString)
  | passwordResetDeliveryFailed (userId : JsString)
  | emailVerificationRequested (userId email tokenHash : JsString) (expiresAt : Timestamp)
  | emailVerified (userId email : JsString)
  | emailVerificationDeliveryFailed (userId email : JsString)
  | rolesChanged (userId : JsString) (roles : List JsString)
  | accountEnabled (userId : JsString)
  | accountDisabled (userId : JsString)
  | other (kind : JsString)
  deriving DecidableEq

namespace UserAccountEventPayload

/-- The account that a payload is about. -/
def userId? : UserAccountEventPayload → Option JsString
  | .accountCreated userId .. | .authProviderLinked userId _ | .authProviderSynced userId _
  | .passwordRehashed userId _ | .passwordChanged userId _ | .passwordResetRequested userId _ _
  | .passwordResetCompleted userId _ | .passwordResetDeliveryFailed userId
  | .emailVerificationRequested userId _ _ _ | .emailVerified userId _
  | .emailVerificationDeliveryFailed userId _ | .rolesChanged userId _ | .accountEnabled userId
  | .accountDisabled userId => some userId
  | .other _ => none

end UserAccountEventPayload

structure UserAccountEvent where
  id : JsString
  tenantId : TenantId
  stream : StreamName
  documentName : DocumentName
  actorId : JsString
  occurredAt : Timestamp
  payload : UserAccountEventPayload
  metadata : DocumentData
  deriving DecidableEq

abbrev UserAccountLog := List (Recorded UserAccountEvent)

/-! ## Roles and links -/

/-- `text.replace(/\s+/g, " ")`. -/
def collapseWhitespace : JsString → JsString
  | [] => []
  | u :: text =>
    if Json.isWhitespace u then
      if text.head?.any Json.isWhitespace then collapseWhitespace text else 0x20 :: collapseWhitespace text
    else u :: collapseWhitespace text

def normalizeRoleName (role : JsString) : JsString := collapseWhitespace (Json.trim role)

def normalizeUserRoles (platform : UserAccountPlatform) (roles : List JsString) : List JsString :=
  ((roles.map normalizeRoleName).filter (fun role => !role.isEmpty)).eraseDups.insertionSort
    (fun left right => platform.localeCompare left right ≠ .gt)

def applyProviderAccountPatch (platform : UserAccountPlatform) (state : UserAccountState)
    (patch : UserAuthProviderPatch) (occurredAt : Timestamp) : UserAccountState :=
  let next : UserAccountState :=
    { state with
      email := patch.email.or state.email
      roles := (patch.roles.map (normalizeUserRoles platform)).getD state.roles
      enabled := patch.enabled.getD state.enabled
      updatedAt := some occurredAt
      passwordReset := if patch.enabled = some false then none else state.passwordReset
      emailVerification := if patch.enabled = some false then none else state.emailVerification }
  match patch.emailVerifiedAt with
  | none => next
  | some none => { next with emailVerifiedAt := none }
  | some (some verifiedAt) => { next with emailVerifiedAt := some verifiedAt }

def providerLinkEmailVerifiedAt (current : Option UserAuthProviderLink) (patch : UserAuthProviderPatch) :
    Option Timestamp :=
  match patch.emailVerifiedAt with
  | none => current.bind (·.emailVerifiedAt)
  | some verifiedAt => verifiedAt

def isProviderLink (provider subject : JsString) (link : UserAuthProviderLink) : Bool :=
  link.provider = provider && link.subject = subject

def upsertProviderLink (platform : UserAccountPlatform) (providers : List UserAuthProviderLink)
    (patch : UserAuthProviderPatch) (linkedAt : Option Timestamp) (lastSyncedAt : Timestamp) :
    List UserAuthProviderLink :=
  let current := providers.find? (isProviderLink patch.provider patch.subject)
  let link : UserAuthProviderLink :=
    { provider := patch.provider
      subject := patch.subject
      email := patch.email.or (current.bind (·.email))
      roles := (patch.roles.map (normalizeUserRoles platform)).or (current.bind (·.roles))
      enabled := patch.enabled.or (current.bind (·.enabled))
      emailVerifiedAt := providerLinkEmailVerifiedAt current patch
      linkedAt := ((current.map (·.linkedAt)).or linkedAt).getD lastSyncedAt
      lastSyncedAt }
  (providers.filter (fun other => !isProviderLink patch.provider patch.subject other) ++ [link]).insertionSort
    (fun left right => platform.localeCompare (left.provider ++ js ":" ++ left.subject)
      (right.provider ++ js ":" ++ right.subject) ≠ .gt)

/-! ## The fold -/

/-- What an event of the account does to an account that exists. -/
def applyUserAccountPayload (platform : UserAccountPlatform) (state : UserAccountState) (occurredAt : Timestamp) :
    UserAccountEventPayload → UserAccountState
  | .accountCreated .. => state
  | .authProviderLinked _ patch =>
    { applyProviderAccountPatch platform state patch occurredAt with
      providers := upsertProviderLink platform state.providers patch (some occurredAt) occurredAt }
  | .authProviderSynced _ patch =>
    { applyProviderAccountPatch platform state patch occurredAt with
      providers := upsertProviderLink platform state.providers patch none occurredAt }
  | .passwordRehashed _ passwordHash =>
    { state with passwordHash := some passwordHash, updatedAt := some occurredAt }
  | .passwordChanged _ passwordHash =>
    { state with passwordReset := none, passwordHash := some passwordHash, updatedAt := some occurredAt }
  | .passwordResetRequested _ tokenHash expiresAt =>
    { state with
      passwordReset := some { tokenHash, expiresAt, requestedAt := occurredAt }, updatedAt := some occurredAt }
  | .passwordResetCompleted _ passwordHash =>
    { state with passwordReset := none, passwordHash := some passwordHash, updatedAt := some occurredAt }
  | .passwordResetDeliveryFailed _ => { state with passwordReset := none, updatedAt := some occurredAt }
  | .emailVerificationRequested _ email tokenHash expiresAt =>
    { state with
      emailVerification := some { email, tokenHash, expiresAt, requestedAt := occurredAt },
      updatedAt := some occurredAt }
  | .emailVerified _ _ =>
    { state with emailVerification := none, emailVerifiedAt := some occurredAt, updatedAt := some occurredAt }
  | .emailVerificationDeliveryFailed _ _ => { state with emailVerification := none, updatedAt := some occurredAt }
  | .rolesChanged _ roles =>
    { state with roles := normalizeUserRoles platform roles, updatedAt := some occurredAt }
  | .accountEnabled _ => { state with enabled := true, updatedAt := some occurredAt }
  | .accountDisabled _ =>
    { state with
      passwordReset := none, emailVerification := none, enabled := false, updatedAt := some occurredAt }
  | .other _ => state

/-- The account after an event; an event of another account, or before the account exists, changes
the version only. Streams are read in the order of their sequences. -/
def applyUserAccountEvent (platform : UserAccountPlatform) (tenantId : TenantId) (userId : JsString)
    (state : UserAccountState) (event : Recorded UserAccountEvent) : UserAccountState :=
  let state := { state with version := max state.version event.sequence }
  if event.event.payload.userId? = some userId then
    match event.event.payload with
    | .accountCreated _ email roles passwordHash enabled emailVerifiedAt =>
      { tenantId, userId, version := event.sequence, «exists» := true, email, emailVerifiedAt
        roles := normalizeUserRoles platform roles, passwordHash, providers := [], enabled
        createdAt := some event.event.occurredAt, updatedAt := some event.event.occurredAt }
    | payload =>
      if state.exists then
        { applyUserAccountPayload platform state event.event.occurredAt payload with version := event.sequence }
      else state
  else state

def noUserAccount (tenantId : TenantId) (userId : JsString) : UserAccountState :=
  { tenantId, userId, version := 0, «exists» := false, enabled := false }

def foldUserAccountFrom (platform : UserAccountPlatform) (initial : Option UserAccountState) (tenantId : TenantId)
    (userId : JsString) (events : UserAccountLog) : UserAccountState :=
  events.foldl (applyUserAccountEvent platform tenantId userId)
    (match initial with
      | none => noUserAccount tenantId userId
      | some initial => { initial with tenantId, userId })

def foldUserAccount (platform : UserAccountPlatform) (tenantId : TenantId) (userId : JsString)
    (events : UserAccountLog) : UserAccountState :=
  foldUserAccountFrom platform none tenantId userId events

/-- What the service tells about an account. -/
structure UserAccount where
  tenantId : TenantId
  userId : JsString
  version : Nat
  email : Option JsString
  emailVerifiedAt : Option Timestamp
  roles : List JsString
  providers : Option (List UserAuthProviderLink)
  enabled : Bool
  createdAt : Option Timestamp
  updatedAt : Option Timestamp
  deriving DecidableEq

def publicUserAccount (state : UserAccountState) : UserAccount :=
  { tenantId := state.tenantId
    userId := state.userId
    version := state.version
    email := state.email
    emailVerifiedAt := state.emailVerifiedAt
    roles := state.roles
    providers := if state.providers.isEmpty then none else some state.providers
    enabled := state.enabled
    createdAt := state.createdAt
    updatedAt := state.updatedAt }
