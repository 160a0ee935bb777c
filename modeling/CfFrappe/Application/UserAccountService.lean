import CfFrappe.Core.Streams
import CfFrappe.Core.UserAccounts

set_option autoImplicit false

/-! # The account service

`UserAccountService` as programs on the event store. A command reads the account, decides, and
appends at the version that it read; everything else it needs (time, ids, hashes, the role
catalog, the delivery of messages) it asks for.
-/

open Utf

/-- What the service asks for besides the store. -/
inductive UserAccountCall
  | now
  | nextId (start : JsString)
  | nextRecoveryToken (start : JsString)
  | hash (secret : JsString)
  | verifyPassword (password passwordHash : JsString)
  | needsRehash (passwordHash : JsString)
  | validateRoles (tenantId : TenantId) (roles : List JsString)
  | sendPasswordReset (tenantId : TenantId) (userId email token : JsString) (expiresAt : Timestamp)
  | sendEmailVerification (tenantId : TenantId) (userId email token : JsString) (expiresAt : Timestamp)
  deriving DecidableEq

def UserAccountCall.Reply : UserAccountCall → Type
  | .now => Timestamp
  | .nextId _ | .nextRecoveryToken _ => JsString
  | .hash _ => Except FrameworkError JsString
  | .verifyPassword _ _ | .needsRehash _ => Bool
  | .validateRoles _ _ => Except FrameworkError Unit
  | .sendPasswordReset .. | .sendEmailVerification .. => Except FrameworkError Unit

abbrev UserAccountProgram (α : Type) :=
  LogProgram StreamName UserAccountEvent UserAccountCall FrameworkError UserAccountCall.Reply α

abbrev UserAccountStore := LogState StreamName UserAccountEvent Unit

/-- Everything that is asked for may be answered in any way. -/
def userAccountSurroundings : Surroundings UserAccountCall UserAccountCall.Reply Unit Empty where
  exec _ _ _ _ := True
  le _ _ := True
  le_refl _ := trivial
  le_trans _ _ := trivial
  exec_le _ := trivial
  issued _ _ := False
  fresh _ _ _ := False
  issued_le _ h := h
  fresh_new _ h := absurd h id

/-! ## Policy -/

def ensureUserAccountAdmin (platform : UserAccountPlatform) (actor : Actor) : Except FrameworkError Unit :=
  ensure (platform.adminRoles.any (fun role => actor.roles.contains role))
    (.denied (js "Actor '" ++ actor.id ++ js "' cannot manage user accounts"))

def resolveUserAccountActorTenant (actor : Actor) (explicitTenantId : Option TenantId) :
    Except FrameworkError TenantId :=
  let actorTenantId := actor.tenantId.getD defaultTenantId
  let tenantId := explicitTenantId.getD actorTenantId
  if tenantId = actorTenantId then .ok tenantId
  else .error (.denied (js "Actor '" ++ actor.id ++ js "' cannot manage user accounts for tenant '" ++ tenantId ++
    js "'"))

def normalizeRequiredUserAccountText (value : JsString) (label : JsString) : Except FrameworkError JsString :=
  if (Json.trim value).isEmpty then .error (.ofBadRequest (label ++ js " is required")) else .ok (Json.trim value)

def normalizeOptionalUserEmail (platform : UserAccountPlatform) (value : Option JsString) : Option JsString :=
  (value.map (fun value => platform.toLowerCase (Json.trim value))).filter (fun email => !email.isEmpty)

def normalizeRequiredUserRoles (platform : UserAccountPlatform) (roles : List JsString) :
    Except FrameworkError (List JsString) :=
  let normalized := normalizeUserRoles platform roles
  if normalized.isEmpty then .error (.ofBadRequest (js "At least one role is required")) else .ok normalized

def resolveProviderSyncUserId (provider subject : JsString) (email explicitUserId : Option JsString) :
    Except FrameworkError JsString :=
  normalizeRequiredUserAccountText ((explicitUserId.or email).getD (provider ++ js ":" ++ subject)) (js "User id")

def normalizeUserPassword (password : JsString) : Except FrameworkError JsString :=
  if password.length < 8 then .error (.ofBadRequest (js "Password must be at least 8 characters")) else .ok password

def normalizeUserLoginPassword (password : JsString) : Except FrameworkError JsString :=
  if password.isEmpty then .error (.denied (js "Invalid credentials")) else .ok password

def userAccountPasswordHashForLogin (state : UserAccountState) : Except FrameworkError JsString :=
  match state.exists, state.passwordHash with
  | true, some passwordHash => .ok passwordHash
  | _, _ => .error (.denied (js "Invalid credentials"))

def userAccountPasswordResetDeliveryEmail (platform : UserAccountPlatform) (state : UserAccountState) :
    Option JsString :=
  if !state.exists || !state.enabled || state.passwordHash.isNone || !platform.recoveryAvailable then none
  else state.email

def userAccountEmailVerificationDeliveryEmail (platform : UserAccountPlatform) (state : UserAccountState) :
    Option JsString :=
  if !state.exists || !state.enabled || state.emailVerifiedAt.isSome || !platform.recoveryAvailable then none
  else state.email

def invalidUserRecoveryToken : FrameworkError := .denied (js "Invalid recovery token")

def normalizeUserRecoveryToken (token : JsString) : Except FrameworkError JsString :=
  if (Json.trim token).isEmpty then .error invalidUserRecoveryToken else .ok (Json.trim token)

def userAccountEmailVerificationChallengeForCompletion (state : UserAccountState) :
    Except FrameworkError UserAccountEmailVerificationChallenge :=
  match state.emailVerification with
  | some challenge => .ok challenge
  | none => .error invalidUserRecoveryToken

def ensureUserAccountExpectedVersion (state : UserAccountState) (expectedVersion : Option Nat) :
    Except FrameworkError Unit :=
  match expectedVersion with
  | none => .ok ()
  | some expectedVersion =>
    ensure (state.version = expectedVersion)
      (.conflict (js "Expected user account '" ++ state.userId ++ js "' at version " ++
        Json.natToString expectedVersion ++ js ", found " ++ Json.natToString state.version))

def ensureUserAccountCreatable (state : UserAccountState) : Except FrameworkError Unit :=
  ensure (!state.exists) (.conflict (js "User account '" ++ state.userId ++ js "' already exists"))

def ensureUserAccountExists (state : UserAccountState) : Except FrameworkError Unit :=
  ensure state.exists (.notFound (js "User account '" ++ state.userId ++ js "' was not found"))

def recoveryExpiresAtFrom (platform : UserAccountPlatform) (now : Timestamp) (seconds : Nat) :
    Except FrameworkError Timestamp :=
  match platform.dateParse now with
  | some nowMillis => .ok (platform.toISOString (nowMillis + seconds * 1000))
  | none => .error (.ofError (js "Clock returned invalid timestamp '" ++ now ++ js "'"))

/-- `Date.parse(expiresAt) <= Date.parse(now)`: a date that cannot be read is not expired. -/
def recoveryChallengeExpired (platform : UserAccountPlatform) (expiresAt now : Timestamp) : Bool :=
  match platform.dateParse expiresAt, platform.dateParse now with
  | some expires, some now => expires ≤ now
  | _, _ => false

def ensureUserRecoveryChallengeUsable (platform : UserAccountPlatform) (state : UserAccountState)
    (challenge : UserAccountRecoveryChallenge) (now : Timestamp) : Except FrameworkError Unit :=
  ensure (state.exists && state.enabled && !recoveryChallengeExpired platform challenge.expiresAt now)
    invalidUserRecoveryToken

/-- `undefined`, `null` or the time of the verification. -/
def emailVerificationPatch (emailVerified : Option Bool) (effectiveEmail currentEmail : Option JsString)
    (currentEmailVerifiedAt : Option Timestamp) (now : Timestamp) :
    Except FrameworkError (Option (Option Timestamp)) :=
  match emailVerified with
  | none => .ok none
  | some false => .ok (some none)
  | some true =>
    if effectiveEmail.isNone then .error (.ofBadRequest (js "email is required when emailVerified is true"))
    else .ok (some (some (if currentEmail = effectiveEmail then currentEmailVerifiedAt.getD now else now)))

def providerSyncChangesState (state : UserAccountState) (link : UserAuthProviderLink)
    (patch : UserAuthProviderPatch) : Bool :=
  patch.email.any (fun email => state.email ≠ some email || link.email ≠ some email) ||
    patch.roles.any (fun roles => state.roles ≠ roles || link.roles.getD [] ≠ roles) ||
    patch.enabled.any (fun enabled => state.enabled ≠ enabled || link.enabled ≠ some enabled) ||
    patch.emailVerifiedAt.any (fun next => state.emailVerifiedAt ≠ next || link.emailVerifiedAt ≠ next)

/-! ## Programs -/

namespace UserAccountService

variable (platform : UserAccountPlatform)

def now : UserAccountProgram Timestamp := LogProgram.other UserAccountCall.now

def nextId (start : JsString) : UserAccountProgram JsString := LogProgram.other (UserAccountCall.nextId start)

def nextRecoveryToken (start : JsString) : UserAccountProgram JsString :=
  LogProgram.other (UserAccountCall.nextRecoveryToken start)

/-- The hash, or the error of the hasher. -/
def tryHash (secret : JsString) : UserAccountProgram (Except FrameworkError JsString) :=
  LogProgram.other (UserAccountCall.hash secret)

def hash (secret : JsString) : UserAccountProgram JsString := do
  let hashed ← tryHash secret
  Program.ofExcept hashed

def verifyPassword (password passwordHash : JsString) : UserAccountProgram Bool :=
  LogProgram.other (UserAccountCall.verifyPassword password passwordHash)

def needsRehash (passwordHash : JsString) : UserAccountProgram Bool :=
  LogProgram.other (UserAccountCall.needsRehash passwordHash)

def validateRoles (tenantId : TenantId) (roles : List JsString) : UserAccountProgram Unit := do
  let valid ← (LogProgram.other (UserAccountCall.validateRoles tenantId roles) :
    UserAccountProgram (Except FrameworkError Unit))
  Program.ofExcept valid

def accountStream (tenantId : TenantId) (userId : JsString) : UserAccountProgram StreamName :=
  Program.ofExcept (requireStream (userAccountsStream tenantId userId))

def stateFor (tenantId : TenantId) (userId : JsString) : UserAccountProgram UserAccountState := do
  let stream ← accountStream tenantId userId
  let events ← LogProgram.read stream
  pure (foldUserAccount platform tenantId userId events)

def existingStateFor (tenantId : TenantId) (userId : JsString) : UserAccountProgram UserAccountState := do
  let state ← stateFor platform tenantId userId
  Program.ofExcept (ensureUserAccountExists state)
  pure state

/-- The events of some payloads, with an id each. -/
def accountEvents (tenantId : TenantId) (stream : StreamName) (actorId : JsString) (occurredAt : Timestamp)
    (metadata : DocumentData) : List UserAccountEventPayload → UserAccountProgram (List UserAccountEvent)
  | [] => pure []
  | payload :: payloads => do
      let id ← nextId (js "evt_")
      let events ← accountEvents tenantId stream actorId occurredAt metadata payloads
      pure
        ({ id, tenantId, stream, documentName := payload.userId?.getD [], actorId, occurredAt, payload, metadata } ::
          events)

/-- `appendEvents`, with the error of the store as a value. -/
def tryAppendEvents (tenantId : TenantId) (userId : JsString) (expectedVersion : Nat) (actorId : JsString)
    (metadata : DocumentData) (payloads : List UserAccountEventPayload) :
    UserAccountProgram (Except FrameworkError UserAccountLog) := do
  let stream ← accountStream tenantId userId
  let occurredAt ← now
  let events ← accountEvents tenantId stream actorId occurredAt metadata payloads
  LogProgram.append stream expectedVersion events

def appendEvents (tenantId : TenantId) (userId : JsString) (expectedVersion : Nat) (actorId : JsString)
    (metadata : DocumentData) (payloads : List UserAccountEventPayload) : UserAccountProgram UserAccountLog := do
  let saved ← tryAppendEvents tenantId userId expectedVersion actorId metadata payloads
  Program.ofExcept saved

/-- `refold`: the events up to the version that was read, and the saved ones. -/
def refold (tenantId : TenantId) (userId : JsString) (previousVersion : Nat) (saved : UserAccountLog) :
    UserAccountProgram UserAccount := do
  let stream ← accountStream tenantId userId
  let events ← LogProgram.read stream
  pure (publicUserAccount (foldUserAccount platform tenantId userId
    (events.filter (fun event => decide (event.sequence ≤ previousVersion)) ++ saved)))

/-- Append and return the account: the end of most commands. -/
def commit (tenantId : TenantId) (userId : JsString) (state : UserAccountState) (actorId : JsString)
    (metadata : DocumentData) (payload : UserAccountEventPayload) : UserAccountProgram UserAccount := do
  let saved ← appendEvents tenantId userId state.version actorId metadata [payload]
  refold platform tenantId userId state.version saved

/-! ### Administration -/

structure CreateUserAccountCommand where
  actor : Actor
  userId : JsString
  email : Option JsString := none
  password : JsString
  roles : List JsString
  enabled : Option Bool := none
  tenantId : Option TenantId := none
  expectedVersion : Option Nat := none
  metadata : DocumentData := []

/-- The administrator's check, the tenant and the normalized user id of a command. -/
def adminTarget (actor : Actor) (tenantId : Option TenantId) (userId : JsString) :
    Except FrameworkError (TenantId × JsString) := do
  ensureUserAccountAdmin platform actor
  let tenantId ← resolveUserAccountActorTenant actor tenantId
  let userId ← normalizeRequiredUserAccountText userId (js "User id")
  pure (tenantId, userId)

def create (command : CreateUserAccountCommand) : UserAccountProgram UserAccount := do
  let target ← Program.ofExcept (adminTarget platform command.actor command.tenantId command.userId)
  let roles ← Program.ofExcept (normalizeRequiredUserRoles platform command.roles)
  let password ← Program.ofExcept (normalizeUserPassword command.password)
  let email := normalizeOptionalUserEmail platform command.email
  let state ← stateFor platform target.1 target.2
  Program.ofExcept (ensureUserAccountExpectedVersion state command.expectedVersion)
  Program.ofExcept (ensureUserAccountCreatable state)
  validateRoles target.1 roles
  let passwordHash ← hash password
  let saved ← appendEvents target.1 target.2 state.version command.actor.id command.metadata
    [.accountCreated target.2 email roles (some passwordHash) (command.enabled.getD true) none]
  pure (publicUserAccount (foldUserAccount platform target.1 target.2 saved))

structure ChangeUserPasswordCommand where
  actor : Actor
  userId : JsString
  password : JsString
  tenantId : Option TenantId := none
  expectedVersion : Option Nat := none
  metadata : DocumentData := []

def changePassword (command : ChangeUserPasswordCommand) : UserAccountProgram UserAccount := do
  let target ← Program.ofExcept (adminTarget platform command.actor command.tenantId command.userId)
  let password ← Program.ofExcept (normalizeUserPassword command.password)
  let state ← existingStateFor platform target.1 target.2
  Program.ofExcept (ensureUserAccountExpectedVersion state command.expectedVersion)
  let passwordHash ← hash password
  commit platform target.1 target.2 state command.actor.id command.metadata (.passwordChanged target.2 passwordHash)

structure ChangeUserRolesCommand where
  actor : Actor
  userId : JsString
  roles : List JsString
  tenantId : Option TenantId := none
  expectedVersion : Option Nat := none
  metadata : DocumentData := []

def changeRoles (command : ChangeUserRolesCommand) : UserAccountProgram UserAccount := do
  let target ← Program.ofExcept (adminTarget platform command.actor command.tenantId command.userId)
  let roles ← Program.ofExcept (normalizeRequiredUserRoles platform command.roles)
  let state ← existingStateFor platform target.1 target.2
  Program.ofExcept (ensureUserAccountExpectedVersion state command.expectedVersion)
  validateRoles target.1 roles
  if state.roles = roles then
    pure (publicUserAccount state)
  else
    commit platform target.1 target.2 state command.actor.id command.metadata (.rolesChanged target.2 roles)

structure SetUserAccountEnabledCommand where
  actor : Actor
  userId : JsString
  tenantId : Option TenantId := none
  expectedVersion : Option Nat := none
  metadata : DocumentData := []

def userAccountStatusChangedPayload (userId : JsString) (enabled : Bool) : UserAccountEventPayload :=
  if enabled then .accountEnabled userId else .accountDisabled userId

def changeEnabled (command : SetUserAccountEnabledCommand) (enabled : Bool) : UserAccountProgram UserAccount := do
  let target ← Program.ofExcept (adminTarget platform command.actor command.tenantId command.userId)
  let state ← existingStateFor platform target.1 target.2
  Program.ofExcept (ensureUserAccountExpectedVersion state command.expectedVersion)
  if state.enabled = enabled then
    pure (publicUserAccount state)
  else
    commit platform target.1 target.2 state command.actor.id command.metadata
      (userAccountStatusChangedPayload target.2 enabled)

/-! ### Identity providers -/

structure SyncAuthProviderAccountCommand where
  actor : Actor
  provider : JsString
  subject : JsString
  userId : Option JsString := none
  email : Option JsString := none
  roles : Option (List JsString) := none
  enabled : Option Bool := none
  emailVerified : Option Bool := none
  tenantId : Option TenantId := none
  expectedVersion : Option Nat := none
  metadata : DocumentData := []

/-- A sync command with its texts normalized. -/
structure ProviderSync where
  tenantId : TenantId
  userId : JsString
  provider : JsString
  subject : JsString
  email : Option JsString
  roles : Option (List JsString)

def normalizeProviderSync (command : SyncAuthProviderAccountCommand) : Except FrameworkError ProviderSync := do
  ensureUserAccountAdmin platform command.actor
  let tenantId ← resolveUserAccountActorTenant command.actor command.tenantId
  let provider ← normalizeRequiredUserAccountText command.provider (js "Provider")
  let subject ← normalizeRequiredUserAccountText command.subject (js "Provider subject")
  let email := normalizeOptionalUserEmail platform command.email
  let userId ← resolveProviderSyncUserId provider subject email command.userId
  let roles ← command.roles.mapM (normalizeRequiredUserRoles platform)
  pure { tenantId, userId, provider, subject, email, roles }

/-- The account does not exist yet: it is created and linked. -/
def createFromProvider (command : SyncAuthProviderAccountCommand) (sync : ProviderSync) (state : UserAccountState)
    (verified : Option (Option Timestamp)) : UserAccountProgram UserAccount := do
  let createdRoles ← Program.ofExcept
    (match sync.roles with
      | some roles => .ok roles
      | none => normalizeRequiredUserRoles platform [js "User"])
  let enabled := command.enabled.getD true
  validateRoles sync.tenantId createdRoles
  let saved ← appendEvents sync.tenantId sync.userId state.version command.actor.id command.metadata
    [.accountCreated sync.userId sync.email createdRoles none enabled verified.join,
     .authProviderLinked sync.userId
       { provider := sync.provider, subject := sync.subject, email := sync.email, roles := some createdRoles
         enabled := some enabled, emailVerifiedAt := verified }]
  pure (publicUserAccount (foldUserAccount platform sync.tenantId sync.userId saved))

def validateOptionalRoles (tenantId : TenantId) : Option (List JsString) → UserAccountProgram Unit
  | none => pure ()
  | some roles => validateRoles tenantId roles

def providerPatch (command : SyncAuthProviderAccountCommand) (sync : ProviderSync)
    (verified : Option (Option Timestamp)) : UserAuthProviderPatch :=
  { provider := sync.provider, subject := sync.subject, email := sync.email, roles := sync.roles
    enabled := command.enabled, emailVerifiedAt := verified }

def userAuthProviderChangePayload (userId : JsString) (patch : UserAuthProviderPatch)
    (existingLink : Option UserAuthProviderLink) : UserAccountEventPayload :=
  match existingLink with
  | none => .authProviderLinked userId patch
  | some _ => .authProviderSynced userId patch

/-- The account exists: it is linked, or its link is brought up to date. -/
def changeFromProvider (command : SyncAuthProviderAccountCommand) (sync : ProviderSync) (state : UserAccountState)
    (verified : Option (Option Timestamp)) : UserAccountProgram UserAccount := do
  validateOptionalRoles sync.tenantId sync.roles
  let link := state.providers.find? (isProviderLink sync.provider sync.subject)
  let patch := providerPatch command sync verified
  if link.any (fun link => !providerSyncChangesState state link patch) then
    pure (publicUserAccount state)
  else
    commit platform sync.tenantId sync.userId state command.actor.id command.metadata
      (userAuthProviderChangePayload sync.userId patch link)

def syncProvider (command : SyncAuthProviderAccountCommand) : UserAccountProgram UserAccount := do
  let sync ← Program.ofExcept (normalizeProviderSync platform command)
  let state ← stateFor platform sync.tenantId sync.userId
  Program.ofExcept (ensureUserAccountExpectedVersion state command.expectedVersion)
  let now ← now
  let verified ← Program.ofExcept (emailVerificationPatch command.emailVerified (sync.email.or state.email)
    state.email state.emailVerifiedAt now)
  if state.exists then changeFromProvider platform command sync state verified
  else createFromProvider platform command sync state verified

/-! ### Logging in -/

structure AuthenticateUserAccountCommand where
  userId : JsString
  password : JsString
  tenantId : Option TenantId := none

/-- A stale hash is brought up to date; a failure of that is not a failure of the login. -/
def rehashPasswordIfStale (tenantId : TenantId) (userId password passwordHash : JsString)
    (state : UserAccountState) : UserAccountProgram UserAccountState := do
  let stale ← needsRehash passwordHash
  if stale then
    match ← tryHash password with
    | .error _ => pure state
    | .ok passwordHash =>
      match ← tryAppendEvents tenantId userId state.version userId [] [.passwordRehashed userId passwordHash] with
      | .error _ => pure state
      | .ok saved => pure (foldUserAccountFrom platform (some state) tenantId userId saved)
  else
    pure state

def authenticateAccount (command : AuthenticateUserAccountCommand) : UserAccountProgram UserAccount := do
  let tenantId := command.tenantId.getD defaultTenantId
  let userId ← Program.ofExcept (normalizeRequiredUserAccountText command.userId (js "User id"))
  let password ← Program.ofExcept (normalizeUserLoginPassword command.password)
  let state ← stateFor platform tenantId userId
  let passwordHash ← Program.ofExcept (userAccountPasswordHashForLogin state)
  let verified ← verifyPassword password passwordHash
  Program.ofExcept (ensure (verified && state.enabled) (.denied (js "Invalid credentials")))
  let upgraded ← rehashPasswordIfStale platform tenantId userId password passwordHash state
  pure (publicUserAccount upgraded)

/-! ### Recovery -/

structure RecoveryRequestCommand where
  userId : JsString
  tenantId : Option TenantId := none
  metadata : DocumentData := []

def recoveryActorId : JsString := js "anonymous"

def isDocumentConflict (error : FrameworkError) : Bool := error.code = .documentConflict

def userAccountSavedEventVersion (events : UserAccountLog) (fallback : Nat) : Nat :=
  (events.getLast?.map (·.sequence)).getD fallback

/-- A conflict means that the account has moved on, and is no error. -/
def markRecoveryDeliveryFailed (tenantId : TenantId) (userId : JsString) (expectedVersion : Nat)
    (metadata : DocumentData) (payload : UserAccountEventPayload) : UserAccountProgram Unit := do
  match ← tryAppendEvents tenantId userId expectedVersion recoveryActorId metadata [payload] with
  | .ok _ => pure ()
  | .error error => if isDocumentConflict error then pure () else .throw error

def sendPasswordReset (tenantId : TenantId) (userId email token : JsString) (expiresAt : Timestamp) :
    UserAccountProgram (Except FrameworkError Unit) :=
  LogProgram.other (UserAccountCall.sendPasswordReset tenantId userId email token expiresAt)

def sendEmailVerification (tenantId : TenantId) (userId email token : JsString) (expiresAt : Timestamp) :
    UserAccountProgram (Except FrameworkError Unit) :=
  LogProgram.other (UserAccountCall.sendEmailVerification tenantId userId email token expiresAt)

/-- What both recovery requests do once there is an address: record a challenge with the hash of a
new token, send the token, and take the challenge back if it cannot be sent. The result says
whether the token was delivered. -/
def requestRecovery (tenantId : TenantId) (userId : JsString) (state : UserAccountState) (metadata : DocumentData)
    (expiresInSeconds : Nat) (requested : (tokenHash : JsString) → (expiresAt : Timestamp) → UserAccountEventPayload)
    (failed : UserAccountEventPayload)
    (send : (token : JsString) → (expiresAt : Timestamp) → UserAccountProgram (Except FrameworkError Unit)) :
    UserAccountProgram Bool := do
  let token ← nextRecoveryToken (js "tok_")
  let now ← now
  let expiresAt ← Program.ofExcept (recoveryExpiresAtFrom platform now expiresInSeconds)
  let tokenHash ← hash token
  match ← tryAppendEvents tenantId userId state.version recoveryActorId metadata [requested tokenHash expiresAt] with
  | .error error => if isDocumentConflict error then pure false else .throw error
  | .ok saved =>
    match ← send token expiresAt with
    | .ok _ => pure true
    | .error _ => do
        markRecoveryDeliveryFailed tenantId userId (userAccountSavedEventVersion saved state.version) metadata failed
        pure false

def requestPasswordReset (command : RecoveryRequestCommand) : UserAccountProgram Bool := do
  let tenantId := command.tenantId.getD defaultTenantId
  let userId ← Program.ofExcept (normalizeRequiredUserAccountText command.userId (js "User id"))
  let state ← stateFor platform tenantId userId
  match userAccountPasswordResetDeliveryEmail platform state with
  | none => pure false
  | some email =>
    requestRecovery platform tenantId userId state command.metadata platform.passwordResetExpiresInSeconds
      (fun tokenHash expiresAt => .passwordResetRequested userId tokenHash expiresAt)
      (.passwordResetDeliveryFailed userId)
      (fun token expiresAt => sendPasswordReset tenantId userId email token expiresAt)

def requestEmailVerification (command : RecoveryRequestCommand) : UserAccountProgram Bool := do
  let tenantId := command.tenantId.getD defaultTenantId
  let userId ← Program.ofExcept (normalizeRequiredUserAccountText command.userId (js "User id"))
  let state ← stateFor platform tenantId userId
  match userAccountEmailVerificationDeliveryEmail platform state with
  | none => pure false
  | some email =>
    requestRecovery platform tenantId userId state command.metadata platform.emailVerificationExpiresInSeconds
      (fun tokenHash expiresAt => .emailVerificationRequested userId email tokenHash expiresAt)
      (.emailVerificationDeliveryFailed userId email)
      (fun token expiresAt => sendEmailVerification tenantId userId email token expiresAt)

def ensureValidRecoveryChallenge (state : UserAccountState) (challenge : UserAccountRecoveryChallenge)
    (token : JsString) : UserAccountProgram Unit := do
  let now ← now
  Program.ofExcept (ensureUserRecoveryChallengeUsable platform state challenge now)
  Program.ofExcept (ensure (platform.verifyToken token challenge.tokenHash) invalidUserRecoveryToken)

structure ResetUserPasswordCommand where
  userId : JsString
  token : JsString
  password : JsString
  tenantId : Option TenantId := none
  metadata : DocumentData := []

def resetPassword (command : ResetUserPasswordCommand) : UserAccountProgram UserAccount := do
  let tenantId := command.tenantId.getD defaultTenantId
  let userId ← Program.ofExcept (normalizeRequiredUserAccountText command.userId (js "User id"))
  let token ← Program.ofExcept (normalizeUserRecoveryToken command.token)
  let password ← Program.ofExcept (normalizeUserPassword command.password)
  let state ← stateFor platform tenantId userId
  match state.passwordHash, state.passwordReset with
  | some _, some challenge => do
      ensureValidRecoveryChallenge platform state challenge token
      let passwordHash ← hash password
      commit platform tenantId userId state recoveryActorId command.metadata
        (.passwordResetCompleted userId passwordHash)
  | _, _ => .throw invalidUserRecoveryToken

structure VerifyUserEmailCommand where
  userId : JsString
  token : JsString
  tenantId : Option TenantId := none
  metadata : DocumentData := []

def verifyEmail (command : VerifyUserEmailCommand) : UserAccountProgram UserAccount := do
  let tenantId := command.tenantId.getD defaultTenantId
  let userId ← Program.ofExcept (normalizeRequiredUserAccountText command.userId (js "User id"))
  let token ← Program.ofExcept (normalizeUserRecoveryToken command.token)
  let state ← stateFor platform tenantId userId
  let challenge ← Program.ofExcept (userAccountEmailVerificationChallengeForCompletion state)
  ensureValidRecoveryChallenge platform state challenge.toUserAccountRecoveryChallenge token
  commit platform tenantId userId state recoveryActorId command.metadata (.emailVerified userId challenge.email)

end UserAccountService

/-! ## Commands -/

open UserAccountService

inductive UserAccountCommand
  | create (command : CreateUserAccountCommand)
  | changePassword (command : ChangeUserPasswordCommand)
  | changeRoles (command : ChangeUserRolesCommand)
  | enable (command : SetUserAccountEnabledCommand)
  | disable (command : SetUserAccountEnabledCommand)
  | syncProvider (command : SyncAuthProviderAccountCommand)
  | authenticate (command : AuthenticateUserAccountCommand)
  | requestPasswordReset (command : RecoveryRequestCommand)
  | resetPassword (command : ResetUserPasswordCommand)
  | requestEmailVerification (command : RecoveryRequestCommand)
  | verifyEmail (command : VerifyUserEmailCommand)

inductive UserAccountResult
  | account (account : UserAccount)
  | delivered (delivered : Bool)

def UserAccountCommand.program (platform : UserAccountPlatform) :
    UserAccountCommand → UserAccountProgram UserAccountResult
  | .create command => do
      let account ← UserAccountService.create platform command
      pure (.account account)
  | .changePassword command => do
      let account ← UserAccountService.changePassword platform command
      pure (.account account)
  | .changeRoles command => do
      let account ← UserAccountService.changeRoles platform command
      pure (.account account)
  | .enable command => do
      let account ← changeEnabled platform command true
      pure (.account account)
  | .disable command => do
      let account ← changeEnabled platform command false
      pure (.account account)
  | .syncProvider command => do
      let account ← UserAccountService.syncProvider platform command
      pure (.account account)
  | .authenticate command => do
      let account ← authenticateAccount platform command
      pure (.account account)
  | .requestPasswordReset command => do
      let delivered ← UserAccountService.requestPasswordReset platform command
      pure (.delivered delivered)
  | .resetPassword command => do
      let account ← UserAccountService.resetPassword platform command
      pure (.account account)
  | .requestEmailVerification command => do
      let delivered ← UserAccountService.requestEmailVerification platform command
      pure (.delivered delivered)
  | .verifyEmail command => do
      let account ← UserAccountService.verifyEmail platform command
      pure (.account account)
