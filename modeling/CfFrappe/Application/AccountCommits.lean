import CfFrappe.Application.UserAccountService

set_option autoImplicit false

/-! # What account commands commit

A command of the account service commits on the state that it read, whatever others did in
between: an append is saved at the version of that state only. `AccountCommit` says what a command
can append to an account; every step of every run keeps to it (`wp_userAccountCommand`).
-/

open Utf UserAccountService
open Discipline (wp_bind wp_checked wp_mono wp_ofExcept wp_pure wp_throw)

/-- Payloads that leave the address and its verification alone, or take a challenge back. -/
def UserAccountEventPayload.isPlain : UserAccountEventPayload → Bool
  | .accountCreated _ _ _ _ _ emailVerifiedAt => emailVerifiedAt.isNone
  | .authProviderLinked .. | .authProviderSynced .. | .emailVerificationRequested .. | .emailVerified .. => false
  | _ => true

/-- What a command can append to an account, by the state that the append finds. -/
inductive AccountCommit (platform : UserAccountPlatform) (tenantId : TenantId) (userId : JsString) :
    UserAccountCommand → UserAccountState → List UserAccountEventPayload → Prop
  | plain {command state payload} : payload.userId? = some userId → payload.isPlain = true →
      AccountCommit platform tenantId userId command state [payload]
  | providerCreated {command sync state now verified roles} :
      normalizeProviderSync platform command = .ok sync → sync.tenantId = tenantId → sync.userId = userId →
      emailVerificationPatch command.emailVerified (sync.email.or state.email) state.email
        state.emailVerifiedAt now = .ok verified →
      state.exists = false →
      AccountCommit platform tenantId userId (.syncProvider command) state
        [.accountCreated userId sync.email roles none (command.enabled.getD true) verified.join,
         .authProviderLinked userId
           { provider := sync.provider, subject := sync.subject, email := sync.email, roles := some roles
             enabled := some (command.enabled.getD true), emailVerifiedAt := verified }]
  | providerChanged {command sync state now verified link} :
      normalizeProviderSync platform command = .ok sync → sync.tenantId = tenantId → sync.userId = userId →
      emailVerificationPatch command.emailVerified (sync.email.or state.email) state.email
        state.emailVerifiedAt now = .ok verified →
      state.exists = true →
      AccountCommit platform tenantId userId (.syncProvider command) state
        [userAuthProviderChangePayload userId (providerPatch command sync verified) link]
  | verificationRequested {command state email tokenHash expiresAt} : state.email = some email →
      AccountCommit platform tenantId userId (.requestEmailVerification command) state
        [.emailVerificationRequested userId email tokenHash expiresAt]
  | verified {command state challenge token} : state.emailVerification = some challenge →
      normalizeUserRecoveryToken command.token = .ok token →
      platform.verifyToken token challenge.tokenHash = true →
      AccountCommit platform tenantId userId (.verifyEmail command) state [.emailVerified userId challenge.email]

/-- An append to the stream of an account that the command may make. -/
def CommitOf (platform : UserAccountPlatform) (command : UserAccountCommand) (s : UserAccountStore)
    (stream : StreamName) (events : List UserAccountEvent) : Prop :=
  ∃ tenantId userId, userAccountsStream tenantId userId = some stream ∧
    AccountCommit platform tenantId userId command (foldUserAccount platform tenantId userId (s.logs stream))
      (events.map (·.payload))

abbrev userAccountDiscipline :
    Discipline UserAccountStore (LogAction StreamName UserAccountEvent UserAccountCall)
      (LogAction.Reply FrameworkError UserAccountCall.Reply) Empty :=
  LogState.discipline FrameworkError userAccountSurroundings (fun _ _ => False) (fun _ => True)

/-- The precondition of a program of a command: it commits what the command may. -/
abbrev accountWp {α : Type} (platform : UserAccountPlatform) (command : UserAccountCommand) (own : Set Empty)
    (p : UserAccountProgram α) (Q : α → Set Empty → UserAccountStore → Prop) (s : UserAccountStore) : Prop :=
  userAccountDiscipline.wp (LogState.guarantee (CommitOf platform command) (fun _ _ _ => True)) own p Q s

/-! ## The version of an account -/

theorem applyUserAccountEvent_version (platform : UserAccountPlatform) (tenantId : TenantId) (userId : JsString)
    {state : UserAccountState} {e : Recorded UserAccountEvent} (h : e.sequence = state.version + 1) :
    (applyUserAccountEvent platform tenantId userId state e).version = e.sequence := by
  have hmax : max state.version e.sequence = e.sequence := by omega
  unfold applyUserAccountEvent
  split_ifs
  · split
    · rfl
    · dsimp only
      split_ifs
      · rfl
      · exact hmax
  · exact hmax

theorem foldUserAccount_version (platform : UserAccountPlatform) (tenantId : TenantId) (userId : JsString)
    {log : UserAccountLog} (h : Numbered 0 log) :
    (foldUserAccount platform tenantId userId log).version = log.length := by
  have hfrom : ∀ (state : UserAccountState) (log : UserAccountLog), Numbered state.version log →
      (log.foldl (applyUserAccountEvent platform tenantId userId) state).version = state.version + log.length := by
    intro state log
    induction log generalizing state with
    | nil => intro; rfl
    | cons e log ih =>
      intro hlog
      have hversion := applyUserAccountEvent_version platform tenantId userId hlog.1
      rw [List.foldl_cons, ih, hversion, hlog.1, List.length_cons]
      · omega
      · rw [hversion, hlog.1]
        exact hlog.2
  have hzero := hfrom (noUserAccount tenantId userId) log h
  rw [noUserAccount, Nat.zero_add] at hzero
  exact hzero

/-! ## Rules -/

variable {tenantId : TenantId} {userId actorId : JsString} {t : UserAccountStore} {stream : StreamName}
variable {metadata : DocumentData} {payloads : List UserAccountEventPayload}

section Rules

variable {α : Type} {platform : UserAccountPlatform} {command : UserAccountCommand} {own : Set Empty}
variable {s : UserAccountStore}

/-- What a program knows about an earlier moment. -/
structure Seen (t s : UserAccountStore) : Prop where
  later : t.Later userAccountSurroundings s
  inv : userAccountDiscipline.Inv t

theorem Seen.later_of {s s' : UserAccountStore} (h : Seen t s) (hs : s.Later userAccountSurroundings s') :
    Seen t s' := ⟨h.later.trans hs, h.inv⟩

theorem wp_account_call {call : UserAccountCall} {Q : call.Reply → Set Empty → UserAccountStore → Prop}
    (h : ∀ r own t, s.Later userAccountSurroundings t → Q r own t) :
    accountWp platform command own (LogProgram.other call) Q s := by
  apply LogState.wp_other
  intro s' hrely hinv r t hlogs _
  have hstate : t = s' := by
    cases s'
    cases t
    cases hlogs
    rfl
  subst hstate
  exact ⟨trivial, trivial, fun i => i.elim, h r _ t hrely.le⟩

theorem wp_accountStream {Q : StreamName → Set Empty → UserAccountStore → Prop}
    (h : ∀ stream, userAccountsStream tenantId userId = some stream → Q stream own s) :
    accountWp platform command own (accountStream tenantId userId) Q s := by
  apply wp_ofExcept
  intro stream hstream
  exact h stream (requireStream_ok hstream)

theorem wp_stateFor {Q : UserAccountState → Set Empty → UserAccountStore → Prop}
    (h : ∀ stream t, userAccountsStream tenantId userId = some stream → Seen t t →
      s.Later userAccountSurroundings t → Q (foldUserAccount platform tenantId userId (t.logs stream)) own t) :
    accountWp platform command own (stateFor platform tenantId userId) Q s := by
  unfold stateFor
  apply wp_bind
  apply wp_accountStream
  intro stream hstream
  apply wp_bind
  apply LogState.wp_read
  intro t hrely hinv
  exact wp_pure (h stream t hstream ⟨LogState.Later.refl t, hinv⟩ hrely.le)

theorem wp_accountEvents {occurredAt : Timestamp} (payloads : List UserAccountEventPayload)
    {Q : List UserAccountEvent → Set Empty → UserAccountStore → Prop}
    (h : ∀ events own t, s.Later userAccountSurroundings t → events.map (·.payload) = payloads → Q events own t) :
    accountWp platform command own (accountEvents tenantId stream actorId occurredAt metadata payloads) Q s := by
  induction payloads generalizing own s Q with
  | nil => exact h [] own s (LogState.Later.refl s) rfl
  | cons payload payloads ih =>
    unfold accountEvents
    apply wp_bind
    apply wp_account_call
    intro id own' t ht
    apply wp_bind
    apply ih
    intro events own'' u hu hevents
    apply wp_pure
    apply h _ own'' u (ht.trans hu)
    rw [List.map_cons, hevents]

/-- **An append commits what the command may**, if it may commit it on the log that it is saved
to. -/
theorem wp_tryAppendEvents {version : Nat}
    {Q : Except FrameworkError UserAccountLog → Set Empty → UserAccountStore → Prop}
    (hcommit : ∀ stream t, userAccountsStream tenantId userId = some stream →
      s.Later userAccountSurroundings t → (t.logs stream).length = version →
      AccountCommit platform tenantId userId command (foldUserAccount platform tenantId userId (t.logs stream))
        payloads) (h : ∀ reply own t, s.Later userAccountSurroundings t → Q reply own t) :
    accountWp platform command own (tryAppendEvents tenantId userId version actorId metadata payloads) Q s := by
  unfold tryAppendEvents
  apply wp_bind
  apply wp_accountStream
  intro stream hstream
  apply wp_bind
  apply wp_account_call
  intro occurredAt own₁ t₁ ht₁
  apply wp_bind
  apply wp_accountEvents
  intro events own₂ t₂ ht₂ hevents
  apply LogState.wp_append
  · intro s' error hrely _
    exact h _ _ _ (ht₁.trans (ht₂.trans hrely.le))
  · intro s' hrely _ hversion
    have hlater := ht₁.trans (ht₂.trans hrely.le)
    refine ⟨trivial, ⟨tenantId, userId, hstream, ?_⟩, fun _ _ i => i.elim, ?_⟩
    · rw [hevents]
      exact hcommit stream s' hstream hlater hversion
    · exact h _ _ _ (hlater.trans (LogState.Later.push _ _ _))

/-- A commit that was planned on a state that was read. -/
theorem commit_of_read {stream' : StreamName} {s s' : UserAccountStore} (hread : Seen t s)
    (hstream : userAccountsStream tenantId userId = some stream)
    (hstream' : userAccountsStream tenantId userId = some stream') (hlater : s.Later userAccountSurroundings s')
    (hversion : (s'.logs stream').length = (foldUserAccount platform tenantId userId (t.logs stream)).version)
    (hcommit : AccountCommit platform tenantId userId command
      (foldUserAccount platform tenantId userId (t.logs stream)) payloads) :
    AccountCommit platform tenantId userId command (foldUserAccount platform tenantId userId (s'.logs stream'))
      payloads := by
  obtain rfl := Option.some.inj (hstream.symm.trans hstream')
  rw [foldUserAccount_version platform tenantId userId (hread.inv.1 stream)] at hversion
  rw [(hread.later.trans hlater).log_eq hversion]
  exact hcommit

theorem wp_refold {version : Nat} {saved : UserAccountLog} :
    accountWp platform command own (refold platform tenantId userId version saved) (fun _ _ _ => True) s := by
  unfold refold
  apply wp_bind
  apply wp_accountStream
  intro stream _
  apply wp_bind
  apply LogState.wp_read
  intros
  exact wp_pure trivial

theorem wp_appendEvents {Q : UserAccountLog → Set Empty → UserAccountStore → Prop} (hread : Seen t s)
    (hstream : userAccountsStream tenantId userId = some stream)
    (hcommit : AccountCommit platform tenantId userId command
      (foldUserAccount platform tenantId userId (t.logs stream)) payloads) (h : ∀ saved own u, Q saved own u) :
    accountWp platform command own (appendEvents tenantId userId
      (foldUserAccount platform tenantId userId (t.logs stream)).version actorId metadata payloads) Q s := by
  unfold appendEvents
  apply wp_bind
  apply wp_tryAppendEvents
  · intro stream' s' hstream' hlater hversion
    exact commit_of_read hread hstream hstream' hlater hversion hcommit
  · intro reply own' u _
    apply wp_ofExcept
    intro saved _
    exact h saved own' u

theorem wp_commit {payload : UserAccountEventPayload} (hread : Seen t s)
    (hstream : userAccountsStream tenantId userId = some stream)
    (hcommit : AccountCommit platform tenantId userId command
      (foldUserAccount platform tenantId userId (t.logs stream)) [payload]) :
    accountWp platform command own (commit platform tenantId userId
      (foldUserAccount platform tenantId userId (t.logs stream)) actorId metadata payload) (fun _ _ _ => True) s := by
  unfold commit
  apply wp_bind
  apply wp_appendEvents hread hstream hcommit
  intro saved own' u
  exact wp_refold

theorem wp_hash {secret : JsString} {Q : JsString → Set Empty → UserAccountStore → Prop}
    (h : ∀ hashed own t, s.Later userAccountSurroundings t → Q hashed own t) :
    accountWp platform command own (UserAccountService.hash secret) Q s := by
  unfold UserAccountService.hash tryHash
  apply wp_bind
  apply wp_account_call
  intro hashed own' t ht
  apply wp_ofExcept
  intro value _
  exact h value own' t ht

theorem wp_validateRoles {roles : List JsString} {Q : Unit → Set Empty → UserAccountStore → Prop}
    (h : ∀ own t, s.Later userAccountSurroundings t → Q () own t) :
    accountWp platform command own (validateRoles tenantId roles) Q s := by
  unfold validateRoles
  apply wp_bind
  apply wp_account_call
  intro valid own' t ht
  apply wp_ofExcept
  intro u _
  exact h own' t ht

end Rules

/-! ## Every command -/

section Commands

variable {platform : UserAccountPlatform} {own : Set Empty} {s : UserAccountStore}

theorem wp_create (command : CreateUserAccountCommand) :
    accountWp platform (.create command) own (create platform command) (fun _ _ _ => True) s := by
  unfold create
  apply wp_checked
  intro target _
  apply wp_checked
  intro roles _
  apply wp_checked
  intro password _
  apply wp_bind
  apply wp_stateFor
  intro stream t hstream hseen _
  apply wp_checked
  intro _ _
  apply wp_checked
  intro _ _
  apply wp_bind
  apply wp_validateRoles
  intro own₁ t₁ ht₁
  apply wp_bind
  apply wp_hash
  intro passwordHash own₂ t₂ ht₂
  apply wp_bind
  apply wp_appendEvents (hseen.later_of (ht₁.trans ht₂)) hstream (.plain rfl rfl)
  intros
  exact wp_pure trivial

theorem wp_existingStateFor {command : UserAccountCommand} {Q : UserAccountState → Set Empty → UserAccountStore → Prop}
    (h : ∀ stream t, userAccountsStream tenantId userId = some stream → Seen t t →
      Q (foldUserAccount platform tenantId userId (t.logs stream)) own t) :
    accountWp platform command own (existingStateFor platform tenantId userId) Q s := by
  unfold existingStateFor
  apply wp_bind
  apply wp_stateFor
  intro stream t hstream hseen _
  apply wp_checked
  intro _ _
  exact wp_pure (h stream t hstream hseen)

theorem wp_changePassword (command : ChangeUserPasswordCommand) :
    accountWp platform (.changePassword command) own (changePassword platform command) (fun _ _ _ => True) s := by
  unfold changePassword
  apply wp_checked
  intro target _
  apply wp_checked
  intro password _
  apply wp_bind
  apply wp_existingStateFor
  intro stream t hstream hseen
  apply wp_checked
  intro _ _
  apply wp_bind
  apply wp_hash
  intro passwordHash own₁ t₁ ht₁
  exact wp_commit (hseen.later_of ht₁) hstream (.plain rfl rfl)

theorem wp_changeRoles (command : ChangeUserRolesCommand) :
    accountWp platform (.changeRoles command) own (changeRoles platform command) (fun _ _ _ => True) s := by
  unfold changeRoles
  apply wp_checked
  intro target _
  apply wp_checked
  intro roles _
  apply wp_bind
  apply wp_existingStateFor
  intro stream t hstream hseen
  apply wp_checked
  intro _ _
  apply wp_bind
  apply wp_validateRoles
  intro own₁ t₁ ht₁
  split_ifs
  · exact wp_pure trivial
  · exact wp_commit (hseen.later_of ht₁) hstream (.plain rfl rfl)

theorem wp_changeEnabled (label : UserAccountCommand) (command : SetUserAccountEnabledCommand) (enabled : Bool) :
    accountWp platform label own (changeEnabled platform command enabled) (fun _ _ _ => True) s := by
  unfold changeEnabled
  apply wp_checked
  intro target _
  apply wp_bind
  apply wp_existingStateFor
  intro stream t hstream hseen
  apply wp_checked
  intro _ _
  split_ifs
  · exact wp_pure trivial
  · apply wp_commit hseen hstream
    cases enabled with
    | true => exact .plain rfl rfl
    | false => exact .plain rfl rfl

theorem wp_syncProvider (command : SyncAuthProviderAccountCommand) :
    accountWp platform (.syncProvider command) own (syncProvider platform command) (fun _ _ _ => True) s := by
  unfold syncProvider
  apply wp_checked
  intro sync hsync
  apply wp_bind
  apply wp_stateFor
  intro stream t hstream hseen _
  apply wp_checked
  intro _ _
  apply wp_bind
  apply wp_account_call
  intro now own₁ t₁ ht₁
  apply wp_checked
  intro verified hverified
  split_ifs with hexists
  · unfold changeFromProvider
    apply wp_bind
    -- an account that exists is changed by one event
    have hchange : ∀ own₂ t₂, t₁.Later userAccountSurroundings t₂ → ∀ link : Option UserAuthProviderLink,
        accountWp platform (.syncProvider command) own₂
          (commit platform sync.tenantId sync.userId
            (foldUserAccount platform sync.tenantId sync.userId (t.logs stream)) command.actor.id command.metadata
            (userAuthProviderChangePayload sync.userId (providerPatch command sync verified) link))
          (fun _ _ _ => True) t₂ := by
      intro own₂ t₂ ht₂ link
      apply wp_commit (hseen.later_of (ht₁.trans ht₂)) hstream
      exact .providerChanged hsync rfl rfl hverified hexists
    have hroles : ∀ own₂ t₂, t₁.Later userAccountSurroundings t₂ →
        accountWp platform (.syncProvider command) own₂
          (if ((foldUserAccount platform sync.tenantId sync.userId (t.logs stream)).providers.find?
              (isProviderLink sync.provider sync.subject)).any (fun link => !providerSyncChangesState
                (foldUserAccount platform sync.tenantId sync.userId (t.logs stream)) link
                (providerPatch command sync verified)) then
            pure (publicUserAccount (foldUserAccount platform sync.tenantId sync.userId (t.logs stream)))
          else
            commit platform sync.tenantId sync.userId
              (foldUserAccount platform sync.tenantId sync.userId (t.logs stream)) command.actor.id command.metadata
              (userAuthProviderChangePayload sync.userId (providerPatch command sync verified)
                ((foldUserAccount platform sync.tenantId sync.userId (t.logs stream)).providers.find?
                  (isProviderLink sync.provider sync.subject)))) (fun _ _ _ => True) t₂ := by
      intro own₂ t₂ ht₂
      split_ifs
      · exact wp_pure trivial
      · exact hchange own₂ t₂ ht₂ _
    unfold validateOptionalRoles
    cases sync.roles with
    | none => exact wp_pure (hroles _ t₁ (LogState.Later.refl _))
    | some roles => exact wp_validateRoles (fun own₂ t₂ ht₂ => hroles own₂ t₂ ht₂)
  -- a new account is created and linked in one commit
  · unfold createFromProvider
    apply wp_checked
    intro createdRoles _
    apply wp_bind
    apply wp_validateRoles
    intro own₂ t₂ ht₂
    apply wp_bind
    apply wp_appendEvents (hseen.later_of (ht₁.trans ht₂)) hstream
    · exact .providerCreated hsync rfl rfl hverified (by simpa using hexists)
    · intros
      exact wp_pure trivial

theorem wp_authenticateAccount (label : UserAccountCommand) (command : AuthenticateUserAccountCommand) :
    accountWp platform label own (authenticateAccount platform command) (fun _ _ _ => True) s := by
  unfold authenticateAccount
  apply wp_checked
  intro userId _
  apply wp_checked
  intro password _
  apply wp_bind
  apply wp_stateFor
  intro stream t hstream hseen _
  apply wp_checked
  intro passwordHash _
  apply wp_bind
  apply wp_account_call
  intro verified own₁ t₁ ht₁
  apply wp_checked
  intro _ _
  apply wp_bind
  unfold rehashPasswordIfStale
  apply wp_bind
  apply wp_account_call
  intro stale own₂ t₂ ht₂
  split_ifs
  · apply wp_bind
    apply wp_account_call
    intro hashed own₃ t₃ ht₃
    cases hashed with
    | error e => exact wp_pure (wp_pure trivial)
    | ok rehashed =>
      apply wp_bind
      apply wp_tryAppendEvents
      · intro _ _ _ _ _
        exact .plain rfl rfl
      · intro reply own₄ t₄ _
        cases reply with
        | error e => exact wp_pure (wp_pure trivial)
        | ok saved => exact wp_pure (wp_pure trivial)
  · exact wp_pure (wp_pure trivial)

/-- A recovery request commits its challenge on the state that it read, and takes it back. -/
theorem wp_requestRecovery {label : UserAccountCommand} {expiresInSeconds : Nat}
    {requested : JsString → Timestamp → UserAccountEventPayload} {failed : UserAccountEventPayload}
    {send : JsString → Timestamp → UserAccountProgram (Except FrameworkError Unit)} (hread : Seen t s)
    (hstream : userAccountsStream tenantId userId = some stream)
    (hrequested : ∀ tokenHash expiresAt, AccountCommit platform tenantId userId label
      (foldUserAccount platform tenantId userId (t.logs stream)) [requested tokenHash expiresAt])
    (hfailed : failed.userId? = some userId ∧ failed.isPlain = true)
    (hsend : ∀ token expiresAt own s, accountWp platform label own (send token expiresAt) (fun _ _ _ => True) s) :
    accountWp platform label own (requestRecovery platform tenantId userId
      (foldUserAccount platform tenantId userId (t.logs stream)) metadata expiresInSeconds requested failed send)
      (fun _ _ _ => True) s := by
  unfold requestRecovery
  apply wp_bind
  apply wp_account_call
  intro token own₁ t₁ ht₁
  apply wp_bind
  apply wp_account_call
  intro now own₂ t₂ ht₂
  apply wp_checked
  intro expiresAt _
  apply wp_bind
  apply wp_hash
  intro tokenHash own₃ t₃ ht₃
  apply wp_bind
  -- the request is recorded before its token is sent; a delivery that fails is recorded too
  apply wp_tryAppendEvents
  · intro stream' s' hstream' hlater hversion
    exact commit_of_read hread hstream hstream' (ht₁.trans (ht₂.trans (ht₃.trans hlater))) hversion
      (hrequested tokenHash expiresAt)
  · intro reply own₄ t₄ _
    cases reply with
    | error error =>
      dsimp only
      split_ifs
      · exact wp_pure trivial
      · exact wp_throw
    | ok saved =>
      apply wp_bind
      apply wp_mono (hsend token expiresAt _ _)
      intro sent own₅ t₅ _
      cases sent with
      | ok _ => exact wp_pure trivial
      | error _ =>
        apply wp_bind
        unfold markRecoveryDeliveryFailed
        apply wp_bind
        apply wp_tryAppendEvents
        · intro _ _ _ _ _
          exact .plain hfailed.1 hfailed.2
        · intro reply own₆ t₆ _
          cases reply with
          | ok _ => exact wp_pure (wp_pure trivial)
          | error error =>
            dsimp only
            split_ifs
            · exact wp_pure (wp_pure trivial)
            · exact wp_throw

theorem wp_requestPasswordReset (label : UserAccountCommand) (command : RecoveryRequestCommand) :
    accountWp platform label own (requestPasswordReset platform command) (fun _ _ _ => True) s := by
  unfold requestPasswordReset
  apply wp_checked
  intro userId _
  apply wp_bind
  apply wp_stateFor
  intro stream t hstream hseen _
  split
  · exact wp_pure trivial
  · apply wp_requestRecovery hseen hstream
    · intro tokenHash expiresAt
      exact .plain rfl rfl
    · exact ⟨rfl, rfl⟩
    · intro token expiresAt own s
      exact wp_account_call (fun _ _ _ _ => trivial)

theorem wp_requestEmailVerification (command : RecoveryRequestCommand) :
    accountWp platform (.requestEmailVerification command) own (requestEmailVerification platform command)
      (fun _ _ _ => True) s := by
  unfold requestEmailVerification
  apply wp_checked
  intro userId _
  apply wp_bind
  apply wp_stateFor
  intro stream t hstream hseen _
  split
  · exact wp_pure trivial
  · rename_i email hemail
    have haddress : (foldUserAccount platform (command.tenantId.getD defaultTenantId) userId (t.logs stream)).email =
        some email := by
      unfold userAccountEmailVerificationDeliveryEmail at hemail
      split_ifs at hemail
      exact hemail
    apply wp_requestRecovery hseen hstream
    · intro tokenHash expiresAt
      exact .verificationRequested haddress
    · exact ⟨rfl, rfl⟩
    · intro token expiresAt own s
      exact wp_account_call (fun _ _ _ _ => trivial)

/-- A challenge that is found valid had a token that verifies. -/
theorem wp_ensureValidRecoveryChallenge {label : UserAccountCommand} {state : UserAccountState}
    {challenge : UserAccountRecoveryChallenge} {token : JsString} {Q : Unit → Set Empty → UserAccountStore → Prop}
    (h : ∀ own t, s.Later userAccountSurroundings t → platform.verifyToken token challenge.tokenHash = true →
      Q () own t) :
    accountWp platform label own (ensureValidRecoveryChallenge platform state challenge token) Q s := by
  unfold ensureValidRecoveryChallenge
  apply wp_bind
  apply wp_account_call
  intro now own₁ t₁ ht₁
  apply wp_checked
  intro _ _
  apply wp_ofExcept
  intro _ hverified
  exact h own₁ t₁ ht₁ (ensure_eq_ok hverified)

theorem wp_resetPassword (label : UserAccountCommand) (command : ResetUserPasswordCommand) :
    accountWp platform label own (resetPassword platform command) (fun _ _ _ => True) s := by
  unfold resetPassword
  apply wp_checked
  intro userId _
  apply wp_checked
  intro token _
  apply wp_checked
  intro password _
  apply wp_bind
  apply wp_stateFor
  intro stream t hstream hseen _
  split
  · apply wp_bind
    apply wp_ensureValidRecoveryChallenge
    intro own₁ t₁ ht₁ _
    apply wp_bind
    apply wp_hash
    intro passwordHash own₂ t₂ ht₂
    exact wp_commit (hseen.later_of (ht₁.trans ht₂)) hstream (.plain rfl rfl)
  · exact wp_throw

theorem wp_verifyEmail (command : VerifyUserEmailCommand) :
    accountWp platform (.verifyEmail command) own (verifyEmail platform command) (fun _ _ _ => True) s := by
  unfold verifyEmail
  apply wp_checked
  intro userId _
  apply wp_checked
  intro token htoken
  apply wp_bind
  apply wp_stateFor
  intro stream t hstream hseen _
  apply wp_checked
  intro challenge hchallenge
  have houtstanding : (foldUserAccount platform (command.tenantId.getD defaultTenantId) userId
      (t.logs stream)).emailVerification = some challenge := by
    unfold userAccountEmailVerificationChallengeForCompletion at hchallenge
    split at hchallenge
    · rename_i found hfound
      rw [hfound, Except.ok.inj hchallenge]
    · exact nomatch hchallenge
  apply wp_bind
  apply wp_ensureValidRecoveryChallenge
  intro own₁ t₁ ht₁ hverified
  exact wp_commit (hseen.later_of ht₁) hstream (.verified houtstanding htoken hverified)

/-- **Every command commits what it may.** -/
theorem wp_userAccountCommand (platform : UserAccountPlatform) (command : UserAccountCommand) (own : Set Empty)
    (s : UserAccountStore) :
    accountWp platform command own (command.program platform) (fun _ _ _ => True) s := by
  cases command with
  | create command => exact wp_bind (wp_mono (wp_create command) (fun _ _ _ _ => trivial))
  | changePassword command =>
    exact wp_bind (wp_mono (wp_changePassword command) (fun _ _ _ _ => trivial))
  | changeRoles command =>
    exact wp_bind (wp_mono (wp_changeRoles command) (fun _ _ _ _ => trivial))
  | enable command =>
    exact wp_bind (wp_mono (wp_changeEnabled _ command true) (fun _ _ _ _ => trivial))
  | disable command =>
    exact wp_bind (wp_mono (wp_changeEnabled _ command false) (fun _ _ _ _ => trivial))
  | syncProvider command =>
    exact wp_bind (wp_mono (wp_syncProvider command) (fun _ _ _ _ => trivial))
  | authenticate command =>
    exact wp_bind (wp_mono (wp_authenticateAccount _ command) (fun _ _ _ _ => trivial))
  | requestPasswordReset command =>
    exact wp_bind (wp_mono (wp_requestPasswordReset _ command) (fun _ _ _ _ => trivial))
  | resetPassword command =>
    exact wp_bind (wp_mono (wp_resetPassword _ command) (fun _ _ _ _ => trivial))
  | requestEmailVerification command =>
    exact wp_bind (wp_mono (wp_requestEmailVerification command) (fun _ _ _ _ => trivial))
  | verifyEmail command =>
    exact wp_bind (wp_mono (wp_verifyEmail command) (fun _ _ _ _ => trivial))

end Commands
