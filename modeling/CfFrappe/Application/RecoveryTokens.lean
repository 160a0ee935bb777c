import CfFrappe.Application.EmailVerification
import CfFrappe.Lib.Reporting
import CfFrappe.Lib.Since

set_option autoImplicit false

/-! # Recovery tokens

A recovery token is good for one use, and dies with what it protects. `resetPassword` and `verifyEmail` complete the
challenge that is outstanding on the account that they read, and an append at the version of that account finds it as
it was read. Whatever changes the account in a way that makes a token pointless ends its challenge (`ends`), so in every
run a token that completes something was asked for since then, and completes nothing more (`recovery_token_once`).
-/

open Utf UserAccountService
open Discipline (wp_bind wp_checked wp_mono wp_ofExcept wp_pure wp_throw)

/-- The two kinds of recovery, each with its own challenge of an account. -/
inductive RecoveryKind
  | passwordReset
  | emailVerification
  deriving DecidableEq

namespace RecoveryKind

/-- The challenge of an account that exists. -/
def outstanding (kind : RecoveryKind) (state : UserAccountState) : Option UserAccountRecoveryChallenge :=
  if state.exists then
    match kind with
    | .passwordReset => state.passwordReset
    | .emailVerification => state.emailVerification.map (·.toUserAccountRecoveryChallenge)
  else none

/-- The hash of the token that an event asks for. -/
def requested : RecoveryKind → UserAccountEventPayload → Option JsString
  | .passwordReset, .passwordResetRequested _ tokenHash _ => some tokenHash
  | .emailVerification, .emailVerificationRequested _ _ tokenHash _ => some tokenHash
  | _, _ => none

/-- What ends a challenge: for a password, a change of it or a reset that is completed; for an address, its
verification; for both, a newer request, a delivery that failed, and whatever disables or creates the account. -/
def ends : RecoveryKind → UserAccountEventPayload → Bool
  | _, .accountCreated .. | _, .accountDisabled _ => true
  | _, .authProviderLinked _ patch | _, .authProviderSynced _ patch => patch.enabled = some false
  | .passwordReset, .passwordChanged .. | .passwordReset, .passwordResetRequested ..
  | .passwordReset, .passwordResetCompleted .. | .passwordReset, .passwordResetDeliveryFailed _ => true
  | .emailVerification, .emailVerificationRequested .. | .emailVerification, .emailVerified ..
  | .emailVerification, .emailVerificationDeliveryFailed .. => true
  | _, _ => false

/-- The account whose challenge an event completes. -/
def completed : RecoveryKind → UserAccountEventPayload → Option JsString
  | .passwordReset, .passwordResetCompleted userId _ => some userId
  | .emailVerification, .emailVerified userId _ => some userId
  | _, _ => none

end RecoveryKind

/-- The token that a command brings back. -/
def UserAccountCommand.recoveryToken : UserAccountCommand → Option (RecoveryKind × JsString)
  | .resetPassword command => some (.passwordReset, command.token)
  | .verifyEmail command => some (.emailVerification, command.token)
  | _ => none

/-- A command that brings back this token has committed to this stream. -/
def usesToken (kind : RecoveryKind) (stream : StreamName) (token : JsString) (step : AccountStep) : Bool :=
  (step.label.recoveryToken.any (fun used =>
    used.1 = kind && (normalizeUserRecoveryToken used.2).toOption = some token)) &&
  ((LogState.committed step).any (fun append => append.1 = stream))

section Events

variable (platform : UserAccountPlatform) (kind : RecoveryKind) (userId : JsString) (token : JsString)

/-- An event asks for this token. -/
def AsksFor (e : Recorded UserAccountEvent) : Prop :=
  ∃ tokenHash, kind.requested e.event.payload = some tokenHash ∧ platform.verifyToken token tokenHash = true

/-- An event of the account ends what was asked for. -/
def EndsChallenge (e : Recorded UserAccountEvent) : Prop :=
  e.event.payload.userId? = some userId ∧ kind.ends e.event.payload = true

/-- Tokens are fresh: no two events of a log ask for the same one. -/
def FreshTokens (log : UserAccountLog) : Prop :=
  log.Pairwise (fun first second => ¬ (AsksFor platform kind token first ∧ AsksFor platform kind token second))

end Events

/-! ## The challenge of an account -/

variable {challenge : UserAccountRecoveryChallenge} {payload : UserAccountEventPayload}

section Challenge

variable {platform : UserAccountPlatform} {kind : RecoveryKind} {tenantId : TenantId} {userId : JsString}
variable {state : UserAccountState}

/-- The other fields of an account do not matter. -/
theorem RecoveryKind.outstanding_congr {state' : UserAccountState} (hexists : state'.exists = state.exists)
    (hreset : state'.passwordReset = state.passwordReset)
    (hverification : state'.emailVerification = state.emailVerification) :
    kind.outstanding state' = kind.outstanding state := by
  unfold RecoveryKind.outstanding
  rw [hexists, hreset, hverification]

theorem passwordReset_applyProviderAccountPatch (patch : UserAuthProviderPatch) (occurredAt : Timestamp) :
    (applyProviderAccountPatch platform state patch occurredAt).passwordReset =
      if patch.enabled = some false then none else state.passwordReset := by
  unfold applyProviderAccountPatch
  rcases patch.emailVerifiedAt with _ | _ | _ <;> rfl

/-- A provider ends a challenge by disabling the account, and in no other way. -/
theorem outstanding_applyProviderAccountPatch (platform : UserAccountPlatform) {state state' : UserAccountState}
    {patch : UserAuthProviderPatch} {occurredAt : Timestamp}
    (hexists : state'.exists = (applyProviderAccountPatch platform state patch occurredAt).exists)
    (hreset : state'.passwordReset = (applyProviderAccountPatch platform state patch occurredAt).passwordReset)
    (hverification : state'.emailVerification =
      (applyProviderAccountPatch platform state patch occurredAt).emailVerification)
    (h : kind.outstanding state' = some challenge) :
    kind.outstanding state = some challenge ∧ decide (patch.enabled = some false) = false := by
  rw [RecoveryKind.outstanding_congr hexists hreset hverification] at h
  unfold RecoveryKind.outstanding at h ⊢
  rw [applyProviderAccountPatch_exists, applyProviderAccountPatch_emailVerification,
    passwordReset_applyProviderAccountPatch] at h
  by_cases hdisabled : patch.enabled = some false
  · cases kind <;> simp [hdisabled] at h
  · simp only [if_neg hdisabled] at h
    exact ⟨h, decide_eq_false hdisabled⟩

/-- **What an event of the account does to a challenge**: it asks for one, or leaves it alone. -/
theorem outstanding_applyUserAccountPayload {occurredAt : Timestamp} {version : Nat}
    (hcreated : ∀ id email roles passwordHash enabled emailVerifiedAt,
      payload ≠ .accountCreated id email roles passwordHash enabled emailVerifiedAt)
    (h : kind.outstanding { applyUserAccountPayload platform state occurredAt payload with version } = some challenge) :
    kind.requested payload = some challenge.tokenHash ∨
      (kind.outstanding state = some challenge ∧ kind.ends payload = false) := by
  cases payload with
  | accountCreated id email roles passwordHash enabled emailVerifiedAt => exact absurd rfl (hcreated _ _ _ _ _ _)
  | authProviderLinked id patch =>
    have hkept := outstanding_applyProviderAccountPatch platform rfl rfl rfl h
    cases kind <;> exact Or.inr hkept
  | authProviderSynced id patch =>
    have hkept := outstanding_applyProviderAccountPatch platform rfl rfl rfl h
    cases kind <;> exact Or.inr hkept
  | _ =>
    cases hexists : state.exists <;>
      cases kind <;>
        simp_all [RecoveryKind.outstanding, RecoveryKind.requested, RecoveryKind.ends, applyUserAccountPayload] <;>
          (subst h; rfl)

/-- One step of the fold. -/
theorem outstanding_applyUserAccountEvent {e : Recorded UserAccountEvent}
    (h : kind.outstanding (applyUserAccountEvent platform tenantId userId state e) = some challenge) :
    kind.requested e.event.payload = some challenge.tokenHash ∨
      (kind.outstanding state = some challenge ∧ ¬ EndsChallenge kind userId e) := by
  have hversion : ∀ version, kind.outstanding { state with version } = kind.outstanding state :=
    fun _ => RecoveryKind.outstanding_congr rfl rfl rfl
  unfold applyUserAccountEvent at h
  by_cases huser : e.event.payload.userId? = some userId
  · simp only [if_pos huser] at h
    split at h
    · cases kind <;> simp [RecoveryKind.outstanding] at h
    · rename_i payload hcreated
      split_ifs at h with hexists
      · have hcases := outstanding_applyUserAccountPayload hcreated h
        rw [hversion] at hcases
        refine hcases.imp id (fun hkept => ⟨hkept.1, fun hends => ?_⟩)
        exact absurd (hends.2.symm.trans hkept.2) (by decide)
      · have hnone : kind.outstanding { state with version := max state.version e.sequence } = none := if_neg hexists
        cases hnone.symm.trans h
  · rw [if_neg huser] at h
    exact Or.inr ⟨(hversion _).symm.trans h, fun hends => huser hends.1⟩

/-- **A challenge is outstanding since it was asked for.** -/
theorem since_outstanding {token : JsString} {log : UserAccountLog}
    (h : kind.outstanding (foldUserAccount platform tenantId userId log) = some challenge)
    (hverified : platform.verifyToken token challenge.tokenHash = true) :
    Since (AsksFor platform kind token) (EndsChallenge kind userId) log := by
  have hsince : Since (fun e : Recorded UserAccountEvent => kind.requested e.event.payload = some challenge.tokenHash)
      (EndsChallenge kind userId) log :=
    since_of_foldl (applyUserAccountEvent platform tenantId userId) kind.outstanding
      (fun e challenge => kind.requested e.event.payload = some challenge.tokenHash) rfl
      (fun _ _ _ hstep => outstanding_applyUserAccountEvent hstep) h
  exact hsince.mono (fun e hrequested => ⟨_, hrequested, hverified⟩)

end Challenge

/-! ## What a use of a token commits -/

/-- A challenge that fits the token is outstanding on the account that the append finds, and the append completes it. -/
def CompletesChallenge (platform : UserAccountPlatform) (kind : RecoveryKind) (token : JsString) (s : UserAccountStore)
    (stream : StreamName) (events : List UserAccountEvent) : Prop :=
  ∃ tenantId userId normalized challenge event, userAccountsStream tenantId userId = some stream ∧
    normalizeUserRecoveryToken token = .ok normalized ∧
    kind.outstanding (foldUserAccount platform tenantId userId (s.logs stream)) = some challenge ∧
    (foldUserAccount platform tenantId userId (s.logs stream)).enabled = true ∧
    platform.verifyToken normalized challenge.tokenHash = true ∧
    events = [event] ∧ kind.completed event.payload = some userId

/-- What the commands that bring back a token append, and what all others do. -/
def RecoveryCommit (platform : UserAccountPlatform) :
    UserAccountCommand → UserAccountStore → StreamName → List UserAccountEvent → Prop
  | .resetPassword command => CompletesChallenge platform .passwordReset command.token
  | .verifyEmail command => CompletesChallenge platform .emailVerification command.token
  | command => CommitOf platform command

section Programs

variable {platform : UserAccountPlatform} {kind : RecoveryKind} {token : JsString} {own : Set Empty}
variable {s : UserAccountStore}

abbrev completionWp {α : Type} (platform : UserAccountPlatform) (kind : RecoveryKind) (token : JsString)
    (own : Set Empty) (p : UserAccountProgram α) (Q : α → Set Empty → UserAccountStore → Prop)
    (s : UserAccountStore) : Prop :=
  userAccountDiscipline.wp (LogState.guarantee (CompletesChallenge platform kind token) (fun _ _ _ => True)) own p Q s

theorem completion_call {call : UserAccountCall} {Q : call.Reply → Set Empty → UserAccountStore → Prop}
    (h : ∀ r own t, s.Later userAccountSurroundings t → Q r own t) :
    completionWp platform kind token own (LogProgram.other call) Q s := by
  apply LogState.wp_other
  intro s' hrely hinv r t hlogs _
  have hlater : s'.Later userAccountSurroundings t := ⟨fun key => hlogs ▸ List.prefix_rfl, trivial⟩
  exact ⟨trivial, trivial, fun i => i.elim, h r _ t (hrely.le.trans hlater)⟩

theorem completion_stateFor {tenantId : TenantId} {userId : JsString}
    {Q : UserAccountState → Set Empty → UserAccountStore → Prop}
    (h : ∀ stream t, userAccountsStream tenantId userId = some stream → Seen t t →
      Q (foldUserAccount platform tenantId userId (t.logs stream)) own t) :
    completionWp platform kind token own (stateFor platform tenantId userId) Q s := by
  unfold stateFor
  apply wp_checked
  intro stream hstream
  apply wp_bind
  apply LogState.wp_read
  intro t _ hinv
  exact wp_pure (h stream t (requireStream_ok hstream) ⟨LogState.Later.refl t, hinv⟩)

/-- A challenge is completed on an account that is enabled, with a token that fits. -/
theorem completion_ensureValidRecoveryChallenge {state : UserAccountState} {normalized : JsString}
    {Q : Unit → Set Empty → UserAccountStore → Prop}
    (h : ∀ own t, s.Later userAccountSurroundings t → state.exists = true → state.enabled = true →
      platform.verifyToken normalized challenge.tokenHash = true → Q () own t) :
    completionWp platform kind token own (ensureValidRecoveryChallenge platform state challenge normalized) Q s := by
  unfold ensureValidRecoveryChallenge
  apply wp_bind
  apply completion_call
  intro now own₁ t ht
  apply wp_checked
  intro _ husable
  apply wp_ofExcept
  intro _ hverified
  have hstate : (state.exists && state.enabled && !recoveryChallengeExpired platform challenge.expiresAt now) = true :=
    ensure_eq_ok husable
  rw [Bool.and_eq_true, Bool.and_eq_true] at hstate
  exact h own₁ t ht hstate.1.1 hstate.1.2 (ensure_eq_ok hverified)

/-- **An append at the version that was read completes the challenge that was read.** -/
theorem completion_commit {tenantId : TenantId} {userId normalized : JsString} {stream : StreamName}
    {t : UserAccountStore} {metadata : DocumentData} (hread : Seen t s)
    (hstream : userAccountsStream tenantId userId = some stream)
    (htoken : normalizeUserRecoveryToken token = .ok normalized)
    (hchallenge : kind.outstanding (foldUserAccount platform tenantId userId (t.logs stream)) = some challenge)
    (henabled : (foldUserAccount platform tenantId userId (t.logs stream)).enabled = true)
    (hverified : platform.verifyToken normalized challenge.tokenHash = true)
    (hpayload : kind.completed payload = some userId) :
    completionWp platform kind token own (commit platform tenantId userId
      (foldUserAccount platform tenantId userId (t.logs stream)) recoveryActorId metadata payload)
      (fun _ _ _ => True) s := by
  unfold commit appendEvents tryAppendEvents
  apply wp_bind
  apply wp_bind
  apply wp_checked
  intro stream' hstream'
  obtain rfl := Option.some.inj (hstream.symm.trans (requireStream_ok hstream'))
  apply wp_bind
  apply completion_call
  intro occurredAt own₁ t₁ ht₁
  apply wp_bind
  simp only [accountEvents]
  apply wp_bind
  apply completion_call
  intro id own₂ t₂ ht₂
  apply wp_bind
  apply wp_pure
  apply wp_pure
  have hdone : ∀ (saved : UserAccountLog) own u,
      completionWp platform kind token own (refold platform tenantId userId
        (foldUserAccount platform tenantId userId (t.logs stream)).version saved) (fun _ _ _ => True) u := by
    intro saved own u
    unfold refold
    apply wp_checked
    intro _ _
    apply wp_bind
    apply LogState.wp_read
    intros
    exact wp_pure trivial
  apply LogState.wp_append
  · intro s' error _ _
    exact wp_ofExcept (fun saved hsaved => by cases hsaved)
  · intro s' hrely _ hversion
    -- nobody has appended to the account since it was read
    rw [foldUserAccount_version platform tenantId userId (hread.inv.1 stream)] at hversion
    have hsame := (hread.later.trans (ht₁.trans (ht₂.trans hrely.le))).log_eq hversion
    refine ⟨trivial, ⟨tenantId, userId, normalized, challenge, _, hstream, htoken, ?_, ?_, hverified, rfl, hpayload⟩,
      fun _ _ i => i.elim, wp_ofExcept (fun saved _ => hdone saved _ _)⟩
    · rw [hsame]
      exact hchallenge
    · rw [hsame]
      exact henabled

theorem completion_resetPassword (command : ResetUserPasswordCommand) :
    completionWp platform .passwordReset command.token own (resetPassword platform command) (fun _ _ _ => True) s := by
  unfold resetPassword
  apply wp_checked
  intro userId _
  apply wp_checked
  intro normalized htoken
  apply wp_checked
  intro password _
  apply wp_bind
  apply completion_stateFor
  intro stream t hstream hseen
  split
  · rename_i challenge _ hchallenge
    apply wp_bind
    apply completion_ensureValidRecoveryChallenge
    intro own₁ t₁ ht₁ hexists henabled hverified
    apply wp_bind
    unfold UserAccountService.hash tryHash
    apply wp_bind
    apply completion_call
    intro hashed own₂ t₂ ht₂
    apply wp_ofExcept
    intro passwordHash _
    exact completion_commit (hseen.later_of (ht₁.trans ht₂)) hstream htoken ((if_pos hexists).trans hchallenge) henabled
      hverified rfl
  · exact wp_throw

theorem completion_verifyEmail (command : VerifyUserEmailCommand) :
    completionWp platform .emailVerification command.token own (verifyEmail platform command)
      (fun _ _ _ => True) s := by
  unfold verifyEmail
  apply wp_checked
  intro userId _
  apply wp_checked
  intro normalized htoken
  apply wp_bind
  apply completion_stateFor
  intro stream t hstream hseen
  apply wp_checked
  intro challenge hchallenge
  have hfound : (foldUserAccount platform (command.tenantId.getD defaultTenantId) userId
      (t.logs stream)).emailVerification = some challenge := by
    unfold userAccountEmailVerificationChallengeForCompletion at hchallenge
    split at hchallenge
    · rename_i found hfound
      rw [hfound, Except.ok.inj hchallenge]
    · cases hchallenge
  apply wp_bind
  apply completion_ensureValidRecoveryChallenge
  intro own₁ t₁ ht₁ hexists henabled hverified
  apply completion_commit (hseen.later_of ht₁) hstream htoken _ henabled hverified rfl
  rw [RecoveryKind.outstanding, if_pos hexists, hfound]
  rfl

/-- Every command keeps to what it may commit. -/
theorem wp_recoveryCommit (command : UserAccountCommand) :
    userAccountDiscipline.wp (LogState.guarantee (RecoveryCommit platform command) (fun _ _ _ => True)) own
      (command.program platform) (fun _ _ _ => True) s := by
  cases command with
  | resetPassword command =>
    exact wp_bind (wp_mono (completion_resetPassword command) (fun _ _ _ _ => trivial))
  | verifyEmail command =>
    exact wp_bind (wp_mono (completion_verifyEmail command) (fun _ _ _ _ => trivial))
  | _ => exact wp_userAccountCommand platform _ own s

end Programs

/-! ## Runs -/

section Runs

variable {platform : UserAccountPlatform} {kind : RecoveryKind} {tenantId : TenantId} {userId : JsString}
variable {stream : StreamName} {token : JsString} {s : UserAccountStore} {steps : List AccountStep}
variable {threads : List (UserAccountCommand × UserAccountProgram UserAccountResult)}

theorem RecoveryKind.ends_of_completed (h : kind.completed payload = some userId) :
    payload.userId? = some userId ∧ kind.ends payload = true := by
  cases kind <;> cases payload <;> simp_all [RecoveryKind.completed, RecoveryKind.ends, UserAccountEventPayload.userId?]

/-- A use of a token in a run: what it found, and what it wrote. -/
theorem UserAccountRun.use_of (hrun : UserAccountRun platform threads s steps)
    (hstream : userAccountsStream tenantId userId = some stream) {step : AccountStep} (hstep : step ∈ steps)
    (huse : usesToken kind stream token step = true) :
    (foldUserAccount platform tenantId userId (step.before.logs stream)).enabled = true ∧
      Since (AsksFor platform kind token) (EndsChallenge kind userId) (step.before.logs stream) ∧
      ∃ e, EndsChallenge kind userId e ∧ step.after.logs stream = step.before.logs stream ++ [e] := by
  rw [usesToken, Bool.and_eq_true, Option.any_eq_true, Option.any_eq_true] at huse
  obtain ⟨⟨⟨kind', raw⟩, hlabel, hused⟩, ⟨key, events⟩, hcommitted, hkey⟩ := huse
  rw [Bool.and_eq_true, decide_eq_true_eq, decide_eq_true_eq] at hused
  obtain ⟨rfl, hnormal⟩ := hused
  obtain rfl := of_decide_eq_true hkey
  -- the command has completed the challenge that fits its token
  have hcommit : CompletesChallenge platform kind' raw step.before key events := by
    obtain ⟨pool, -, hsound⟩ := Run.sound (D := userAccountDiscipline)
      (G := fun command => LogState.guarantee (RecoveryCommit platform command) (fun _ _ _ => True))
      (Q := fun _ _ _ _ => True) hrun ⟨fun _ => trivial, trivial⟩ (fun _ _ _ _ => wp_recoveryCommit _)
    obtain ⟨-, -, -, hguarantee⟩ := hsound.met step hstep
    have hcommits := LogState.guarantee_committed hguarantee hcommitted
    revert hlabel hcommits
    cases step.label with
    | resetPassword command =>
      intro hlabel hcommits
      cases hlabel
      exact hcommits
    | verifyEmail command =>
      intro hlabel hcommits
      cases hlabel
      exact hcommits
    | _ =>
      intro hlabel
      cases hlabel
  obtain ⟨tenantId', userId', normalized, challenge, event, hstream', htoken, houtstanding, henabled, hverified, rfl,
    hcompleted⟩ := hcommit
  -- a stream is the stream of one account
  obtain ⟨rfl, -, rfl⟩ := StreamRef.documentStream_injective hstream hstream'
  rw [htoken] at hnormal
  obtain rfl := Option.some.inj hnormal
  refine ⟨henabled, since_outstanding houtstanding hverified,
    ⟨(step.before.logs key).length + 1, event⟩, RecoveryKind.ends_of_completed hcompleted, ?_⟩
  rcases LogState.logs_of_committed (l := step.label) (hrun.leads.exec_of_mem hstep) with
    ⟨key', events', hsaved, hafter⟩ | ⟨hnone, -⟩
  · obtain ⟨rfl, rfl⟩ := Prod.mk.inj (Option.some.inj (hcommitted.symm.trans hsaved))
    rw [hafter, LogState.push_logs_self]
    rfl
  · cases hcommitted.symm.trans hnone

/-- **A recovery token is good for one use.** In every run of the account service whose tokens are fresh, at most one
`resetPassword` or `verifyEmail` that brings back a token goes through. It finds the account enabled, and the token has
been asked for since the last event of the account that ends a challenge: since then no password was changed (or
address verified), no other token was asked for, no delivery has failed, and nobody disabled the account. -/
theorem recovery_token_once (hrun : UserAccountRun platform threads s steps)
    (hstream : userAccountsStream tenantId userId = some stream)
    (hfresh : FreshTokens platform kind token (s.logs stream)) :
    (steps.filter (usesToken kind stream token)).length ≤ 1 ∧
      ∀ step ∈ steps, usesToken kind stream token step = true →
        (foldUserAccount platform tenantId userId (step.before.logs stream)).enabled = true ∧
        Since (AsksFor platform kind token) (EndsChallenge kind userId) (step.before.logs stream) := by
  have hwp : ∀ (command : UserAccountCommand) (s : UserAccountStore), True → userAccountDiscipline.Inv s →
      userAccountDiscipline.wp (LogState.guarantee (RecoveryCommit platform command) (fun _ _ _ => True)) ∅
        (command.program platform) (fun _ _ _ => True) s := fun _ _ _ _ => wp_recoveryCommit _
  have hinit : userAccountDiscipline.Inv emptyUserAccountStore := ⟨fun _ => trivial, trivial⟩
  refine ⟨?_, fun step hstep huse => ?_⟩
  · have hordered := Run.steps_ordered (D := userAccountDiscipline) (Q := fun _ _ _ _ => True) hrun hinit hwp
    obtain ⟨pool, -, hsound⟩ := Run.sound (D := userAccountDiscipline) (Q := fun _ _ _ _ => True) hrun hinit hwp
    have hnever : steps.Pairwise (fun earlier later =>
        ¬ (usesToken kind stream token earlier = true ∧ usesToken kind stream token later = true)) := by
      apply hordered.imp_of_mem
      rintro earlier later hearlier hlater hle ⟨huse, huse'⟩
      obtain ⟨-, hsince, e, hends, hafter⟩ := hrun.use_of hstream hearlier huse
      obtain ⟨-, hsince', -⟩ := hrun.use_of hstream hlater huse'
      -- the first use has ended the challenge, and the log has grown since
      obtain ⟨more, hmore⟩ := hle.logs stream
      rw [hafter, List.append_assoc, List.singleton_append] at hmore
      rw [← hmore] at hsince'
      refine hsince.once hends ?_ hsince'
      rw [hmore]
      obtain ⟨-, hlatest, -, -⟩ := hsound.met later hlater
      exact hfresh.sublist ((hlatest.trans (hsound.grown later hlater)).logs stream).sublist
    have hfiltered := hnever.filter (usesToken kind stream token)
    have huses : ∀ step ∈ steps.filter (usesToken kind stream token), usesToken kind stream token step = true :=
      fun step hstep => (List.mem_filter.mp hstep).2
    generalize steps.filter (usesToken kind stream token) = uses at hfiltered huses
    rcases uses with _ | ⟨first, _ | ⟨second, rest⟩⟩
    · exact Nat.zero_le 1
    · exact Nat.le_refl 1
    · have hpair := (List.pairwise_cons.mp hfiltered).1 second List.mem_cons_self
      exact absurd ⟨huses first List.mem_cons_self, huses second (by simp)⟩ hpair
  · obtain ⟨henabled, hsince, -⟩ := hrun.use_of hstream hstep huse
    exact ⟨henabled, hsince⟩

end Runs

/-! ### A token that is brought back twice -/

namespace TokenTwice

def platform : UserAccountPlatform :=
  { plainAccountPlatform with
    dateParse := fun text =>
      if text = js "2024-01-01T00:00:00.000Z" then some 1704067200000
      else if text = js "2024-01-01T01:00:00.000Z" then some 1704070800000
      else none
    toISOString := fun _ => js "2024-01-01T01:00:00.000Z" }

def commands : List UserAccountCommand :=
  [.create
    { actor := { id := js "admin", roles := [js "System Manager"] }
      userId := js "ada", email := some (js "ada@old.example"), password := js "long enough", roles := [js "User"] },
   .requestPasswordReset { userId := js "ada" },
   .resetPassword { userId := js "ada", token := js "tok_", password := js "another one" },
   .resetPassword { userId := js "ada", token := js "tok_", password := js "yet another" }]

def accounts : UserAccountStore :=
  Program.evalAll accountReply (UserAccountCommand.program platform) commands emptyUserAccountStore

def steps : List AccountStep :=
  Program.evalAllSteps accountReply (UserAccountCommand.program platform) commands emptyUserAccountStore

/-- The log has one request only. -/
theorem fresh {stream : StreamName} (hstream : userAccountsStream (js "default") (js "ada") = some stream) :
    FreshTokens platform .passwordReset (js "tok_") (accounts.logs stream) := by
  have hone : ((userAccountsStream (js "default") (js "ada")).all (fun stream => decide
      ((accounts.logs stream).Pairwise (fun first second =>
        ¬ ((RecoveryKind.passwordReset.requested first.event.payload).isSome ∧
          (RecoveryKind.passwordReset.requested second.event.payload).isSome))))) = true := by decide +kernel
  rw [hstream] at hone
  apply (of_decide_eq_true hone).imp
  rintro first second hnot ⟨⟨tokenHash, hfirst, -⟩, tokenHash', hsecond, -⟩
  apply hnot
  rw [hfirst, hsecond]
  exact ⟨rfl, rfl⟩

end TokenTwice

theorem recovery_token_once_tokenTwice :
    ∃ threads stream, UserAccountRun TokenTwice.platform threads TokenTwice.accounts TokenTwice.steps ∧
      userAccountsStream (js "default") (js "ada") = some stream ∧
      (TokenTwice.steps.filter (usesToken .passwordReset stream (js "tok_"))).length = 1 ∧
      ∀ step ∈ TokenTwice.steps, usesToken .passwordReset stream (js "tok_") step = true →
        Since (AsksFor TokenTwice.platform .passwordReset (js "tok_")) (EndsChallenge .passwordReset (js "ada"))
          (step.before.logs stream) := by
  obtain ⟨threads, hrun⟩ : ∃ threads, UserAccountRun TokenTwice.platform threads TokenTwice.accounts TokenTwice.steps :=
    Program.run_evalAll exec_accountReply TokenTwice.commands (fun _ _ => trivial) Run.nil
  obtain ⟨stream, hstream⟩ : ∃ stream, userAccountsStream (js "default") (js "ada") = some stream := ⟨_, rfl⟩
  have hused : (userAccountsStream (js "default") (js "ada")).all (fun stream =>
      decide (1 ≤ (TokenTwice.steps.filter (usesToken .passwordReset stream (js "tok_"))).length)) = true := by
    decide +kernel
  rw [hstream] at hused
  have honce := recovery_token_once hrun hstream (TokenTwice.fresh hstream)
  exact ⟨threads, stream, hrun, hstream, Nat.le_antisymm honce.1 (of_decide_eq_true hused),
    fun step hstep huse => (honce.2 step hstep huse).2⟩
