import CfFrappe.Application.AccountCommits
import CfFrappe.Application.VerificationRequests

set_option autoImplicit false

/-! # Verified addresses

When is the address of a verified account one that somebody has vouched for? There are two ways (`Attested`): a
provider has said that the address is verified, or a token that was sent to the address has come back. An account
keeps its address, the time of its verification and an outstanding challenge as separate values, and events change
them separately, so that the question is about all orders of the commands:

* A provider that changes the address and does not say whether the new one is verified leaves the verification of the
  old address in place. It also leaves an outstanding challenge in place, and a token for the old address then verifies
  the new one. `SyncSafe` says of a step that it does neither.
* `AddressOK` is what every step keeps that is safe in this sense: a verified address is attested; an outstanding
  challenge was requested for its address, and the token was sent there; and if the current address is another one, it
  is attested already.
* An operation that has recorded a request sends the token with its next step (`SendsToken`). That a challenge was sent
  stays true while the run goes on, so it can be part of the invariant (`StillSends`).
-/

open Utf UserAccountService

def emptyUserAccountStore : UserAccountStore := { logs := fun _ => [], world := () }

/-- The runs of the account service: any commands, started at any time, in any interleaving. -/
abbrev UserAccountRun (platform : UserAccountPlatform) :=
  Run (LogState.exec userAccountSurroundings) (UserAccountCommand.program platform) (fun _ => True)
    emptyUserAccountStore

/-- The same runs, with the steps of every operation kept apart. -/
abbrev UserAccountOperations (platform : UserAccountPlatform) (operations : List AccountOperation) (s : UserAccountStore)
    (steps : List AccountStep) : Prop :=
  Operations (LogState.exec userAccountSurroundings) (UserAccountCommand.program platform) (fun _ => True)
    emptyUserAccountStore operations s steps

/-! ## Attestation -/

section Attestation

variable (platform : UserAccountPlatform) (tenantId : TenantId) (userId : JsString) (stream : StreamName)

/-- The account as a step finds it. -/
def accountBefore (step : AccountStep) : UserAccountState :=
  foldUserAccount platform tenantId userId (step.before.logs stream)

/-- The address that a committed `syncProvider` with `emailVerified: true` is for. -/
def attestsByProvider (step : AccountStep) : Option JsString :=
  match step.label, LogState.committed step with
  | .syncProvider command, some (key, _) =>
    match normalizeProviderSync platform command with
    | .ok sync =>
      if command.emailVerified = some true ∧ key = stream then
        sync.email.or (accountBefore platform tenantId userId stream step).email
      else none
    | .error _ => none
  | _, _ => none

/-- The address that `requestEmailVerification` has recorded a token for, and the hash of the token. -/
def requestsVerification (step : AccountStep) : Option (JsString × JsString) :=
  match step.label, LogState.committed step with
  | .requestEmailVerification _, some (key, [event]) =>
    match event.payload with
    | .emailVerificationRequested _ email tokenHash _ => if key = stream then some (email, tokenHash) else none
    | _ => none
  | _, _ => none

/-- The challenge that `verifyEmail` has completed with a token that fits its hash. -/
def completesVerification (step : AccountStep) : Option (JsString × JsString) :=
  match step.label, LogState.committed step with
  | .verifyEmail command, some (key, [event]) =>
    match event.payload, (accountBefore platform tenantId userId stream step).emailVerification,
        normalizeUserRecoveryToken command.token with
    | .emailVerified _ _, some challenge, .ok token =>
      if platform.verifyToken token challenge.tokenHash = true ∧ key = stream then
        some (challenge.email, challenge.tokenHash)
      else none
    | _, _, _ => none
  | _, _ => none

/-- The operation that has made a request has hashed a token to the hash of the request before, and the step that it
makes next (or has made by now) sends the token to the address. -/
def SendsToken (operations : List AccountOperation) (request : AccountStep) (address tokenHash : JsString) : Prop :=
  ∃ operation ∈ operations, ∃ early late token expiresAt, operation.own = early ++ request :: late ∧
    (∃ step ∈ early, hashesToken step = some (token, tokenHash)) ∧
    ((∃ send rest, late = send :: rest ∧
        send.action = .other (.sendEmailVerification tenantId userId address token expiresAt)) ∨
      late = [] ∧ ∃ k, operation.left =
        .act (.other (.sendEmailVerification tenantId userId address token expiresAt)) k)

/-- **The steps attest an address of the account**: a provider has said that it is verified, or a token that
`requestEmailVerification` has recorded for it and sends to it has come back. -/
def Attested (operations : List AccountOperation) (steps : List AccountStep) (address : JsString) : Prop :=
  (∃ step ∈ steps, attestsByProvider platform tenantId userId stream step = some address) ∨
    ∃ before step after tokenHash, steps = before ++ step :: after ∧
      completesVerification platform tenantId userId stream step = some (address, tokenHash) ∧
      ∃ request ∈ before, requestsVerification stream request = some (address, tokenHash) ∧
        SendsToken tenantId userId operations request address tokenHash

/-- Whatever token was sent by some operations is sent by the others. -/
def StillSends (operations operations' : List AccountOperation) : Prop :=
  ∀ request address tokenHash, SendsToken tenantId userId operations request address tokenHash →
    SendsToken tenantId userId operations' request address tokenHash

end Attestation

/-- A committed `syncProvider` that changes the address of an account says that the new address is
verified, or it finds no outstanding challenge for another address (or disables the account, which
takes challenges back) and leaves no verification of the old address in place. -/
def SyncSafe (platform : UserAccountPlatform) (step : AccountStep) : Prop :=
  ∀ command sync stream events address, step.label = .syncProvider command →
    normalizeProviderSync platform command = .ok sync → LogState.committed step = some (stream, events) →
    sync.email = some address →
    (accountBefore platform sync.tenantId sync.userId stream step).exists = true →
    (accountBefore platform sync.tenantId sync.userId stream step).email ≠ some address →
    command.emailVerified = some true ∨
      (command.enabled = some false ∨
        ∀ challenge, (accountBefore platform sync.tenantId sync.userId stream step).emailVerification = some challenge →
          challenge.email = address) ∧
      (command.emailVerified = some false ∨
        (accountBefore platform sync.tenantId sync.userId stream step).emailVerifiedAt = none)

/-! ## The invariant -/

variable {s : UserAccountStore} {now : Timestamp} {verified : Option (Option Timestamp)}
variable {command : SyncAuthProviderAccountCommand} {state' : UserAccountState}

section Invariant

variable {platform : UserAccountPlatform} {tenantId : TenantId} {userId : JsString} {stream : StreamName}

/-- What the steps of a run say about an account: a verified address is attested; so is the current
address if the outstanding challenge is for another one; and every challenge was requested, and its token sent. -/
structure AddressOK (platform : UserAccountPlatform) (tenantId : TenantId) (userId : JsString) (stream : StreamName)
    (operations : List AccountOperation) (steps : List AccountStep) (state : UserAccountState) : Prop where
  absent : state.exists = false → state.email = none ∧ state.emailVerifiedAt = none ∧ state.emailVerification = none
  verified : state.emailVerifiedAt.isSome → ∃ address, state.email = some address ∧
    Attested platform tenantId userId stream operations steps address
  challenge : ∀ challenge, state.emailVerification = some challenge → ∃ address, state.email = some address ∧
    (challenge.email = address ∨ Attested platform tenantId userId stream operations steps address) ∧
    ∃ request ∈ steps, requestsVerification stream request = some (challenge.email, challenge.tokenHash) ∧
      SendsToken tenantId userId operations request challenge.email challenge.tokenHash

/-! ### Operations that go on -/

theorem stillSends_spawn (operations : List AccountOperation) (operation : AccountOperation) :
    StillSends tenantId userId operations (operations ++ [operation]) := by
  rintro request address tokenHash ⟨sender, hsender, hsends⟩
  exact ⟨sender, List.mem_append_left _ hsender, hsends⟩

/-- An operation that is to send a token sends it with its next step. -/
theorem stillSends_act {others others' : List AccountOperation} {command : UserAccountCommand} {own : List AccountStep}
    {t : UserAccountStore} {action : LogAction StreamName UserAccountEvent UserAccountCall}
    {k : action.Reply FrameworkError UserAccountCall.Reply → UserAccountProgram UserAccountResult}
    {reply : action.Reply FrameworkError UserAccountCall.Reply} :
    StillSends tenantId userId (others ++ ⟨command, own, .act action k⟩ :: others')
      (others ++ ⟨command, own ++ [⟨command, s, action, reply, t⟩], k reply⟩ :: others') := by
  rintro request address tokenHash ⟨sender, hsender, early, late, token, expiresAt, hown, hhashed, hsends⟩
  rcases List.mem_append.mp hsender with hbefore | hrest
  · exact ⟨sender, List.mem_append_left _ hbefore, early, late, token, expiresAt, hown, hhashed, hsends⟩
  · rcases List.mem_cons.mp hrest with rfl | hafter
    · refine ⟨_, List.mem_append_right _ List.mem_cons_self, early, late ++ [⟨command, s, action, reply, t⟩], token,
        expiresAt, ?_, hhashed, Or.inl ?_⟩
      · dsimp only at hown ⊢
        rw [hown, List.append_assoc]
        rfl
      · rcases hsends with ⟨send, rest, rfl, hsend⟩ | ⟨rfl, k', hleft⟩
        · exact ⟨send, _, rfl, hsend⟩
        · -- the action that was next is the one that was made
          obtain ⟨haction, -⟩ := Program.act.inj hleft
          exact ⟨_, [], rfl, haction⟩
    · exact ⟨sender, List.mem_append_right _ (List.mem_cons_of_mem _ hafter), early, late, token, expiresAt, hown,
        hhashed, hsends⟩

theorem Attested.mono {operations operations' : List AccountOperation} {steps : List AccountStep} {address : JsString}
    (step : AccountStep) (hsends : StillSends tenantId userId operations operations')
    (h : Attested platform tenantId userId stream operations steps address) :
    Attested platform tenantId userId stream operations' (steps ++ [step]) address := by
  rcases h with ⟨provider, hmem, hprovider⟩ |
    ⟨before, verified, after, tokenHash, rfl, hcompletes, request, hrequest, hrequested, hsent⟩
  · exact Or.inl ⟨provider, List.mem_append_left _ hmem, hprovider⟩
  · exact Or.inr ⟨before, verified, after ++ [step], tokenHash, by simp, hcompletes, request, hrequest, hrequested,
      hsends _ _ _ hsent⟩

theorem AddressOK.mono {operations operations' : List AccountOperation} {steps : List AccountStep}
    {state : UserAccountState} (step : AccountStep) (hsends : StillSends tenantId userId operations operations')
    (h : AddressOK platform tenantId userId stream operations steps state) :
    AddressOK platform tenantId userId stream operations' (steps ++ [step]) state := by
  refine ⟨h.absent, ?_, ?_⟩
  · intro hverified
    obtain ⟨address, haddress, hattested⟩ := h.verified hverified
    exact ⟨address, haddress, hattested.mono step hsends⟩
  · intro challenge hchallenge
    obtain ⟨address, haddress, hattested, request, hmem, hrequest, hsent⟩ := h.challenge challenge hchallenge
    exact ⟨address, haddress, hattested.imp id (Attested.mono step hsends), request, List.mem_append_left _ hmem,
      hrequest, hsends _ _ _ hsent⟩

/-- A command that is started sends nothing yet. -/
theorem AddressOK.spawn {operations : List AccountOperation} {steps : List AccountStep} {state : UserAccountState}
    (operation : AccountOperation) (h : AddressOK platform tenantId userId stream operations steps state) :
    AddressOK platform tenantId userId stream (operations ++ [operation]) steps state := by
  have hsends := @stillSends_spawn tenantId userId operations operation
  have hattested : ∀ address, Attested platform tenantId userId stream operations steps address →
      Attested platform tenantId userId stream (operations ++ [operation]) steps address := by
    rintro address (hprovider | ⟨before, verified, after, tokenHash, hsplit, hcompletes, request, hrequest, hrequested, hsent⟩)
    · exact Or.inl hprovider
    · exact Or.inr ⟨before, verified, after, tokenHash, hsplit, hcompletes, request, hrequest, hrequested,
        hsends _ _ _ hsent⟩
  refine ⟨h.absent, ?_, ?_⟩
  · intro hverified
    obtain ⟨address, haddress, hold⟩ := h.verified hverified
    exact ⟨address, haddress, hattested address hold⟩
  · intro challenge hchallenge
    obtain ⟨address, haddress, hold, request, hmem, hrequest, hsent⟩ := h.challenge challenge hchallenge
    exact ⟨address, haddress, hold.imp id (hattested address), request, hmem, hrequest, hsends _ _ _ hsent⟩

/-! ### Changes of an account -/

/-- What a change must not do to the address, its verification and its challenge. -/
theorem AddressOK.of_kept {operations : List AccountOperation} {steps : List AccountStep} {state : UserAccountState}
    (h : AddressOK platform tenantId userId stream operations steps state) (hexists : state'.exists = state.exists)
    (hemail : state'.email = state.email) (hverified : state'.emailVerifiedAt = state.emailVerifiedAt)
    (hchallenge : state'.emailVerification = state.emailVerification ∨ state'.emailVerification = none) :
    AddressOK platform tenantId userId stream operations steps state' := by
  refine ⟨?_, ?_, ?_⟩
  · intro habsent
    obtain ⟨hnone, hunverified, hunchallenged⟩ := h.absent (hexists ▸ habsent)
    refine ⟨hemail.trans hnone, hverified.trans hunverified, ?_⟩
    rcases hchallenge with hsame | hsame
    · exact hsame.trans hunchallenged
    · exact hsame
  · intro hsome
    rw [hverified] at hsome
    obtain ⟨address, haddress, hattested⟩ := h.verified hsome
    exact ⟨address, hemail.trans haddress, hattested⟩
  · intro challenge hsome
    rcases hchallenge with hsame | hsame
    · obtain ⟨address, haddress, hrest⟩ := h.challenge challenge (hsame ▸ hsome)
      exact ⟨address, hemail.trans haddress, hrest⟩
    · rw [hsame] at hsome
      exact nomatch hsome

theorem addressOK_of_unverified {operations : List AccountOperation} {steps : List AccountStep}
    {state : UserAccountState} (hexists : state.exists = true) (hverified : state.emailVerifiedAt = none)
    (hchallenge : state.emailVerification = none) :
    AddressOK platform tenantId userId stream operations steps state := by
  refine ⟨?_, ?_, ?_⟩
  · intro habsent
    exact absurd (hexists.symm.trans habsent) (by decide)
  · intro hsome
    rw [hverified] at hsome
    exact nomatch hsome
  · intro challenge hsome
    rw [hchallenge] at hsome
    exact nomatch hsome

theorem AddressOK.plain {operations : List AccountOperation} {steps : List AccountStep} {state : UserAccountState}
    {e : Recorded UserAccountEvent} (h : AddressOK platform tenantId userId stream operations steps state)
    (huser : e.event.payload.userId? = some userId) (hplain : e.event.payload.isPlain = true) :
    AddressOK platform tenantId userId stream operations steps
      (applyUserAccountEvent platform tenantId userId state e) := by
  unfold applyUserAccountEvent
  rw [if_pos huser]
  cases hpayload : e.event.payload with
  | accountCreated id email roles passwordHash enabled emailVerifiedAt =>
    rw [hpayload] at hplain
    exact addressOK_of_unverified rfl (by simpa [UserAccountEventPayload.isPlain] using hplain) rfl
  | authProviderLinked id patch => simp [hpayload, UserAccountEventPayload.isPlain] at hplain
  | authProviderSynced id patch => simp [hpayload, UserAccountEventPayload.isPlain] at hplain
  | emailVerificationRequested id email tokenHash expiresAt =>
    simp [hpayload, UserAccountEventPayload.isPlain] at hplain
  | emailVerified id email => simp [hpayload, UserAccountEventPayload.isPlain] at hplain
  | emailVerificationDeliveryFailed id email =>
    dsimp only
    split_ifs
    · exact h.of_kept rfl rfl rfl (Or.inr rfl)
    · exact h.of_kept rfl rfl rfl (Or.inl rfl)
  | accountDisabled id =>
    dsimp only
    split_ifs
    · exact h.of_kept rfl rfl rfl (Or.inr rfl)
    · exact h.of_kept rfl rfl rfl (Or.inl rfl)
  | _ =>
    dsimp only
    split_ifs
    · exact h.of_kept rfl rfl rfl (Or.inl rfl)
    · exact h.of_kept rfl rfl rfl (Or.inl rfl)

/-! ### Providers -/

section Patch

variable (state : UserAccountState) (patch : UserAuthProviderPatch) (occurredAt : Timestamp)

@[simp] theorem applyProviderAccountPatch_exists :
    (applyProviderAccountPatch platform state patch occurredAt).exists = state.exists := by
  unfold applyProviderAccountPatch
  rcases patch.emailVerifiedAt with _ | _ | _ <;> rfl

@[simp] theorem applyProviderAccountPatch_email :
    (applyProviderAccountPatch platform state patch occurredAt).email = patch.email.or state.email := by
  unfold applyProviderAccountPatch
  rcases patch.emailVerifiedAt with _ | _ | _ <;> rfl

@[simp] theorem applyProviderAccountPatch_emailVerification :
    (applyProviderAccountPatch platform state patch occurredAt).emailVerification =
      if patch.enabled = some false then none else state.emailVerification := by
  unfold applyProviderAccountPatch
  rcases patch.emailVerifiedAt with _ | _ | _ <;> rfl

@[simp] theorem applyProviderAccountPatch_emailVerifiedAt :
    (applyProviderAccountPatch platform state patch occurredAt).emailVerifiedAt =
      patch.emailVerifiedAt.getD state.emailVerifiedAt := by
  unfold applyProviderAccountPatch
  rcases patch.emailVerifiedAt with _ | _ | _ <;> rfl

end Patch

/-- What a provider says about the verification, and what becomes of it. -/
theorem emailVerificationPatch_cases {emailVerified : Option Bool} {effective current : Option JsString}
    {verifiedAt : Option Timestamp}
    (h : emailVerificationPatch emailVerified effective current verifiedAt now = .ok verified) :
    (emailVerified = none ∧ verified = none) ∨ (emailVerified = some false ∧ verified = some none) ∨
      (emailVerified = some true ∧ (∃ address, effective = some address) ∧ ∃ time, verified = some (some time)) := by
  unfold emailVerificationPatch at h
  cases emailVerified with
  | none => exact Or.inl ⟨rfl, (Except.ok.inj h).symm⟩
  | some said =>
    cases said with
    | false => exact Or.inr (Or.inl ⟨rfl, (Except.ok.inj h).symm⟩)
    | true =>
      cases effective with
      | none => exact nomatch h
      | some address => exact Or.inr (Or.inr ⟨rfl, ⟨address, rfl⟩, _, (Except.ok.inj h).symm⟩)

/-- The account after a provider has changed it. -/
theorem addressOK_changed {operations operations' : List AccountOperation} {steps : List AccountStep}
    {state : UserAccountState} {step : AccountStep} {email : Option JsString}
    (hsends : StillSends tenantId userId operations operations')
    (h : AddressOK platform tenantId userId stream operations steps state) (hexists : state.exists = true)
    (hpatch : emailVerificationPatch command.emailVerified (email.or state.email) state.email
      state.emailVerifiedAt now = .ok verified)
    (hattests : command.emailVerified = some true → ∀ address, email.or state.email = some address →
      attestsByProvider platform tenantId userId stream step = some address)
    (hsafe : ∀ address, email = some address → state.email ≠ some address →
      command.emailVerified = some true ∨
        (command.enabled = some false ∨
          ∀ challenge, state.emailVerification = some challenge → challenge.email = address) ∧
        (command.emailVerified = some false ∨ state.emailVerifiedAt = none)) (hexists' : state'.exists = state.exists)
    (hemail : state'.email = email.or state.email)
    (hchallenge : state'.emailVerification = if command.enabled = some false then none else state.emailVerification)
    (hverified : state'.emailVerifiedAt = verified.getD state.emailVerifiedAt) :
    AddressOK platform tenantId userId stream operations' (steps ++ [step]) state' := by
  -- a provider that vouches for the address attests it, whatever was there before
  have hvouched : ∀ address, command.emailVerified = some true → email.or state.email = some address →
      Attested platform tenantId userId stream operations' (steps ++ [step]) address := by
    intro address htrue haddress
    exact Or.inl ⟨step, List.mem_append_right _ List.mem_cons_self, hattests htrue address haddress⟩
  -- the address stays, or the change is a safe one
  have hkept : email.or state.email = state.email ∨
      ∃ address, email = some address ∧ state.email ≠ some address := by
    cases email with
    | none => exact Or.inl rfl
    | some address =>
      by_cases hsame : state.email = some address
      · exact Or.inl hsame.symm
      · exact Or.inr ⟨address, rfl, hsame⟩
  have hmono := h.mono step hsends
  refine ⟨fun hfalse => absurd (hexists.symm.trans (hexists'.symm.trans hfalse)) (by decide), ?_, ?_⟩
  · intro hsome
    rw [hverified] at hsome
    rcases emailVerificationPatch_cases hpatch with ⟨hsaid, rfl⟩ | ⟨-, rfl⟩ | ⟨htrue, ⟨address, haddress⟩, -⟩
    · rcases hkept with hsame | ⟨address, hnew, hchanged⟩
      · obtain ⟨address, haddress, hattested⟩ := hmono.verified hsome
        exact ⟨address, hemail.trans (hsame.trans haddress), hattested⟩
      · rcases hsafe address hnew hchanged with htrue | ⟨-, hfalse | hnone⟩
        · exact nomatch hsaid.symm.trans htrue
        · exact nomatch hsaid.symm.trans hfalse
        · rw [hnone] at hsome
          exact nomatch hsome
    · exact nomatch hsome
    · exact ⟨address, hemail.trans haddress, hvouched address htrue haddress⟩
  · intro challenge hsome
    rw [hchallenge] at hsome
    split_ifs at hsome with hdisabled
    obtain ⟨address, haddress, hattested, hrequested⟩ := hmono.challenge challenge hsome
    rcases hkept with hsame | ⟨new, hnew, hchanged⟩
    · exact ⟨address, hemail.trans (hsame.trans haddress), hattested, hrequested⟩
    · have hcurrent : email.or state.email = some new := by rw [hnew]; rfl
      refine ⟨new, hemail.trans hcurrent, ?_, hrequested⟩
      rcases hsafe new hnew hchanged with htrue | ⟨hdisabled' | hsame, -⟩
      · exact Or.inr (hvouched new htrue hcurrent)
      · exact absurd hdisabled' hdisabled
      · exact Or.inl (hsame challenge hsome)

/-- The account that a provider has created. -/
theorem addressOK_created {operations operations' : List AccountOperation} {steps : List AccountStep}
    {state : UserAccountState} {step : AccountStep} {email : Option JsString}
    (h : AddressOK platform tenantId userId stream operations steps state) (hexists : state.exists = false)
    (hpatch : emailVerificationPatch command.emailVerified (email.or state.email) state.email
      state.emailVerifiedAt now = .ok verified)
    (hattests : command.emailVerified = some true → ∀ address, email.or state.email = some address →
      attestsByProvider platform tenantId userId stream step = some address) (hexists' : state'.exists = true)
    (hemail : state'.email = email) (hchallenge : state'.emailVerification = none)
    (hverified : state'.emailVerifiedAt = verified.join) :
    AddressOK platform tenantId userId stream operations' (steps ++ [step]) state' := by
  refine ⟨fun hfalse => absurd (hexists'.symm.trans hfalse) (by decide), ?_, ?_⟩
  · intro hsome
    rw [hverified] at hsome
    rcases emailVerificationPatch_cases hpatch with ⟨-, rfl⟩ | ⟨-, rfl⟩ | ⟨htrue, ⟨address, haddress⟩, -⟩
    · exact nomatch hsome
    · exact nomatch hsome
    · refine ⟨address, ?_, Or.inl ⟨step, List.mem_append_right _ List.mem_cons_self, hattests htrue address haddress⟩⟩
      rw [(h.absent hexists).1, Option.or_none] at haddress
      rw [hemail, haddress]
  · intro challenge hsome
    rw [hchallenge] at hsome
    exact nomatch hsome

end Invariant

/-! ## Every run -/

section Runs

variable {platform : UserAccountPlatform} {tenantId : TenantId} {userId : JsString} {stream : StreamName}

theorem foldUserAccount_append (log log' : UserAccountLog) :
    foldUserAccount platform tenantId userId (log ++ log') =
      log'.foldl (applyUserAccountEvent platform tenantId userId) (foldUserAccount platform tenantId userId log) :=
  List.foldl_append

/-! ### One commit -/

section Commit

variable {operations operations' : List AccountOperation} {steps : List AccountStep} {step : AccountStep}
variable {state : UserAccountState} {event : UserAccountEvent} {n : Nat}

/-- A provider that says that the address is verified attests the address that the account then has. -/
theorem attestsByProvider_eq {sync : ProviderSync} {events : List UserAccountEvent}
    (hlabel : step.label = .syncProvider command) (hsync : normalizeProviderSync platform command = .ok sync)
    (hcommitted : LogState.committed step = some (stream, events)) (htrue : command.emailVerified = some true) :
    attestsByProvider platform tenantId userId stream step =
      sync.email.or (accountBefore platform tenantId userId stream step).email := by
  rw [attestsByProvider, hlabel, hcommitted]
  dsimp only
  rw [hsync]
  dsimp only
  rw [if_pos ⟨htrue, rfl⟩]

/-- The events of a new account that a provider creates. -/
theorem AddressOK.providerCreated {sync : ProviderSync} {roles : List JsString} {link : UserAuthProviderPatch}
    {created linked : UserAccountEvent} (h : AddressOK platform tenantId userId stream operations steps state)
    (hexists : state.exists = false)
    (hpatch : emailVerificationPatch command.emailVerified (sync.email.or state.email) state.email
      state.emailVerifiedAt now = .ok verified)
    (hattests : command.emailVerified = some true →
      attestsByProvider platform tenantId userId stream step = sync.email.or state.email)
    (hcreated : created.payload =
      .accountCreated userId sync.email roles none (command.enabled.getD true) verified.join)
    (hlinked : linked.payload = .authProviderLinked userId link)
    (hlink : link.email = sync.email ∧ link.emailVerifiedAt = verified) :
    AddressOK platform tenantId userId stream operations' (steps ++ [step])
      ((recorded n [created, linked]).foldl (applyUserAccountEvent platform tenantId userId) state) := by
  apply addressOK_created h hexists hpatch
  · intro htrue address haddress
    rw [hattests htrue, haddress]
  all_goals
    simp only [recorded, List.foldl_cons, List.foldl_nil]
    unfold applyUserAccountEvent
    simp only [hcreated, hlinked, UserAccountEventPayload.userId?, if_true, applyUserAccountPayload,
      applyProviderAccountPatch_exists, applyProviderAccountPatch_email,
      applyProviderAccountPatch_emailVerification, applyProviderAccountPatch_emailVerifiedAt, hlink.1, hlink.2]
  · cases sync.email <;> rfl
  · split_ifs <;> rfl
  · rcases verified with _ | _ | _ <;> rfl

/-- The event of an account that a provider changes: its patch, whether the provider was linked before or not. -/
theorem applyUserAccountEvent_provider {patch : UserAuthProviderPatch} {link : Option UserAuthProviderLink}
    (hexists : state.exists = true) (hpayload : event.payload = userAuthProviderChangePayload userId patch link) :
    ∃ providers version, applyUserAccountEvent platform tenantId userId state ⟨n, event⟩ =
      { applyProviderAccountPatch platform { state with version := max state.version n } patch event.occurredAt with
        providers, version } := by
  unfold applyUserAccountEvent
  cases link with
  | none =>
    simp only [hpayload, userAuthProviderChangePayload, UserAccountEventPayload.userId?, if_true,
      applyUserAccountPayload, hexists]
    exact ⟨_, _, rfl⟩
  | some link =>
    simp only [hpayload, userAuthProviderChangePayload, UserAccountEventPayload.userId?, if_true,
      applyUserAccountPayload, hexists]
    exact ⟨_, _, rfl⟩

/-- A request for a verification. The challenge is for the current address, and its token is sent there. -/
theorem AddressOK.requested {email tokenHash : JsString} {expiresAt : Timestamp}
    (hsends : StillSends tenantId userId operations operations')
    (h : AddressOK platform tenantId userId stream operations steps state) (hemail : state.email = some email)
    (hpayload : event.payload = .emailVerificationRequested userId email tokenHash expiresAt)
    (hrequest : requestsVerification stream step = some (email, tokenHash))
    (hsent : SendsToken tenantId userId operations' step email tokenHash) :
    AddressOK platform tenantId userId stream operations' (steps ++ [step])
      (applyUserAccountEvent platform tenantId userId state ⟨n, event⟩) := by
  have hmono := h.mono step hsends
  have hexists : state.exists = true := by
    by_contra hfalse
    -- nothing is folded before the account exists
    obtain ⟨hnone, -, -⟩ := h.absent (Bool.eq_false_iff.mpr hfalse)
    cases hnone.symm.trans hemail
  have hnew : ∃ requestedAt version updatedAt, applyUserAccountEvent platform tenantId userId state ⟨n, event⟩ =
      { state with emailVerification := some { email, tokenHash, expiresAt, requestedAt }, version, updatedAt } := by
    unfold applyUserAccountEvent
    simp only [hpayload, UserAccountEventPayload.userId?, if_true, applyUserAccountPayload, hexists]
    exact ⟨_, _, _, rfl⟩
  obtain ⟨requestedAt, version, updatedAt, hnew⟩ := hnew
  rw [hnew]
  refine ⟨fun habsent => absurd (hexists.symm.trans habsent) (by decide), hmono.verified, ?_⟩
  intro challenge hchallenge
  obtain rfl := Option.some.inj hchallenge
  exact ⟨email, hemail, Or.inl rfl, step, List.mem_append_right _ List.mem_cons_self, hrequest, hsent⟩

/-- A challenge that is completed. It is for the current address, or the address was attested before. -/
theorem AddressOK.completed {challenge : UserAccountEmailVerificationChallenge}
    (hsends : StillSends tenantId userId operations operations')
    (h : AddressOK platform tenantId userId stream operations steps state)
    (hchallenge : state.emailVerification = some challenge)
    (hpayload : event.payload = .emailVerified userId challenge.email)
    (hcompletes : completesVerification platform tenantId userId stream step =
      some (challenge.email, challenge.tokenHash)) :
    AddressOK platform tenantId userId stream operations' (steps ++ [step])
      (applyUserAccountEvent platform tenantId userId state ⟨n, event⟩) := by
  obtain ⟨address, haddress, hattested, request, hrequest, hrequested, hsent⟩ := h.challenge challenge hchallenge
  have hcurrent : Attested platform tenantId userId stream operations' (steps ++ [step]) address := by
    rcases hattested with rfl | hattested
    · exact Or.inr ⟨steps, step, [], challenge.tokenHash, rfl, hcompletes, request, hrequest, hrequested,
        hsends _ _ _ hsent⟩
    · exact hattested.mono step hsends
  have hexists : state.exists = true := by
    by_contra hfalse
    obtain ⟨hnone, -, -⟩ := h.absent (Bool.eq_false_iff.mpr hfalse)
    cases hnone.symm.trans haddress
  have hnew : ∃ emailVerifiedAt version updatedAt, applyUserAccountEvent platform tenantId userId state ⟨n, event⟩ =
      { state with emailVerification := none, emailVerifiedAt, version, updatedAt } := by
    unfold applyUserAccountEvent
    simp only [hpayload, UserAccountEventPayload.userId?, if_true, applyUserAccountPayload, hexists]
    exact ⟨_, _, _, rfl⟩
  obtain ⟨emailVerifiedAt, version, updatedAt, hnew⟩ := hnew
  rw [hnew]
  refine ⟨fun habsent => absurd (hexists.symm.trans habsent) (by decide), fun _ => ⟨address, haddress, hcurrent⟩, ?_⟩
  intro challenge hnone
  cases hnone

end Commit

/-- **A commit keeps the invariant**, if it is a safe one, and if the token of a request is sent. -/
theorem AddressOK.commit {operations operations' : List AccountOperation} {steps : List AccountStep}
    (step : AccountStep) {events : List UserAccountEvent} (hsends : StillSends tenantId userId operations operations')
    (h : AddressOK platform tenantId userId stream operations steps (accountBefore platform tenantId userId stream step))
    (hcommitted : LogState.committed step = some (stream, events))
    (hcommit : AccountCommit platform tenantId userId step.label (accountBefore platform tenantId userId stream step)
      (events.map (·.payload)))
    (hsafe : SyncSafe platform step)
    (hsent : ∀ address tokenHash, requestsVerification stream step = some (address, tokenHash) →
      SendsToken tenantId userId operations' step address tokenHash) :
    AddressOK platform tenantId userId stream operations' (steps ++ [step])
      (foldUserAccount platform tenantId userId
        (step.before.logs stream ++ recorded (step.before.logs stream).length events)) := by
  rw [foldUserAccount_append]
  change AddressOK _ _ _ _ _ _ ((recorded (step.before.logs stream).length events).foldl
    (applyUserAccountEvent platform tenantId userId) (accountBefore platform tenantId userId stream step))
  generalize hlabel : step.label = label at hcommit
  generalize hpayloads : events.map (·.payload) = payloads at hcommit
  have hattests {c : SyncAuthProviderAccountCommand} := @attestsByProvider_eq c platform tenantId userId stream step
  generalize hstate : accountBefore platform tenantId userId stream step = state at h hcommit hattests
  -- one case for each kind of commit; only a provider or a completed verification can verify an address
  cases hcommit with
  | @plain _ _ payload huser hplain =>
    obtain ⟨event, rfl, hevent⟩ := List.map_eq_singleton_iff.mp hpayloads
    rw [← hevent] at huser hplain
    exact (h.plain huser hplain).mono step hsends
  | @providerCreated command sync _ now verified roles hsync htenant huser hpatch hexists =>
    obtain ⟨created, rest, rfl, hcreated, hrest⟩ := List.map_eq_cons_iff.mp hpayloads
    obtain ⟨linked, rfl, hlinked⟩ := List.map_eq_singleton_iff.mp hrest
    exact h.providerCreated hexists hpatch (hattests hlabel hsync hcommitted) hcreated hlinked ⟨rfl, rfl⟩
  | @providerChanged command sync _ now verified link hsync htenant huser hpatch hexists =>
    obtain ⟨changed, rfl, hchanged⟩ := List.map_eq_singleton_iff.mp hpayloads
    subst htenant huser
    simp only [recorded, List.foldl_cons, List.foldl_nil]
    obtain ⟨providers, version, hnew⟩ := @applyUserAccountEvent_provider platform sync.tenantId sync.userId state
      changed ((step.before.logs stream).length + 1) _ link hexists hchanged
    rw [hnew]
    apply addressOK_changed hsends h hexists hpatch
    · intro htrue address haddress
      rw [hattests hlabel hsync hcommitted htrue, haddress]
    · intro address haddress hne
      have hcondition := hsafe command sync stream _ address hlabel hsync hcommitted haddress
      rw [hstate] at hcondition
      exact hcondition hexists hne
    · exact applyProviderAccountPatch_exists _ _ _
    · exact applyProviderAccountPatch_email _ _ _
    · exact applyProviderAccountPatch_emailVerification _ _ _
    · exact applyProviderAccountPatch_emailVerifiedAt _ _ _
  | @verificationRequested command _ email tokenHash expiresAt hemail =>
    obtain ⟨event, rfl, hevent⟩ := List.map_eq_singleton_iff.mp hpayloads
    have hrequest : requestsVerification stream step = some (email, tokenHash) := by
      rw [requestsVerification, hlabel, hcommitted]
      dsimp only
      rw [hevent]
      exact if_pos rfl
    exact h.requested hsends hemail hevent hrequest (hsent email tokenHash hrequest)
  | @verified command _ challenge token hchallenge htoken hverified =>
    obtain ⟨event, rfl, hevent⟩ := List.map_eq_singleton_iff.mp hpayloads
    have hcompletes : completesVerification platform tenantId userId stream step =
        some (challenge.email, challenge.tokenHash) := by
      rw [completesVerification, hlabel, hcommitted]
      dsimp only
      rw [hevent, hstate, hchallenge, htoken]
      exact if_pos ⟨hverified, rfl⟩
    exact h.completed hsends hchallenge hevent hcompletes

/-! ### Runs -/

theorem addressOK_nil : AddressOK platform tenantId userId stream [] [] (noUserAccount tenantId userId) := by
  refine ⟨fun _ => ⟨rfl, rfl, rfl⟩, ?_, ?_⟩
  · intro hsome
    exact nomatch hsome
  · intro challenge hsome
    exact nomatch hsome

/-- What an account command commits is what the account then holds. -/
theorem UserAccountRun.committed_of {threads : List (UserAccountCommand × UserAccountProgram UserAccountResult)}
    {steps : List AccountStep} (hrun : UserAccountRun platform threads s steps) :
    ∀ step ∈ steps, ∀ key events, LogState.committed step = some (key, events) →
      CommitOf platform step.label step.before key events := by
  obtain ⟨pool, -, hsound⟩ := Run.sound (D := userAccountDiscipline)
    (G := fun command => LogState.guarantee (CommitOf platform command) (fun _ _ _ => True))
    (Q := fun _ _ _ _ => True) hrun ⟨fun _ => trivial, trivial⟩
    (fun command s _ _ => wp_userAccountCommand platform command ∅ s)
  intro step hstep key events hcommitted
  obtain ⟨-, -, -, hguarantee⟩ := hsound.met step hstep
  exact LogState.guarantee_committed hguarantee hcommitted

/-- **A request sends its token.** The operation has hashed it before, and the next thing that it does is to send it. -/
theorem UserAccountOperations.sendsToken {others others' : List AccountOperation} {t : UserAccountStore}
    {steps own : List AccountStep} {command : UserAccountCommand}
    {action : LogAction StreamName UserAccountEvent UserAccountCall}
    {k : action.Reply FrameworkError UserAccountCall.Reply → UserAccountProgram UserAccountResult}
    {reply : action.Reply FrameworkError UserAccountCall.Reply} {address tokenHash : JsString}
    (hrun : UserAccountOperations platform (others ++ ⟨command, own, .act action k⟩ :: others') s steps)
    (hstream : userAccountsStream tenantId userId = some stream)
    (hrequest : requestsVerification stream ⟨command, s, action, reply, t⟩ = some (address, tokenHash)) :
    SendsToken tenantId userId (others ++ ⟨command, own ++ [⟨command, s, action, reply, t⟩], k reply⟩ :: others')
      ⟨command, s, action, reply, t⟩ address tokenHash := by
  have hleft := (hrun.left ⟨command, own, .act action k⟩ (List.mem_append_right _ List.mem_cons_self)).1
  unfold requestsVerification at hrequest
  split at hrequest
  · rename_i request key event hlabel hcommitted
    dsimp only at hlabel
    subst hlabel
    split at hrequest
    · rename_i userId' email tokenHash' expiresAt hpayload
      split_ifs at hrequest with hkey
      obtain ⟨rfl, rfl⟩ := Prod.mk.inj (Option.some.inj hrequest)
      subst hkey
      -- what was committed was appended
      cases action with
      | read key => cases hcommitted
      | other call => cases hcommitted
      | append key version events =>
        cases reply with
        | error error => cases hcommitted
        | ok saved =>
          obtain ⟨rfl, rfl⟩ := Prod.mk.inj (Option.some.inj hcommitted)
          obtain ⟨tenantId', token, hstream', hhashed, hnext⟩ := requestEmailVerification_sends hleft hpayload
          -- a stream is the stream of one account
          obtain ⟨rfl, -, rfl⟩ := StreamRef.documentStream_injective hstream hstream'
          obtain ⟨k', hk⟩ := hnext saved
          exact ⟨_, List.mem_append_right _ List.mem_cons_self, own, [], token, expiresAt, rfl, hhashed,
            Or.inr ⟨rfl, k', hk⟩⟩
    · cases hrequest
  · cases hrequest

/-- The invariant holds after every run of safe steps. -/
theorem UserAccountOperations.addressOK {operations : List AccountOperation} {steps : List AccountStep}
    (hrun : UserAccountOperations platform operations s steps)
    (hstream : userAccountsStream tenantId userId = some stream) (hsafe : ∀ step ∈ steps, SyncSafe platform step) :
    AddressOK platform tenantId userId stream operations steps
      (foldUserAccount platform tenantId userId (s.logs stream)) := by
  induction hrun with
  | nil => exact addressOK_nil
  | spawn command hrun hadmitted ih => exact (ih hsafe).spawn _
  | @act others others' s t steps command own action k reply hrun hexec ih =>
    have hlast : (⟨command, s, action, reply, t⟩ : AccountStep) ∈ steps ++ [⟨command, s, action, reply, t⟩] :=
      List.mem_append_right _ List.mem_cons_self
    have hbefore := ih (fun step hstep => hsafe step (List.mem_append_left _ hstep))
    have hsends : StillSends tenantId userId (others ++ ⟨command, own, .act action k⟩ :: others')
        (others ++ ⟨command, own ++ [⟨command, s, action, reply, t⟩], k reply⟩ :: others') := stillSends_act
    rcases LogState.logs_of_committed (l := command) hexec with ⟨key, events, hcommitted, rfl⟩ | ⟨-, hlogs⟩
    · by_cases hkey : stream = key
      · subst hkey
        obtain ⟨tenantId', userId', hstream', hcommit⟩ :=
          UserAccountRun.committed_of (hrun.act hexec).run _ hlast stream events hcommitted
        obtain ⟨rfl, -, rfl⟩ := StreamRef.documentStream_injective hstream hstream'
        rw [LogState.push_logs_self]
        exact AddressOK.commit ⟨command, s, action, reply, s.push stream events⟩ hsends hbefore hcommitted hcommit
          (hsafe _ hlast) (fun address tokenHash hrequest => UserAccountOperations.sendsToken hrun hstream hrequest)
      · rw [LogState.push_logs_of_ne s events hkey]
        exact hbefore.mono _ hsends
    · rw [hlogs]
      exact hbefore.mono _ hsends

/-- **A verified address was attested.** In every run in which no provider changes the address of an
account and leaves a verification or a challenge of the old one in place, the current address of a
verified account was vouched for by a provider; or a token has come back that fits the hash of a request for this
address, and the operation that made the request sends the token to this address. -/
theorem verified_address_attested {operations : List AccountOperation} {s : UserAccountStore}
    {steps : List AccountStep} (hrun : UserAccountOperations platform operations s steps)
    (hstream : userAccountsStream tenantId userId = some stream) (hsafe : ∀ step ∈ steps, SyncSafe platform step)
    (hverified : (foldUserAccount platform tenantId userId (s.logs stream)).emailVerifiedAt.isSome) :
    ∃ address, (foldUserAccount platform tenantId userId (s.logs stream)).email = some address ∧
      Attested platform tenantId userId stream operations steps address :=
  (UserAccountOperations.addressOK hrun hstream hsafe).verified hverified

end Runs

/-! ## A provider that vouches, and one that does not say -/

def plainAccountPlatform : UserAccountPlatform :=
  { localeCompare := compareCodeUnits
    toLowerCase := id
    dateParse := fun _ => none
    toISOString := fun _ => js "2024-01-01T00:00:00.000Z"
    verifyToken := fun token tokenHash => token = tokenHash
    adminRoles := [js "System Manager"]
    recoveryAvailable := true
    passwordResetExpiresInSeconds := 3600
    emailVerificationExpiresInSeconds := 3600 }

def answerAccountCall : Unit → (call : UserAccountCall) → call.Reply × Unit
  | _, .now => (js "2024-01-01T00:00:00.000Z", ())
  | _, .nextId start => (start, ())
  | _, .nextRecoveryToken start => (start, ())
  | _, .hash secret => (.ok secret, ())
  | _, .verifyPassword password passwordHash => (decide (password = passwordHash), ())
  | _, .needsRehash _ => (false, ())
  | _, .validateRoles _ _ => (.ok (), ())
  | _, .sendPasswordReset .. => (.ok (), ())
  | _, .sendEmailVerification .. => (.ok (), ())

def accountReply (s : UserAccountStore) (action : LogAction StreamName UserAccountEvent UserAccountCall) :
    action.Reply FrameworkError UserAccountCall.Reply × UserAccountStore :=
  s.reply (.conflict []) answerAccountCall action

def providerSays (email : JsString) (emailVerified : Option Bool) : UserAccountCommand :=
  .syncProvider
    { actor := { id := js "admin", roles := [js "System Manager"] }
      provider := js "oidc"
      subject := js "1"
      userId := some (js "ada")
      email := some email
      emailVerified }

/-- An account is created with a verified address. -/
def vouchedCommands : List UserAccountCommand := [providerSays (js "ada@old.example") (some true)]

/-- Then the provider has another address, and does not say whether it is verified. -/
def changedCommands : List UserAccountCommand := vouchedCommands ++ [providerSays (js "ada@new.example") none]

def accountsAfter (commands : List UserAccountCommand) : UserAccountStore :=
  Program.evalAll accountReply (UserAccountCommand.program plainAccountPlatform) commands emptyUserAccountStore

def accountSteps (commands : List UserAccountCommand) : List AccountStep :=
  Program.evalAllSteps accountReply (UserAccountCommand.program plainAccountPlatform) commands emptyUserAccountStore

theorem exec_accountReply (s : UserAccountStore) (action : LogAction StreamName UserAccountEvent UserAccountCall) :
    s.exec userAccountSurroundings action (accountReply s action).1 (accountReply s action).2 :=
  LogState.exec_reply (fun _ _ => trivial) s action

theorem run_accountsAfter (commands : List UserAccountCommand) :
    ∃ operations, UserAccountOperations plainAccountPlatform operations (accountsAfter commands) (accountSteps commands) := by
  have hruns : ∃ threads, Run (LogState.exec userAccountSurroundings) (UserAccountCommand.program plainAccountPlatform)
      (fun _ => True) emptyUserAccountStore threads (accountsAfter commands) ([] ++ accountSteps commands) :=
    Program.run_evalAll exec_accountReply commands (fun _ _ => trivial) Run.nil
  obtain ⟨threads, hrun⟩ := hruns
  obtain ⟨operations, -, hoperations⟩ := hrun.operations
  exact ⟨operations, hoperations⟩

theorem verified_address_attested_vouched :
    ∃ operations s steps stream address, UserAccountOperations plainAccountPlatform operations s steps ∧
      userAccountsStream (js "default") (js "ada") = some stream ∧ (∀ step ∈ steps, SyncSafe plainAccountPlatform step) ∧
      (foldUserAccount plainAccountPlatform (js "default") (js "ada") (s.logs stream)).email = some address ∧
      Attested plainAccountPlatform (js "default") (js "ada") stream operations steps address := by
  obtain ⟨operations, hrun⟩ := run_accountsAfter vouchedCommands
  have hstream : ∃ stream, userAccountsStream (js "default") (js "ada") = some stream := ⟨_, rfl⟩
  obtain ⟨stream, hstream⟩ := hstream
  -- the provider says that the address is verified, so its sync is safe
  have hsafe : ∀ step ∈ accountSteps vouchedCommands, SyncSafe plainAccountPlatform step := by
    intro step hstep command sync key events address hlabel _ _ _ _ _
    have hmem := Program.label_of_mem_evalAllSteps hstep
    rw [hlabel, vouchedCommands, List.mem_singleton] at hmem
    obtain rfl := UserAccountCommand.syncProvider.inj hmem
    exact Or.inl rfl
  have hverified : (userAccountsStream (js "default") (js "ada")).all (fun stream =>
      (foldUserAccount plainAccountPlatform (js "default") (js "ada")
        ((accountsAfter vouchedCommands).logs stream)).emailVerifiedAt.isSome) = true := by decide +kernel
  rw [hstream] at hverified
  obtain ⟨address, haddress, hattested⟩ := verified_address_attested hrun hstream hsafe hverified
  exact ⟨operations, _, _, stream, address, hrun, hstream, hsafe, haddress, hattested⟩

/-- The verification of the old address stays when the provider changes the address and does not say
whether the new one is verified. -/
theorem changed_address_not_attested :
    ∃ operations s steps stream, UserAccountOperations plainAccountPlatform operations s steps ∧
      userAccountsStream (js "default") (js "ada") = some stream ∧
      (foldUserAccount plainAccountPlatform (js "default") (js "ada") (s.logs stream)).emailVerifiedAt.isSome ∧
      ¬ ∃ address,
        (foldUserAccount plainAccountPlatform (js "default") (js "ada") (s.logs stream)).email = some address ∧
          Attested plainAccountPlatform (js "default") (js "ada") stream operations steps address := by
  obtain ⟨operations, hrun⟩ := run_accountsAfter changedCommands
  have hstream : ∃ stream, userAccountsStream (js "default") (js "ada") = some stream := ⟨_, rfl⟩
  obtain ⟨stream, hstream⟩ := hstream
  have hfinal : (userAccountsStream (js "default") (js "ada")).all (fun stream =>
      (foldUserAccount plainAccountPlatform (js "default") (js "ada")
        ((accountsAfter changedCommands).logs stream)).emailVerifiedAt.isSome &&
      decide ((foldUserAccount plainAccountPlatform (js "default") (js "ada")
        ((accountsAfter changedCommands).logs stream)).email = some (js "ada@new.example")) &&
      (accountSteps changedCommands).all (fun step =>
        decide (attestsByProvider plainAccountPlatform (js "default") (js "ada") stream step ≠
          some (js "ada@new.example")) &&
        decide (completesVerification plainAccountPlatform (js "default") (js "ada") stream step = none))) = true := by
    decide +kernel
  rw [hstream] at hfinal
  simp only [Option.all_some, Bool.and_eq_true, decide_eq_true_eq, List.all_eq_true] at hfinal
  obtain ⟨⟨hverified, hemail⟩, hsteps⟩ := hfinal
  refine ⟨operations, _, _, stream, hrun, hstream, hverified, ?_⟩
  rintro ⟨address, haddress, hattested⟩
  obtain rfl := Option.some.inj (hemail.symm.trans haddress)
  rcases hattested with ⟨step, hstep, hprovider⟩ | ⟨before, step, after, tokenHash, hsplit, hcompletes, -⟩
  · exact (hsteps step hstep).1 hprovider
  · have hstep : step ∈ accountSteps changedCommands := by
      rw [hsplit]
      exact List.mem_append_right _ List.mem_cons_self
    exact nomatch (hsteps step hstep).2.symm.trans hcompletes
