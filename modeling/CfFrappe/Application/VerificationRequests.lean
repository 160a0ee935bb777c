import CfFrappe.Application.UserAccountService
import CfFrappe.Lib.Operations

set_option autoImplicit false

/-! # What a request for a verification sends

`requestEmailVerification` draws a token, hashes it, records the hash in the account, and only then sends the token to
the address that the record names. Other commands may act at any point in between, so at the moment at which the request
is recorded the token is still to be sent. What can be said of every run is that the operation that has recorded the
request has hashed the token before, and that sending it, to the same account and the same address, is what it does next
(`requestEmailVerification_sends`).

The proof goes through the parts of the program: a part that never appends is over when an append comes next, so the
append is the one of `tryAppendEvents`, the first time or, after a failed delivery, the second time; and the second one
records something else.
-/

open Utf UserAccountService

abbrev AccountStep :=
  RunStep UserAccountCommand UserAccountStore (LogAction StreamName UserAccountEvent UserAccountCall)
    (LogAction.Reply FrameworkError UserAccountCall.Reply)

abbrev AccountOperation :=
  Operation UserAccountCommand UserAccountStore (LogAction StreamName UserAccountEvent UserAccountCall)
    (LogAction.Reply FrameworkError UserAccountCall.Reply) FrameworkError UserAccountResult

/-- The token that a step has hashed, and its hash. -/
def hashesToken : AccountStep → Option (JsString × JsString)
  | ⟨_, _, .other (.hash token), .ok tokenHash, _⟩ => some (token, tokenHash)
  | _ => none

/-- The action is no append. -/
def LogAction.isHarmless {K N X : Type} : LogAction K N X → Prop
  | .append _ _ _ => False
  | _ => True

section Harmless

variable {platform : UserAccountPlatform}

theorem harmless_call (call : UserAccountCall) :
    (LogProgram.other call : UserAccountProgram call.Reply).Within LogAction.isHarmless :=
  ⟨trivial, fun _ => trivial⟩

theorem harmless_hash (secret : JsString) : (UserAccountService.hash secret).Within LogAction.isHarmless :=
  (harmless_call _).bind (fun _ => Program.Within.ofExcept _)

theorem harmless_stateFor (tenantId : TenantId) (userId : JsString) :
    (stateFor platform tenantId userId).Within LogAction.isHarmless := by
  apply Program.Within.bind (Program.Within.ofExcept _)
  intro stream
  exact ⟨trivial, fun _ => trivial⟩

theorem harmless_accountEvents (tenantId : TenantId) (stream : StreamName) (actorId : JsString) (occurredAt : Timestamp)
    (metadata : DocumentData) (payloads : List UserAccountEventPayload) :
    (accountEvents tenantId stream actorId occurredAt metadata payloads).Within LogAction.isHarmless := by
  induction payloads with
  | nil => trivial
  | cons payload payloads ih => exact (harmless_call _).bind (fun _ => ih.bind (fun _ => trivial))

end Harmless

section Requests

variable {platform : UserAccountPlatform} {tenantId : TenantId} {userId : JsString} {own : List AccountStep}

/-- A hash that has been made was made of the secret. -/
theorem hash_made {secret hashed : JsString} (h : Program.Left (UserAccountService.hash secret) own (.pure hashed)) :
    ∃ step ∈ own, hashesToken step = some (secret, hashed) := by
  obtain ⟨reply, first, second, rfl, hfirst, hsecond⟩ := h.bind_pure
  obtain ⟨command, s, t, rfl⟩ := hfirst.of_perform
  obtain ⟨-, hreply⟩ := hsecond.of_ofExcept
  cases reply with
  | error error => cases hreply
  | ok value =>
    cases hreply
    exact ⟨_, List.mem_append_left _ List.mem_cons_self, rfl⟩

theorem accountEvents_made {stream : StreamName} {actorId : JsString} {occurredAt : Timestamp} {metadata : DocumentData}
    {payloads : List UserAccountEventPayload} {events : List UserAccountEvent}
    (h : Program.Left (accountEvents tenantId stream actorId occurredAt metadata payloads) own (.pure events)) :
    events.map (·.payload) = payloads := by
  induction payloads generalizing own events with
  | nil =>
    obtain ⟨-, hevents⟩ := h.of_pure
    cases hevents
    rfl
  | cons payload payloads ih =>
    obtain ⟨id, first, second, rfl, -, hrest⟩ := h.bind_pure
    obtain ⟨rest, third, fourth, rfl, hmade, hend⟩ := hrest.bind_pure
    obtain ⟨-, hevents⟩ := hend.of_pure
    cases hevents
    rw [List.map_cons, ih hmade]

/-- The one append of `tryAppendEvents`. -/
theorem tryAppendEvents_appends {expectedVersion version : Nat} {actorId : JsString} {metadata : DocumentData}
    {payloads : List UserAccountEventPayload} {key : StreamName} {events : List UserAccountEvent}
    {k : Except FrameworkError UserAccountLog → UserAccountProgram (Except FrameworkError UserAccountLog)}
    (h : Program.Left (tryAppendEvents tenantId userId expectedVersion actorId metadata payloads) own
      (.act (.append key version events) k)) :
    userAccountsStream tenantId userId = some key ∧ events.map (·.payload) = payloads ∧ k = .pure := by
  obtain ⟨stream, hstream, h⟩ := h.skip_ofExcept
  obtain ⟨occurredAt, first, second, rfl, -, h⟩ := h.skip (harmless_call _) id
  obtain ⟨made, third, fourth, rfl, hmade, h⟩ := h.skip (harmless_accountEvents _ _ _ _ _ _) id
  cases h with
  | nothing => exact ⟨requireStream_ok hstream, accountEvents_made hmade, rfl⟩
  | step h => cases h.of_pure.2

/-- The append that records a challenge, and what comes behind it. -/
theorem requestRecovery_sends {state : UserAccountState} {metadata : DocumentData} {expiresInSeconds version : Nat}
    {requested : JsString → Timestamp → UserAccountEventPayload} {failed : UserAccountEventPayload}
    {send : JsString → Timestamp → UserAccountProgram (Except FrameworkError Unit)} {key : StreamName}
    {events : List UserAccountEvent} {k : Except FrameworkError UserAccountLog → UserAccountProgram Bool}
    (hsend : ∀ token expiresAt, (send token expiresAt).Within LogAction.isHarmless)
    (h : Program.Left (requestRecovery platform tenantId userId state metadata expiresInSeconds requested failed send) own
      (.act (.append key version events) k)) (hpayloads : events.map (·.payload) ≠ [failed]) :
    userAccountsStream tenantId userId = some key ∧ ∃ token tokenHash expiresAt,
      (∃ step ∈ own, hashesToken step = some (token, tokenHash)) ∧
      events.map (·.payload) = [requested tokenHash expiresAt] ∧
      ∀ saved, ∃ rest, k (.ok saved) = send token expiresAt >>= rest := by
  obtain ⟨token, own₁, own₂, rfl, -, h⟩ := h.skip (harmless_call _) id
  obtain ⟨now, own₃, own₄, rfl, -, h⟩ := h.skip (harmless_call _) id
  obtain ⟨expiresAt, -, h⟩ := h.skip_ofExcept
  obtain ⟨tokenHash, own₅, own₆, rfl, hhash, h⟩ := h.skip (harmless_hash _) id
  rcases h.bind_act with ⟨k', hfirst, rfl⟩ | ⟨reply, own₇, own₈, rfl, -, h⟩
  · obtain ⟨hstream, hevents, rfl⟩ := tryAppendEvents_appends hfirst
    refine ⟨hstream, token, tokenHash, expiresAt, ?_, hevents, fun saved => ⟨_, rfl⟩⟩
    obtain ⟨step, hstep, hhashes⟩ := hash_made hhash
    exact ⟨step, by simp [hstep], hhashes⟩
  · -- behind the first append there is one only if the token could not be sent
    cases reply with
    | error error =>
      dsimp only at h
      split_ifs at h
      · cases h.of_pure.2
      · cases h.of_throw.2
    | ok saved =>
      obtain ⟨sent, own₉, own₁₀, rfl, -, h⟩ := h.skip (hsend token expiresAt) id
      cases sent with
      | ok _ => cases h.of_pure.2
      | error _ =>
        rcases h.bind_act with ⟨k', hmark, -⟩ | ⟨_, own₁₁, own₁₂, rfl, -, h⟩
        · rcases hmark.bind_act with ⟨k'', hsecond, -⟩ | ⟨reply, own₁₁, own₁₂, rfl, -, hmark⟩
          · exact absurd (tryAppendEvents_appends hsecond).2.1 hpayloads
          · cases reply with
            | ok _ => cases hmark.of_pure.2
            | error error =>
              dsimp only at hmark
              split_ifs at hmark
              · cases hmark.of_pure.2
              · cases hmark.of_throw.2
        · cases h.of_pure.2

/-- **Where a verification is requested**, the token was hashed before, and is sent next, to the address of the
request. -/
theorem requestEmailVerification_sends {command : RecoveryRequestCommand} {key : StreamName} {version : Nat}
    {event : UserAccountEvent} {k : Except FrameworkError UserAccountLog → UserAccountProgram UserAccountResult}
    {email tokenHash : JsString} {expiresAt : Timestamp}
    (h : Program.Left (UserAccountCommand.program platform (.requestEmailVerification command)) own
      (.act (.append key version [event]) k))
    (hpayload : event.payload = .emailVerificationRequested userId email tokenHash expiresAt) :
    ∃ tenantId token, userAccountsStream tenantId userId = some key ∧
      (∃ step ∈ own, hashesToken step = some (token, tokenHash)) ∧
      ∀ saved, ∃ k', k (.ok saved) =
        .act (.other (.sendEmailVerification tenantId userId email token expiresAt)) k' := by
  rcases h.bind_act with ⟨k₁, hrequest, rfl⟩ | ⟨delivered, own₁, own₂, rfl, -, hend⟩
  · obtain ⟨userId', -, hrequest⟩ := hrequest.skip_ofExcept
    obtain ⟨state, own₁, own₂, rfl, -, hrequest⟩ := hrequest.skip (harmless_stateFor _ _) id
    cases hemail : userAccountEmailVerificationDeliveryEmail platform state with
    | none =>
      rw [hemail] at hrequest
      cases hrequest.of_pure.2
    | some address =>
      rw [hemail] at hrequest
      have hpayloads : [event].map (·.payload) ≠ [.emailVerificationDeliveryFailed userId' address] := by
        rw [List.map_singleton, hpayload]
        intro hfailed
        cases hfailed
      obtain ⟨hstream, token, tokenHash', expiresAt', ⟨step, hstep, hhashes⟩, hevents, hnext⟩ :=
        requestRecovery_sends (fun _ _ => harmless_call _) hrequest hpayloads
      rw [List.map_singleton, hpayload] at hevents
      cases hevents
      refine ⟨_, token, hstream, ⟨step, List.mem_append_right _ hstep, hhashes⟩, ?_⟩
      intro saved
      obtain ⟨rest, hrest⟩ := hnext saved
      refine ⟨fun reply => rest reply >>= fun delivered => pure (.delivered delivered), ?_⟩
      show k₁ (.ok saved) >>= (fun delivered => pure (UserAccountResult.delivered delivered)) = _
      rw [hrest]
      rfl
  · cases hend.of_pure.2

end Requests
