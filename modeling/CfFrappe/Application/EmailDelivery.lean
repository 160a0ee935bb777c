import CfFrappe.Application.EmailClaims

set_option autoImplicit false

/-! # Messages are sent once

Every send has a claim of its own, so a message is sent as often as it is claimed. How many claims
it gets is another matter: the read that decides and the read that gives the version are two reads,
so a claim or a message may be written on a state that nobody has decided on. In every run in which
each append still finds the message as its decision needs it (`Undisturbed`), a message has one
claim and is sent once.
-/

open Utf EmailNotificationService

/-! ## The status of a message -/

inductive EmailOutboxStatus
  | queued
  | claimed
  | failed
  | sent
  | skipped
  deriving DecidableEq

def EmailOutboxRecordEntry.status : EmailOutboxRecordEntry → EmailOutboxStatus
  | .skipped _ => .skipped
  | .message record =>
    match record.status with
    | .queued => .queued
    | .claimed => .claimed
    | .failed => .failed
    | .sent => .sent

/-- The folded status of a message. -/
def messageStatus (tenantId : TenantId) (messageId : JsString) (log : EmailOutboxLog) : Option EmailOutboxStatus :=
  (Record.get (foldEmailOutbox tenantId log).messages messageId).map (·.status)

/-- What a payload of a message may do to its status. -/
inductive StatusChange : EmailNotificationEventPayload → Option EmailOutboxStatus → Option EmailOutboxStatus → Prop
  | queued {message status} : StatusChange (.queued message) status (some .queued)
  | skipped {record status} : StatusChange (.skipped record) status (some .skipped)
  | claimed {messageId claimId status} : status ≠ some .sent → status ≠ some .skipped → status ≠ none →
      StatusChange (.deliveryClaimed messageId claimId) status (some .claimed)
  | sent {messageId claimId providerMessageId} :
      StatusChange (.sent messageId claimId providerMessageId) (some .claimed) (some .sent)
  | failed {messageId claimId error} : StatusChange (.failed messageId claimId error) (some .claimed) (some .failed)
  | unclaimed {messageId claimId status} : status = some .sent ∨ status = some .skipped ∨ status = none →
      StatusChange (.deliveryClaimed messageId claimId) status status
  | uncompleted {payload status} : payload.newClaim? = none → payload.claimId?.isSome → StatusChange payload status status

theorem completeClaim_status {messages : EmailOutboxMessages} {messageId claimId : JsString}
    {complete : EmailOutboxRecord → EmailOutboxRecord} :
    Record.get (completeClaim messages messageId claimId complete) messageId = Record.get messages messageId ∨
      ∃ record, Record.get messages messageId = some (.message record) ∧ record.status = .claimed ∧
        Record.get (completeClaim messages messageId claimId complete) messageId = some (.message (complete record)) := by
  unfold completeClaim
  split
  · rename_i record hget
    split_ifs with hclaimed
    · exact Or.inr ⟨record, hget, hclaimed.1, by rw [Record.get_set, if_pos rfl]⟩
    · exact Or.inl rfl
  · exact Or.inl rfl

theorem statusChange_apply (occurredAt : Timestamp) (messages : EmailOutboxMessages)
    (payload : EmailNotificationEventPayload) :
    StatusChange payload ((Record.get messages payload.messageId).map (·.status))
      ((Record.get (applyEmailPayload occurredAt messages payload) payload.messageId).map (·.status)) := by
  -- one case for each payload; a completion counts only for the claim that the record holds
  cases payload with
  | queued message =>
    rw [applyEmailPayload, EmailNotificationEventPayload.messageId, Record.get_set, if_pos rfl]
    exact .queued
  | skipped record =>
    rw [applyEmailPayload, EmailNotificationEventPayload.messageId, Record.get_set, if_pos rfl]
    exact .skipped
  | sent messageId claimId providerMessageId =>
    rw [applyEmailPayload, EmailNotificationEventPayload.messageId]
    rcases completeClaim_status with hsame | ⟨record, hget, hclaimed, hnew⟩
    · rw [hsame]
      exact .uncompleted rfl rfl
    · rw [hnew, hget, Option.map_some, Option.map_some, EmailOutboxRecordEntry.status, hclaimed]
      exact .sent
  | failed messageId claimId error =>
    rw [applyEmailPayload, EmailNotificationEventPayload.messageId]
    rcases completeClaim_status with hsame | ⟨record, hget, hclaimed, hnew⟩
    · rw [hsame]
      exact .uncompleted rfl rfl
    · rw [hnew, hget, Option.map_some, Option.map_some, EmailOutboxRecordEntry.status, hclaimed]
      exact .failed
  | deliveryClaimed messageId claimId =>
    rw [applyEmailPayload, EmailNotificationEventPayload.messageId]
    cases hget : Record.get messages messageId with
    | none =>
      dsimp only
      rw [hget]
      exact .unclaimed (Or.inr (Or.inr rfl))
    | some entry =>
      cases entry with
      | skipped record =>
        dsimp only
        rw [hget]
        exact .unclaimed (Or.inr (Or.inl rfl))
      | message record =>
        dsimp only
        split_ifs with hsent
        · rw [hget, Option.map_some, EmailOutboxRecordEntry.status, hsent]
          exact .unclaimed (Or.inl rfl)
        · rw [Record.get_set, if_pos rfl]
          apply StatusChange.claimed
          · rw [Option.map_some, EmailOutboxRecordEntry.status]
            cases hstatus : record.status with
            | sent => exact absurd hstatus hsent
            | _ => simp
          · rw [Option.map_some, EmailOutboxRecordEntry.status]
            cases record.status <;> simp
          · simp

theorem messageStatus_append (tenantId : TenantId) (log : EmailOutboxLog) (e : Recorded EmailOutboxEvent) :
    StatusChange e.event.payload (messageStatus tenantId e.event.payload.messageId log)
      (messageStatus tenantId e.event.payload.messageId (log ++ [e])) := by
  unfold messageStatus foldEmailOutbox
  rw [List.foldl_append]
  exact statusChange_apply _ _ _

/-! ## Runs -/

abbrev EmailStep :=
  RunStep EmailCommand EmailStore (LogAction StreamName EmailOutboxEvent EmailCall)
    (LogAction.Reply FrameworkError EmailCall.Reply)

def emptyEmailStore : EmailStore := { logs := fun _ => [], world := { issued := [], sends := [] } }

/-- The runs of the service: any commands, started at any time, in any interleaving. -/
abbrev EmailRun (platform : EmailPlatform) :=
  Run (LogState.exec emailSurroundings) (EmailCommand.program platform) (fun _ => True) emptyEmailStore

/-- An append finds the message as it has to be: a claim finds it queued or failed, a message that
is queued finds no record, or one that nobody has claimed, and a message that is skipped has not
been sent. -/
def FindsMessage (status : Option EmailOutboxStatus) : EmailNotificationEventPayload → Prop
  | .deliveryClaimed .. => status = some .queued ∨ status = some .failed
  | .queued _ => status = none ∨ status = some .queued ∨ status = some .failed
  | .skipped _ => status ≠ some .sent
  | .sent .. | .failed .. => True

/-- Nothing has come between the read that a committed append was decided on and the append that
would have changed the decision. -/
def Undisturbed (step : EmailStep) : Prop :=
  ∀ stream event, LogState.committed step = some (stream, [event]) →
    FindsMessage (messageStatus event.tenantId event.documentName (step.before.logs stream)) event.payload

section Runs

variable {platform : EmailPlatform} {tenantId : TenantId} {messageId : JsString} {stream : StreamName}
variable {threads : List (EmailCommand × EmailProgram EmailResult)} {s : EmailStore} {steps : List EmailStep}

theorem emailStoreOK_empty : emailDiscipline.Inv emptyEmailStore := by
  refine ⟨fun _ => trivial, ?_, ?_, ?_, List.nodup_nil⟩
  · intro stream e he
    exact absurd he List.not_mem_nil
  · intro stream e he
    exact absurd he List.not_mem_nil
  · intro send hsend
    exact absurd hsend List.not_mem_nil

theorem EmailRun.sound (hrun : EmailRun platform threads s steps) :
    EmailStoreOK s ∧ ∀ step ∈ steps, EmailStoreOK step.after ∧ step.after.Later emailSurroundings s ∧
      ∀ key events, LogState.committed step = some (key, events) → EmailCommit step.before key events := by
  obtain ⟨pool, -, hsound⟩ := Run.sound (D := emailDiscipline)
    (G := fun _ => LogState.guarantee EmailCommit (fun _ _ _ => True)) (Q := fun _ _ _ _ => True) hrun
    emailStoreOK_empty (fun command s _ _ => wp_emailCommand platform command)
  refine ⟨hsound.inv.2, ?_⟩
  intro step hstep
  obtain ⟨-, -, hafter, hguarantee⟩ := hsound.met step hstep
  refine ⟨hafter.2, hsound.grown step hstep, ?_⟩
  intro key events hcommitted
  exact LogState.guarantee_committed hguarantee hcommitted

/-- The claims of a message and its status: a claim takes the message out of the queue for good. -/
structure ClaimedOnce (tenantId : TenantId) (messageId : JsString) (log : EmailOutboxLog) : Prop where
  claims : (claimsOf log).length ≤ 1
  status : claimsOf log ≠ [] → messageStatus tenantId messageId log = some .claimed ∨
    messageStatus tenantId messageId log = some .sent ∨ messageStatus tenantId messageId log = some .skipped
  failed : messageStatus tenantId messageId log ≠ some .failed

theorem claimsOf_snoc (log : EmailOutboxLog) (e : Recorded EmailOutboxEvent) :
    claimsOf (log ++ [e]) = claimsOf log ++ e.event.payload.newClaim?.toList := by
  rw [claimsOf_append]
  congr 1

theorem ClaimedOnce.snoc {log : EmailOutboxLog} {e : Recorded EmailOutboxEvent} (h : ClaimedOnce tenantId messageId log)
    (hmessage : e.event.payload.messageId = messageId)
    (hfinds : FindsMessage (messageStatus tenantId messageId log) e.event.payload)
    (hfailure : e.event.payload.failureOf? = none) : ClaimedOnce tenantId messageId (log ++ [e]) := by
  have hchange := messageStatus_append tenantId log e
  rw [hmessage] at hchange
  -- a claim that finds the message queued or failed is the first one
  have hfirst : messageStatus tenantId messageId log = none ∨ messageStatus tenantId messageId log = some .queued ∨
      messageStatus tenantId messageId log = some .failed → claimsOf log = [] := by
    intro hstatus
    by_contra hclaims
    rcases h.status hclaims with hclaimed | hsent | hskipped
    · simp [hclaimed] at hstatus
    · simp [hsent] at hstatus
    · simp [hskipped] at hstatus
  have hclaims := claimsOf_snoc log e
  have hsame : e.event.payload.newClaim? = none → claimsOf (log ++ [e]) = claimsOf log := by
    intro hnone
    rw [hclaims, hnone, Option.toList_none, List.append_nil]
  have holdClaims := h.claims
  have holdStatus := h.status
  have holdFailed := h.failed
  generalize messageStatus tenantId messageId log = status at hchange hfinds hfirst holdStatus holdFailed
  generalize hnext : messageStatus tenantId messageId (log ++ [e]) = next at hchange
  generalize e.event.payload = payload at hchange hfinds hclaims hsame hfailure
  cases hchange with
  | queued =>
    have hempty := (hsame rfl).trans (hfirst hfinds)
    exact ⟨by simp [hempty], fun hne => absurd hempty hne, by simp [hnext]⟩
  | skipped =>
    exact ⟨by rw [hsame rfl]; exact holdClaims, fun _ => Or.inr (Or.inr hnext), by simp [hnext]⟩
  | claimed hsent hskipped hnone =>
    rw [hfirst (Or.inr hfinds)] at hclaims
    refine ⟨?_, fun _ => Or.inl hnext, by simp [hnext]⟩
    rw [hclaims]
    exact le_refl 1
  | sent =>
    exact ⟨by rw [hsame rfl]; exact holdClaims, fun _ => Or.inr (Or.inl hnext), by simp [hnext]⟩
  | failed => cases hfailure
  | unclaimed hstatus =>
    rcases hfinds with rfl | rfl
    · simp at hstatus
    · simp at hstatus
  | uncompleted hmakes _ =>
    refine ⟨by rw [hsame hmakes]; exact holdClaims, ?_, by rw [hnext]; exact holdFailed⟩
    intro hne
    rw [hnext]
    rw [hsame hmakes] at hne
    exact holdStatus hne

/-- A message that is sent or skipped stays so, if appends find it as they have to. -/
theorem messageStatus_final {log : EmailOutboxLog} {e : Recorded EmailOutboxEvent} {status : EmailOutboxStatus}
    (hmessage : e.event.payload.messageId = messageId)
    (hfinds : FindsMessage (messageStatus tenantId messageId log) e.event.payload)
    (hfinal : status = .sent ∨ status = .skipped) (hstatus : messageStatus tenantId messageId log = some status) :
    messageStatus tenantId messageId (log ++ [e]) = some status := by
  have hchange := messageStatus_append tenantId log e
  rw [hmessage, hstatus] at hchange
  rw [hstatus] at hfinds
  generalize messageStatus tenantId messageId (log ++ [e]) = next at hchange
  generalize e.event.payload = payload at hchange hfinds
  cases hchange with
  | queued =>
    rcases hfinal with rfl | rfl
    · simp [FindsMessage] at hfinds
    · simp [FindsMessage] at hfinds
  | skipped =>
    rcases hfinal with rfl | rfl
    · simp [FindsMessage] at hfinds
    · rfl
  | claimed hsent hskipped _ =>
    rcases hfinal with rfl | rfl
    · exact absurd rfl hsent
    · exact absurd rfl hskipped
  | sent => simp at hfinal
  | failed => simp at hfinal
  | unclaimed _ => rfl
  | uncompleted _ _ => rfl

/-- What a run of undisturbed steps leaves of a message. -/
theorem EmailRun.claimedOnce (hrun : EmailRun platform threads s steps)
    (hstream : emailOutboxStream tenantId messageId = some stream) (hsteps : ∀ step ∈ steps, Undisturbed step)
    (hsent : ∀ send ∈ s.world.sends, send.failed = false) :
    ClaimedOnce tenantId messageId (s.logs stream) ∧
      ∀ step ∈ steps, ∀ status, status = EmailOutboxStatus.sent ∨ status = .skipped →
        messageStatus tenantId messageId (step.after.logs stream) = some status →
        messageStatus tenantId messageId (s.logs stream) = some status := by
  induction hrun with
  | nil =>
    refine ⟨⟨Nat.zero_le 1, fun hne => absurd rfl hne, nofun⟩, ?_⟩
    intro step hstep
    exact absurd hstep List.not_mem_nil
  | spawn command hrun hadmitted ih => exact ih hsteps hsent
  | @act others others' s steps command action k reply t hrun hexec ih =>
    have hnext := hrun.act hexec
    have hlast : (⟨command, s, action, reply, t⟩ : EmailStep) ∈ steps ++ [⟨command, s, action, reply, t⟩] :=
      List.mem_append_right _ List.mem_cons_self
    obtain ⟨honce, hfinal⟩ := ih (fun step hstep => hsteps step (List.mem_append_left _ hstep))
      (fun send hsend => hsent send ((LogState.exec_later hexec).world.sends.subset hsend))
    -- the last step keeps what is final, and the steps before have kept it up to here
    have hcarry : (∀ status, status = EmailOutboxStatus.sent ∨ status = .skipped →
          messageStatus tenantId messageId (s.logs stream) = some status →
          messageStatus tenantId messageId (t.logs stream) = some status) →
        ∀ step ∈ steps ++ [⟨command, s, action, reply, t⟩], ∀ status,
          status = EmailOutboxStatus.sent ∨ status = .skipped →
          messageStatus tenantId messageId (step.after.logs stream) = some status →
          messageStatus tenantId messageId (t.logs stream) = some status := by
      intro hkeep step hstep status hstatus hat
      rcases List.mem_append.mp hstep with hold | hnew
      · exact hkeep status hstatus (hfinal step hold status hstatus hat)
      · obtain rfl := List.mem_singleton.mp hnew
        exact hat
    rcases LogState.logs_of_committed (l := command) hexec with ⟨key, events, hcommitted, rfl⟩ | ⟨-, hlogs⟩
    · by_cases hkey : stream = key
      · subst hkey
        obtain ⟨hok, hall⟩ := EmailRun.sound hnext
        obtain ⟨event, rfl, hevent, hmessage⟩ := (hall _ hlast).2.2 stream events hcommitted
        have hfinds := hsteps _ hlast stream event hcommitted
        obtain ⟨rfl, -, rfl⟩ := StreamRef.documentStream_injective hstream hevent
        have hlog : (s.push stream [event]).logs stream =
            s.logs stream ++ [⟨(s.logs stream).length + 1, event⟩] := LogState.push_logs_self _ _ _
        have hfailure : event.payload.failureOf? = none := by
          by_contra hsome
          obtain ⟨claimId, hclaim⟩ := Option.ne_none_iff_exists'.mp hsome
          have hin : (⟨(s.logs stream).length + 1, event⟩ : Recorded EmailOutboxEvent) ∈
              (s.push stream [event]).logs stream := by
            rw [hlog]
            exact List.mem_append_right _ List.mem_cons_self
          obtain ⟨send, hsend, -, hfailed⟩ := hok.failures stream _ hin claimId hclaim
          exact absurd (hfailed.symm.trans (hsent send hsend)) (by decide)
        refine ⟨?_, hcarry ?_⟩
        · rw [hlog]
          exact honce.snoc hmessage hfinds hfailure
        · intro status hstatus hat
          rw [hlog]
          exact messageStatus_final hmessage hfinds hstatus hat
      · rw [LogState.push_logs_of_ne s events hkey] at hcarry ⊢
        exact ⟨honce, hcarry (fun status _ hat => hat)⟩
    · rw [hlogs] at hcarry ⊢
      exact ⟨honce, hcarry (fun status _ hat => hat)⟩

/-- What was handed to the sender for a message. -/
def sendsFor (tenantId : TenantId) (messageId : JsString) (world : EmailWorld) : List EmailSend :=
  world.sends.filter (fun send => send.tenantId = tenantId ∧ send.messageId = messageId)

/-- Every send of a message has a claim of its own among the claims of its stream. -/
theorem sendsFor_le_claims (h : EmailStoreOK s) (hstream : emailOutboxStream tenantId messageId = some stream) :
    (sendsFor tenantId messageId s.world).length ≤ (claimsOf (s.logs stream)).length := by
  have hnodup : ((sendsFor tenantId messageId s.world).map (·.claimId)).Nodup :=
    h.nodup.sublist (List.filter_sublist.map _)
  have hsubset : (sendsFor tenantId messageId s.world).map (·.claimId) ⊆ claimsOf (s.logs stream) := by
    intro claimId hmem
    obtain ⟨send, hsend, rfl⟩ := List.mem_map.mp hmem
    obtain ⟨hin, hmessage⟩ := List.mem_filter.mp hsend
    obtain ⟨rfl, rfl⟩ := of_decide_eq_true hmessage
    obtain ⟨key, hkey, hclaimed⟩ := h.claimed send hin
    obtain rfl := Option.some.inj (hstream.symm.trans hkey)
    exact hclaimed
  calc (sendsFor tenantId messageId s.world).length
      = ((sendsFor tenantId messageId s.world).map (·.claimId)).length := (List.length_map _).symm
    _ ≤ (claimsOf (s.logs stream)).length := (hnodup.subperm hsubset).length_le

/-- **A message is sent once.** In every run of undisturbed steps in which the sender never throws, a
message is handed to the sender at most once, and once it is sent or skipped it stays so. -/
theorem sent_at_most_once (hrun : EmailRun platform threads s steps)
    (hstream : emailOutboxStream tenantId messageId = some stream) (hsteps : ∀ step ∈ steps, Undisturbed step)
    (hsent : ∀ send ∈ s.world.sends, send.failed = false) :
    (sendsFor tenantId messageId s.world).length ≤ 1 ∧
      ∀ step ∈ steps, ∀ status, status = EmailOutboxStatus.sent ∨ status = .skipped →
        messageStatus tenantId messageId (step.after.logs stream) = some status →
        messageStatus tenantId messageId (s.logs stream) = some status := by
  obtain ⟨honce, hfinal⟩ := EmailRun.claimedOnce hrun hstream hsteps hsent
  exact ⟨(sendsFor_le_claims (EmailRun.sound hrun).1 hstream).trans honce.claims, hfinal⟩

end Runs

/-! ## One worker, and two that race -/

def plainEmailPlatform : EmailPlatform :=
  { canonicalize := id
    dateParse := fun _ => some 0
    «from» := { email := js "noreply@example.com" }
    claimTimeoutMs := 300000 }

/-- In this deployment no claim becomes old. -/
theorem plainEmailPlatform_not_stale (record : EmailOutboxRecord) (time : Timestamp) :
    isStaleEmailClaim plainEmailPlatform record time = false := by
  unfold isStaleEmailClaim
  cases record.claimedAt with
  | none => rfl
  | some claimedAt => rfl

/-- An id that is longer than all that were drawn. -/
def longerId (issued : List JsString) : JsString := List.replicate ((issued.map List.length).foldr max 0 + 1) 0x61

theorem longerId_fresh (issued : List JsString) : longerId issued ∉ issued := by
  have hbound : ∀ (ids : List JsString), ∀ id ∈ ids, id.length ≤ (ids.map List.length).foldr max 0 := by
    intro ids
    induction ids with
    | nil =>
      intro id hid
      exact absurd hid List.not_mem_nil
    | cons first ids ih =>
      intro id hid
      rw [List.map_cons, List.foldr_cons]
      rcases List.mem_cons.mp hid with rfl | hid
      · exact le_max_left _ _
      · exact (ih id hid).trans (le_max_right _ _)
  intro hmem
  have hle := hbound issued _ hmem
  rw [longerId, List.length_replicate] at hle
  omega

def noticeRule : NotificationRuleDefinition :=
  { name := js "notice", events := [js "DocumentCreated"], recipients := [.user (js "bob")], channels := some [.email] }

def answerEmailCall (w : EmailWorld) : (call : EmailCall) → call.Reply × EmailWorld
  | .notificationRulesFor .. => (.ok [noticeRule], w)
  | .emailForUser .. => (.ok (some { email := js "bob@example.com" }), w)
  | .nextId _ => (longerId w.issued, { w with issued := longerId w.issued :: w.issued })
  | .now => (js "2024-01-01T00:00:00.000Z", w)
  | .send tenantId messageId claimId _ =>
    (.ok none, { w with sends := w.sends ++ [⟨tenantId, messageId, claimId, false⟩] })

theorem exec_answerEmailCall (w : EmailWorld) (call : EmailCall) :
    w.exec call (answerEmailCall w call).1 (answerEmailCall w call).2 := by
  cases call with
  | nextId start => exact ⟨longerId_fresh w.issued, rfl⟩
  | _ => rfl

def emailReply (s : EmailStore) (action : LogAction StreamName EmailOutboxEvent EmailCall) :
    action.Reply FrameworkError EmailCall.Reply × EmailStore :=
  s.reply (.conflict []) answerEmailCall action

theorem exec_emailReply (s : EmailStore) (action : LogAction StreamName EmailOutboxEvent EmailCall) :
    s.exec emailSurroundings action (emailReply s action).1 (emailReply s action).2 :=
  LogState.exec_reply exec_answerEmailCall s action

def noticedEvent : DomainEvent :=
  { id := js "e", tenantId := js "acme", stream := js "acme:Note:n", type := js "NoteCreated", doctype := js "Note"
    documentName := js "n", actorId := js "ada", occurredAt := js "2024-01-01T00:00:00.000Z"
    payload := .documentCreated [] .draft, metadata := [], sequence := 1 }

def noticedSnapshot : DocumentSnapshot :=
  { tenantId := js "acme", doctype := js "Note", name := js "n", version := 1, docstatus := .draft, data := []
    createdAt := js "2024-01-01T00:00:00.000Z", updatedAt := js "2024-01-01T00:00:00.000Z" }

def noticeId : JsString := js "e:rule:notice:email:bob"

/-- The message is queued, and two workers deliver it. -/
def raceCommands : List EmailCommand :=
  [.queueFromDomainEvent noticedEvent (some noticedSnapshot), .deliverOutboxMessage (js "acme") noticeId,
   .deliverOutboxMessage (js "acme") noticeId]

/-- The programs take turns as the schedule says. -/
def raceOf (turns : List Nat) : List (EmailCommand × EmailProgram EmailResult) × EmailStore × List EmailStep :=
  Program.schedule emailReply (raceCommands.map (fun command => (command, command.program plainEmailPlatform)))
    emptyEmailStore turns

/-- One worker after the other. -/
def inTurn : List Nat := List.replicate 20 0 ++ List.replicate 20 1 ++ List.replicate 20 2

/-- Both workers read the queued message before one of them claims it. -/
def racing : List Nat := List.replicate 20 0 ++ [1, 2] ++ List.replicate 20 1 ++ List.replicate 20 2

theorem run_raceOf (turns : List Nat) :
    EmailRun plainEmailPlatform (raceOf turns).1 (raceOf turns).2.1 (raceOf turns).2.2 := by
  have hstart : EmailRun plainEmailPlatform [] emptyEmailStore [] := Run.nil
  exact Program.run_schedule exec_emailReply turns (Program.run_spawnAll raceCommands (fun _ _ => trivial) hstart)

instance (status : Option EmailOutboxStatus) (payload : EmailNotificationEventPayload) :
    Decidable (FindsMessage status payload) :=
  match payload with
  | .deliveryClaimed .. => inferInstanceAs (Decidable (status = some .queued ∨ status = some .failed))
  | .queued _ => inferInstanceAs (Decidable (status = none ∨ status = some .queued ∨ status = some .failed))
  | .skipped _ => inferInstanceAs (Decidable (status ≠ some .sent))
  | .sent .. => inferInstanceAs (Decidable True)
  | .failed .. => inferInstanceAs (Decidable True)

def isUndisturbed (step : EmailStep) : Bool :=
  (LogState.committed step).all (fun committed =>
    committed.2.all (fun event =>
      decide (FindsMessage (messageStatus event.tenantId event.documentName (step.before.logs committed.1))
        event.payload)))

theorem undisturbed_of_isUndisturbed {step : EmailStep} (h : isUndisturbed step = true) : Undisturbed step := by
  intro stream event hcommitted
  unfold isUndisturbed at h
  rw [hcommitted, Option.all_some, List.all_cons, Bool.and_eq_true] at h
  exact of_decide_eq_true h.1

theorem sent_at_most_once_in_turn :
    ∃ threads s steps stream, EmailRun plainEmailPlatform threads s steps ∧
      emailOutboxStream (js "acme") noticeId = some stream ∧ (∀ step ∈ steps, Undisturbed step) ∧
      (∀ send ∈ s.world.sends, send.failed = false) ∧ s.world.sends ≠ [] ∧
      (sendsFor (js "acme") noticeId s.world).length ≤ 1 := by
  have hstream : ∃ stream, emailOutboxStream (js "acme") noticeId = some stream := ⟨_, rfl⟩
  obtain ⟨stream, hstream⟩ := hstream
  have hall : (raceOf inTurn).2.2.all isUndisturbed = true := by decide +kernel
  have hsteps : ∀ step ∈ (raceOf inTurn).2.2, Undisturbed step := by
    intro step hstep
    exact undisturbed_of_isUndisturbed (List.all_eq_true.mp hall step hstep)
  have hsent : ∀ send ∈ (raceOf inTurn).2.1.world.sends, send.failed = false := by decide +kernel
  have hsome : (raceOf inTurn).2.1.world.sends ≠ [] := by decide +kernel
  exact ⟨_, _, _, stream, run_raceOf inTurn, hstream, hsteps, hsent, hsome,
    (sent_at_most_once (run_raceOf inTurn) hstream hsteps hsent).1⟩

/-- Two workers that read the queued message before one of them claims it both send it, although no
claim is old and the sender never throws. -/
theorem raced_message_sent_twice :
    ∃ threads s steps, EmailRun plainEmailPlatform threads s steps ∧
      (∀ record time, isStaleEmailClaim plainEmailPlatform record time = false) ∧
      (∀ send ∈ s.world.sends, send.failed = false) ∧
      ¬ (sendsFor (js "acme") noticeId s.world).length ≤ 1 := by
  have hsent : ∀ send ∈ (raceOf racing).2.1.world.sends, send.failed = false := by decide +kernel
  have htwice : (sendsFor (js "acme") noticeId (raceOf racing).2.1.world).length = 2 := by decide +kernel
  refine ⟨_, _, _, run_raceOf racing, plainEmailPlatform_not_stale, hsent, ?_⟩
  rw [htwice]
  decide
