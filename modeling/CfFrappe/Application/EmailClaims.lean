import CfFrappe.Application.EmailNotificationService

set_option autoImplicit false

/-! # Claims of e-mail messages

Every message that is handed to the sender belongs to a claim of its own (`EmailStoreOK`), whatever
the workers do: nobody but the worker that drew a claim's id writes or sends in its name. A claim's id
is a token of the discipline; what a worker knows about its own claim lasts while others act.
-/

open Utf EmailNotificationService
open Discipline (wp_bind wp_checked wp_ofExcept wp_throw)

/-! ## The surroundings -/

/-- A message that was handed to the sender, and whether the sender threw. -/
structure EmailSend where
  tenantId : TenantId
  messageId : JsString
  claimId : JsString
  failed : Bool
  deriving DecidableEq

/-- The ids that were drawn, and what was handed to the sender. -/
structure EmailWorld where
  issued : List JsString
  sends : List EmailSend

def EmailWorld.sendsOf (world : EmailWorld) (claimId : JsString) : List EmailSend :=
  world.sends.filter (fun send => send.claimId = claimId)

def sendFailed : Except JsString (Option JsString) → Bool
  | .ok _ => false
  | .error _ => true

/-- Ids are fresh; the rest may be answered in any way. -/
def EmailWorld.exec (w : EmailWorld) : (call : EmailCall) → call.Reply → EmailWorld → Prop
  | .nextId _, id, v => id ∉ w.issued ∧ v = { w with issued := id :: w.issued }
  | .send tenantId messageId claimId _, reply, v =>
    v = { w with sends := w.sends ++ [⟨tenantId, messageId, claimId, sendFailed reply⟩] }
  | .notificationRulesFor .., _, v => v = w
  | .emailForUser .., _, v => v = w
  | .now, _, v => v = w

structure EmailWorld.Le (w v : EmailWorld) : Prop where
  issued : ∀ id ∈ w.issued, id ∈ v.issued
  sends : w.sends <+: v.sends

theorem EmailWorld.exec_le {w v : EmailWorld} {call : EmailCall} {reply : call.Reply} (h : w.exec call reply v) :
    w.Le v := by
  cases call with
  | nextId start =>
    obtain ⟨-, rfl⟩ := h
    exact ⟨fun id hid => List.mem_cons_of_mem _ hid, List.prefix_rfl⟩
  | send tenantId messageId claimId message =>
    cases h
    exact ⟨fun id hid => hid, List.prefix_append _ _⟩
  | notificationRulesFor tenantId doctype occurredAt =>
    cases h
    exact ⟨fun id hid => hid, List.prefix_rfl⟩
  | emailForUser tenantId userId =>
    cases h
    exact ⟨fun id hid => hid, List.prefix_rfl⟩
  | now =>
    cases h
    exact ⟨fun id hid => hid, List.prefix_rfl⟩

/-- The id that a call hands out. -/
def EmailCall.fresh : (call : EmailCall) → call.Reply → JsString → Prop
  | .nextId _, id, i => id = i
  | _, _, _ => False

def emailSurroundings : Surroundings EmailCall EmailCall.Reply EmailWorld JsString where
  exec := EmailWorld.exec
  le := EmailWorld.Le
  le_refl _ := ⟨fun _ hid => hid, List.prefix_rfl⟩
  le_trans h h' := ⟨fun id hid => h'.issued id (h.issued id hid), h.sends.trans h'.sends⟩
  exec_le := EmailWorld.exec_le
  issued w id := id ∈ w.issued
  fresh := EmailCall.fresh
  issued_le h hid := h.issued _ hid
  fresh_new := by
    intro w call reply v id hexec hfresh
    cases call with
    | nextId start =>
      obtain ⟨hnew, rfl⟩ := hexec
      cases hfresh
      exact ⟨hnew, List.mem_cons_self⟩
    | _ => exact hfresh.elim
  keeps claimId w v := v.sendsOf claimId = w.sendsOf claimId
  keeps_refl _ _ := rfl
  keeps_trans h h' := h'.trans h

abbrev EmailStore := LogState StreamName EmailOutboxEvent EmailWorld

/-! ## Claims -/

namespace EmailNotificationEventPayload

/-- The message that a payload is about. -/
def messageId : EmailNotificationEventPayload → JsString
  | .queued message => message.messageId
  | .sent messageId _ _ | .deliveryClaimed messageId _ | .failed messageId _ _ => messageId
  | .skipped record => record.messageId

/-- The claim that a payload speaks for. -/
def claimId? : EmailNotificationEventPayload → Option JsString
  | .sent _ claimId _ | .deliveryClaimed _ claimId | .failed _ claimId _ => some claimId
  | .queued _ | .skipped _ => none

/-- The claim that a payload makes. -/
def newClaim? : EmailNotificationEventPayload → Option JsString
  | .deliveryClaimed _ claimId => some claimId
  | _ => none

/-- A payload that reports the failure of a claim. -/
def failureOf? : EmailNotificationEventPayload → Option JsString
  | .failed _ claimId _ => some claimId
  | _ => none

end EmailNotificationEventPayload

def usesClaim (event : EmailOutboxEvent) (claimId : JsString) : Prop := event.payload.claimId? = some claimId

/-- The claims of a log, one for each event that makes one. -/
def claimsOf (log : EmailOutboxLog) : List JsString := log.filterMap (·.event.payload.newClaim?)

/-- Every send belongs to a claim of its own, and every failure to a send. -/
structure EmailStoreOK (s : EmailStore) : Prop where
  claims : ∀ stream, ∀ e ∈ s.logs stream, ∀ claimId, usesClaim e.event claimId → claimId ∈ s.world.issued
  failures : ∀ stream, ∀ e ∈ s.logs stream, ∀ claimId, e.event.payload.failureOf? = some claimId →
    ∃ send ∈ s.world.sends, send.claimId = claimId ∧ send.failed = true
  claimed : ∀ send ∈ s.world.sends, ∃ stream, emailOutboxStream send.tenantId send.messageId = some stream ∧
    send.claimId ∈ claimsOf (s.logs stream)
  nodup : (s.world.sends.map (·.claimId)).Nodup

/-- What an append of the service is: one event, on the stream of the message that it is about. -/
def EmailCommit (_ : EmailStore) (stream : StreamName) (events : List EmailOutboxEvent) : Prop :=
  ∃ event, events = [event] ∧ emailOutboxStream event.tenantId event.documentName = some stream ∧
    event.payload.messageId = event.documentName

abbrev emailDiscipline :
    Discipline EmailStore (LogAction StreamName EmailOutboxEvent EmailCall)
      (LogAction.Reply FrameworkError EmailCall.Reply) JsString :=
  LogState.discipline FrameworkError emailSurroundings usesClaim EmailStoreOK

abbrev emailWp {α : Type} (own : Set JsString) (p : EmailProgram α) (Q : α → Set JsString → EmailStore → Prop)
    (s : EmailStore) : Prop :=
  emailDiscipline.wp (LogState.guarantee EmailCommit (fun _ _ _ => True)) own p Q s

/-! ## What a worker knows -/

variable {tenantId : TenantId} {messageId claimId : JsString} {stream : StreamName}
variable {payload : EmailNotificationEventPayload} {t : EmailStore} {event : EmailOutboxEvent}

section Rules

variable {own : Set JsString} {s : EmailStore}

/-- The worker has drawn the id of a claim: nobody else uses it. -/
structure Draws (own : Set JsString) (s : EmailStore) (claimId : JsString) : Prop where
  mine : claimId ∈ own
  issued : claimId ∈ s.world.issued

theorem Draws.rely {own' : Set JsString} (h : Draws own s claimId) (hrely : emailDiscipline.Rely own s t)
    (hown : own ⊆ own') : Draws own' t claimId :=
  ⟨hown h.mine, hrely.le.world.issued claimId h.issued⟩

theorem sendsOf_rely (h : Draws own s claimId) (hrely : emailDiscipline.Rely own s t) :
    t.world.sendsOf claimId = s.world.sendsOf claimId :=
  (hrely.keeps claimId h.mine).2

/-- A call that leaves the world as it is. -/
theorem wp_email_call {call : EmailCall} {Q : call.Reply → Set JsString → EmailStore → Prop}
    (hcall : ∀ w reply v, EmailWorld.exec w call reply v → v = w ∧ ∀ id, ¬ call.fresh reply id)
    (h : ∀ reply t, emailDiscipline.Rely own s t → Q reply own t) : emailWp own (LogProgram.other call) Q s := by
  apply LogState.wp_other
  intro s' hrely hinv reply t hlogs hworld
  obtain ⟨hsame, hfresh⟩ := hcall _ _ _ hworld
  have hstate : t = s' := by
    cases s'
    cases t
    cases hlogs
    cases hsame
    rfl
  subst hstate
  have hown : own ∪ {id | emailSurroundings.fresh call reply id} = own := by
    rw [Set.union_eq_left]
    intro id hid
    exact absurd hid (hfresh id)
  rw [hown]
  exact ⟨hinv.2, trivial, fun id _ _ => emailSurroundings.keeps_refl id _, h reply t hrely⟩

theorem wp_email_now {Q : Timestamp → Set JsString → EmailStore → Prop}
    (h : ∀ time t, emailDiscipline.Rely own s t → Q time own t) : emailWp own now Q s :=
  wp_email_call (fun _ _ _ hworld => ⟨hworld, fun _ => id⟩) h

/-- An event that makes a claim speaks for it. -/
theorem usesClaim_of_newClaim (h : event.payload.newClaim? = some claimId) : usesClaim event claimId := by
  unfold usesClaim
  cases hpayload : event.payload with
  | deliveryClaimed messageId id =>
    rw [hpayload] at h
    exact h
  | _ =>
    rw [hpayload] at h
    cases h

/-- The claim of every send has been drawn. -/
theorem EmailStoreOK.issued_of_send (h : EmailStoreOK s) {send : EmailSend} (hsend : send ∈ s.world.sends) :
    send.claimId ∈ s.world.issued := by
  obtain ⟨stream, -, hclaimed⟩ := h.claimed send hsend
  obtain ⟨e, he, hmakes⟩ := List.mem_filterMap.mp hclaimed
  exact h.claims stream e he send.claimId (usesClaim_of_newClaim hmakes)

/-- A fresh id belongs to the worker, and nothing was sent for it. -/
theorem wp_email_nextId {start : JsString} {Q : JsString → Set JsString → EmailStore → Prop}
    (h : ∀ id t, emailDiscipline.Rely own s t → Draws (own ∪ {id}) t id → t.world.sendsOf id = [] →
      Q id (own ∪ {id}) t) : emailWp own (nextId start) Q s := by
  apply LogState.wp_other
  intro s' hrely hinv (id : JsString) t hlogs hworld
  obtain ⟨hnew, hworld⟩ := hworld
  have hissued : ∀ i ∈ s'.world.issued, i ∈ t.world.issued := by
    intro i hi
    rw [hworld]
    exact List.mem_cons_of_mem _ hi
  have hsends : t.world.sends = s'.world.sends := by rw [hworld]
  -- nothing is written, so the store is as good as before
  have hJ : EmailStoreOK t := by
    refine ⟨?_, ?_, ?_, ?_⟩
    · intro stream e he claimId huses
      rw [hlogs] at he
      exact hissued claimId (hinv.2.claims stream e he claimId huses)
    · intro stream e he claimId hfailure
      rw [hlogs] at he
      rw [hsends]
      exact hinv.2.failures stream e he claimId hfailure
    · intro send hsend
      rw [hsends] at hsend
      rw [hlogs]
      exact hinv.2.claimed send hsend
    · rw [hsends]
      exact hinv.2.nodup
  have hown : own ∪ {i | emailSurroundings.fresh (EmailCall.nextId start) id i} = own ∪ {id} := by
    congr 1
    ext i
    exact eq_comm
  rw [hown]
  have hkeeps : ∀ i, emailSurroundings.keeps i s'.world t.world := by
    intro i
    change t.world.sendsOf i = s'.world.sendsOf i
    rw [EmailWorld.sendsOf, EmailWorld.sendsOf, hsends]
  have hstep : emailDiscipline.Rely own s' t := by
    refine ⟨⟨fun stream => by rw [hlogs], ⟨hissued, by rw [hsends]⟩⟩, ?_⟩
    intro i _
    refine ⟨?_, hkeeps i⟩
    intro stream e he _
    rwa [hlogs] at he
  -- a claim that was sent for had been issued
  have hunsent : t.world.sendsOf id = [] := by
    unfold EmailWorld.sendsOf
    rw [hsends, List.filter_eq_nil_iff]
    intro send hsend hmine
    have hclaim : send.claimId = id := of_decide_eq_true hmine
    exact hnew (hclaim ▸ hinv.2.issued_of_send hsend)
  refine ⟨hJ, trivial, fun i _ _ => hkeeps i, h id t (hrely.trans hstep) ⟨Or.inr rfl, ?_⟩ hunsent⟩
  rw [hworld]
  exact List.mem_cons_self

/-! ## Appends -/

theorem claimsOf_append (log log' : EmailOutboxLog) : claimsOf (log ++ log') = claimsOf log ++ claimsOf log' :=
  List.filterMap_append

theorem mem_claimsOf_of_le (h : s.Later emailSurroundings t) (hclaimed : claimId ∈ claimsOf (s.logs stream)) :
    claimId ∈ claimsOf (t.logs stream) := by
  obtain ⟨rest, hrest⟩ := h.logs stream
  rw [← hrest, claimsOf_append]
  exact List.mem_append_left _ hclaimed

/-- An append keeps the invariant, if it speaks for claims that were drawn and reports failures that
happened. -/
theorem EmailStoreOK.push (h : EmailStoreOK s) (stream : StreamName)
    (hclaim : ∀ claimId, usesClaim event claimId → claimId ∈ s.world.issued)
    (hfailure : ∀ claimId, event.payload.failureOf? = some claimId →
      ∃ send ∈ s.world.sends, send.claimId = claimId ∧ send.failed = true) :
    EmailStoreOK (s.push stream [event]) := by
  have hmem : ∀ key, ∀ e ∈ (s.push stream [event]).logs key, e ∈ s.logs key ∨ e.event = event := by
    intro key e he
    rw [LogState.push_logs] at he
    split_ifs at he
    · rcases List.mem_append.mp he with hold | hnew
      · exact Or.inl hold
      · exact Or.inr (List.mem_singleton.mp (mem_recorded hnew))
    · exact Or.inl he
  refine ⟨?_, ?_, ?_, h.nodup⟩
  · intro key e he claimId huses
    rcases hmem key e he with hold | hnew
    · exact h.claims key e hold claimId huses
    · rw [hnew] at huses
      exact hclaim claimId huses
  · intro key e he claimId hfails
    rcases hmem key e he with hold | hnew
    · exact h.failures key e hold claimId hfails
    · rw [hnew] at hfails
      exact hfailure claimId hfails
  · intro send hsend
    obtain ⟨key, hkey, hclaimed⟩ := h.claimed send hsend
    exact ⟨key, hkey, mem_claimsOf_of_le (LogState.Later.push _ _ _) hclaimed⟩

/-- What a worker may append: a payload that speaks for its own claims, and reports failures that
happened. -/
structure MayAppend (own : Set JsString) (s : EmailStore) (payload : EmailNotificationEventPayload) : Prop where
  claim : ∀ claimId, payload.claimId? = some claimId → Draws own s claimId
  failure : ∀ claimId, payload.failureOf? = some claimId →
    ∃ send ∈ s.world.sends, send.claimId = claimId ∧ send.failed = true

theorem MayAppend.rely {own' : Set JsString} (h : MayAppend own s payload) (hrely : emailDiscipline.Rely own s t)
    (hown : own ⊆ own') :
    MayAppend own' t payload := by
  refine ⟨fun claimId hclaim => (h.claim claimId hclaim).rely hrely hown, ?_⟩
  intro claimId hfailure
  obtain ⟨send, hsend, hrest⟩ := h.failure claimId hfailure
  exact ⟨send, hrely.le.world.sends.subset hsend, hrest⟩

theorem wp_email_stream {Q : StreamName → Set JsString → EmailStore → Prop}
    (h : ∀ stream, emailOutboxStream tenantId messageId = some stream → Q stream own s) :
    emailWp own (outboxStream tenantId messageId) Q s := by
  apply wp_ofExcept
  intro stream hstream
  exact h stream (requireStream_ok hstream)

theorem wp_email_state {Q : EmailOutboxState → Set JsString → EmailStore → Prop}
    (h : ∀ state t, emailDiscipline.Rely own s t → Q state own t) : emailWp own (state tenantId messageId) Q s := by
  apply wp_bind
  apply wp_email_stream
  intro stream _
  apply wp_bind
  apply LogState.wp_read
  intro t hrely _
  exact h _ t hrely

theorem wp_outboxEvent {Q : EmailOutboxEvent → Set JsString → EmailStore → Prop}
    (h : ∀ event own' t, own ⊆ own' → emailDiscipline.Rely own s t → event.tenantId = tenantId →
      event.documentName = messageId → event.payload = payload → Q event own' t) :
    emailWp own (outboxEvent tenantId messageId stream payload) Q s := by
  apply wp_bind
  apply wp_email_nextId
  intro id t hrely _ _
  apply wp_bind
  apply wp_email_now
  intro time u hlater
  exact h _ _ u Set.subset_union_left (hrely.trans ⟨hlater.le, fun i hi => hlater.keeps i (Or.inl hi)⟩) rfl rfl rfl

/-- One event of a message is appended, or nothing is. -/
theorem wp_append_event {version : Nat} {Q : Except FrameworkError EmailOutboxLog → Set JsString → EmailStore → Prop}
    (hstream : emailOutboxStream event.tenantId event.documentName = some stream)
    (hmessage : event.payload.messageId = event.documentName) (hmay : MayAppend own s event.payload)
    (herror : ∀ error t, emailDiscipline.Rely own s t → Q (.error error) own t)
    (hsaved : ∀ t, s.Later emailSurroundings t → (∀ i, Draws own s i → t.world.sendsOf i = s.world.sendsOf i) →
      (∀ claimId, event.payload.newClaim? = some claimId → claimId ∈ claimsOf (t.logs stream)) →
      Q (.ok (recorded version [event])) own t) :
    emailWp own (LogProgram.append stream version [event]) Q s := by
  apply LogState.wp_append
  · intro s' error hrely _
    exact herror error s' hrely
  · intro s' hrely hinv _
    have hmay' := hmay.rely hrely Set.Subset.rfl
    refine ⟨hinv.2.push stream (fun claimId huses => (hmay'.claim claimId huses).issued) hmay'.failure,
      ⟨event, rfl, hstream, hmessage⟩, ?_, ?_⟩
    · intro event' hevent' claimId huses _
      obtain rfl := List.mem_singleton.mp hevent'
      exact (hmay.claim claimId huses).mine
    · apply hsaved
      · exact hrely.le.trans (LogState.Later.push _ _ _)
      · intro i hi
        exact (sendsOf_rely hi hrely : s'.world.sendsOf i = _)
      · intro claimId hmakes
        rw [LogState.push_logs_self, claimsOf_append]
        apply List.mem_append_right
        exact List.mem_filterMap.mpr ⟨_, List.mem_cons_self, hmakes⟩

/-! ## Every command -/

/-- What an append of a message may write. -/
theorem wp_tryAppend {Q : Except FrameworkError (Recorded EmailOutboxEvent) → Set JsString → EmailStore → Prop}
    (hmessage : payload.messageId = messageId) (hmay : MayAppend own s payload)
    (herror : ∀ error own' t, Q (.error error) own' t)
    (hsaved : ∀ saved own' t stream, own ⊆ own' → s.Later emailSurroundings t →
      (∀ i, Draws own s i → t.world.sendsOf i = s.world.sendsOf i) →
      emailOutboxStream tenantId messageId = some stream →
      (∀ claimId, payload.newClaim? = some claimId → claimId ∈ claimsOf (t.logs stream)) → Q (.ok saved) own' t) :
    emailWp own (tryAppend tenantId messageId payload) Q s := by
  apply wp_bind
  apply wp_email_stream
  intro stream hstream
  apply wp_bind
  apply wp_email_state
  intro state t hread
  apply wp_bind
  apply wp_outboxEvent
  intro event own' u hown hdrawn htenant hdocument hpayload
  subst htenant hdocument hpayload
  have hbefore := hread.trans hdrawn
  apply wp_bind
  apply wp_append_event hstream hmessage (hmay.rely hbefore hown)
  · intro error v _
    exact herror error own' v
  · intro v hlater hsends hclaims
    refine hsaved _ own' v stream hown (hbefore.le.trans hlater) ?_ hstream hclaims
    intro i hi
    rw [hsends i (hi.rely hbefore hown), sendsOf_rely hi hbefore]

theorem wp_email_append {Q : Recorded EmailOutboxEvent → Set JsString → EmailStore → Prop}
    (hmessage : payload.messageId = messageId) (hplain : payload.claimId? = none) (hfailure : payload.failureOf? = none)
    (h : ∀ saved own' t, Q saved own' t) :
    emailWp own (append tenantId messageId payload) Q s := by
  apply wp_bind
  apply wp_tryAppend hmessage
  · refine ⟨?_, ?_⟩
    · intro claimId hclaim
      cases hplain.symm.trans hclaim
    · intro claimId hclaim
      cases hfailure.symm.trans hclaim
  · intro error own' t
    exact wp_throw
  · intro saved own' t _ _ _ _ _ _
    exact h saved own' t

theorem wp_queueNotification (platform : EmailPlatform) {notification : DocumentEmailNotificationPayload}
    {Q : Option DocumentEmailNotificationQueueResult → Set JsString → EmailStore → Prop} (h : ∀ r own' t, Q r own' t) :
    emailWp own (queueNotification platform tenantId notification) Q s := by
  apply wp_checked
  intro messageId _
  apply wp_bind
  apply wp_email_state
  intro state t _
  split
  · exact h _ _ _
  · apply wp_bind
    apply wp_bind
    apply wp_email_call
    · intro w reply v hworld
      exact ⟨hworld, fun _ => id⟩
    intro found u _
    apply wp_ofExcept
    intro address _
    cases address with
    | none =>
      apply wp_bind
      apply wp_email_append
      · rfl
      · rfl
      · rfl
      · intro saved own' v
        exact h _ _ _
    | some address =>
      apply wp_bind
      apply wp_email_append
      · rfl
      · rfl
      · rfl
      · intro saved own' v
        exact h _ _ _

theorem wp_queueNotifications (platform : EmailPlatform) (notifications : List DocumentEmailNotificationPayload)
    {own : Set JsString} {s : EmailStore}
    {Q : List DocumentEmailNotificationQueueResult → Set JsString → EmailStore → Prop} (h : ∀ r own' t, Q r own' t) :
    emailWp own (queueNotifications platform tenantId notifications) Q s := by
  induction notifications generalizing own s Q with
  | nil => exact h _ _ _
  | cons notification notifications ih =>
    apply wp_bind
    apply wp_queueNotification
    intro result own₁ t
    apply wp_bind
    apply ih
    intro results own₂ u
    exact h _ _ _

theorem wp_notificationRulesFor {event : DomainEvent}
    {Q : List NotificationRuleDefinition → Set JsString → EmailStore → Prop} (h : ∀ rules own' t, Q rules own' t) :
    emailWp own (notificationRulesFor event) Q s := by
  apply wp_bind
  apply wp_email_call
  · intro w reply v hworld
    exact ⟨hworld, fun _ => id⟩
  intro found t _
  apply wp_ofExcept
  intro rules _
  exact h _ _ _

theorem wp_queueFromDomainEvent (platform : EmailPlatform) {event : DomainEvent} {snapshot : Option DocumentSnapshot}
    {Q : List DocumentEmailNotificationQueueResult → Set JsString → EmailStore → Prop} (h : ∀ r own' t, Q r own' t) :
    emailWp own (queueFromDomainEvent platform event snapshot) Q s := by
  apply wp_bind
  apply wp_notificationRulesFor
  intro rules own' t
  exact wp_queueNotifications platform _ h

/-- A completion speaks for the worker's own claim. -/
theorem wp_appendClaimCompletion {Q : Bool → Set JsString → EmailStore → Prop}
    (hmessage : payload.messageId = messageId) (hmay : MayAppend own s payload) (h : ∀ r own' t, Q r own' t) :
    emailWp own (appendClaimCompletion tenantId messageId claimId payload) Q s := by
  apply wp_bind
  apply wp_email_stream
  intro stream hstream
  apply wp_bind
  apply wp_email_state
  intro state t hread
  split
  · split_ifs
    · apply wp_bind
      apply wp_outboxEvent
      intro event own' u hown hdrawn htenant hdocument hpayload
      subst htenant hdocument hpayload
      apply wp_bind
      apply wp_append_event hstream hmessage (hmay.rely (hread.trans hdrawn) hown)
      · intro error v _
        dsimp only
        split_ifs
        · exact h _ _ _
        · exact wp_throw
      · intro v _ _ _
        exact h _ _ _
    · exact h _ _ _
  · exact h _ _ _

/-- The worker sends for a claim of its own that nothing was sent for, so every send still has a
claim of its own. -/
theorem wp_send {message : EmailMessage} {Q : Except JsString (Option JsString) → Set JsString → EmailStore → Prop}
    (hdraws : Draws own s claimId) (hunsent : s.world.sendsOf claimId = [])
    (hstream : emailOutboxStream tenantId messageId = some stream) (hclaimed : claimId ∈ claimsOf (s.logs stream))
    (h : ∀ reply t, Draws own t claimId →
      (∃ send ∈ t.world.sends, send.claimId = claimId ∧ send.failed = sendFailed reply) → Q reply own t) :
    emailWp own (send tenantId messageId claimId message) Q s := by
  apply LogState.wp_other
  intro s' hrely hinv reply t hlogs hworld
  have hsends : t.world.sends = s'.world.sends ++ [⟨tenantId, messageId, claimId, sendFailed reply⟩] := by rw [hworld]
  have hissued : t.world.issued = s'.world.issued := by rw [hworld]
  have hown : own ∪ {i | emailSurroundings.fresh (EmailCall.send tenantId messageId claimId message) reply i} = own := by
    rw [Set.union_eq_left]
    intro i hi
    exact hi.elim
  rw [hown]
  -- nothing was sent for this claim before
  have hnone : claimId ∉ s'.world.sends.map (·.claimId) := by
    intro hmem
    obtain ⟨sent, hsent, hclaim⟩ := List.mem_map.mp hmem
    have hfilter : sent ∈ s'.world.sendsOf claimId := List.mem_filter.mpr ⟨hsent, decide_eq_true hclaim⟩
    rw [sendsOf_rely hdraws hrely, hunsent] at hfilter
    exact absurd hfilter List.not_mem_nil
  refine ⟨⟨?_, ?_, ?_, ?_⟩, trivial, ?_, ?_⟩
  · intro key e he id huses
    rw [hlogs] at he
    rw [hissued]
    exact hinv.2.claims key e he id huses
  · intro key e he id hfailure
    rw [hlogs] at he
    obtain ⟨sent, hsent, hrest⟩ := hinv.2.failures key e he id hfailure
    rw [hsends]
    exact ⟨sent, List.mem_append_left _ hsent, hrest⟩
  · intro sent hsent
    rw [hsends] at hsent
    rw [hlogs]
    rcases List.mem_append.mp hsent with hold | hnew
    · exact hinv.2.claimed sent hold
    · obtain rfl := List.mem_singleton.mp hnew
      exact ⟨stream, hstream, mem_claimsOf_of_le hrely.le hclaimed⟩
  · rw [hsends, List.map_append, List.nodup_append]
    refine ⟨hinv.2.nodup, List.nodup_singleton _, ?_⟩
    intro id hold id' hnew hsame
    obtain rfl := List.mem_singleton.mp hnew
    exact hnone (hsame ▸ hold)
  · -- what was sent for the claims of the others is as before
    intro i _ hi
    change t.world.sendsOf i = s'.world.sendsOf i
    unfold EmailWorld.sendsOf
    have hother : ¬ claimId = i := by
      rintro rfl
      exact hi hdraws.mine
    rw [hsends, List.filter_append]
    simp [hother]
  · apply h reply t
    · exact ⟨hdraws.mine, by rw [hissued]; exact hrely.le.world.issued claimId hdraws.issued⟩
    · rw [hsends]
      exact ⟨_, List.mem_append_right _ List.mem_cons_self, rfl, rfl⟩

theorem wp_sendClaimed {claim : EmailOutboxRecord}
    {Q : Option DocumentEmailNotificationDelivery → Set JsString → EmailStore → Prop} (hdraws : Draws own s claimId)
    (hunsent : s.world.sendsOf claimId = []) (hstream : emailOutboxStream tenantId messageId = some stream)
    (hclaimed : claimId ∈ claimsOf (s.logs stream)) (h : ∀ r own' t, Q r own' t) :
    emailWp own (sendClaimed tenantId messageId claim claimId) Q s := by
  apply wp_bind
  apply wp_send hdraws hunsent hstream hclaimed
  intro reply t hmine hsent
  cases reply with
  | error error =>
    apply wp_bind
    apply wp_appendClaimCompletion
    · rfl
    · refine ⟨?_, ?_⟩
      · intro id hid
        obtain rfl := Option.some.inj hid
        exact hmine
      · intro id hid
        obtain rfl := Option.some.inj hid
        exact hsent
    · intro r own' u
      exact h _ _ _
  | ok providerMessageId =>
    apply wp_bind
    apply wp_appendClaimCompletion
    · rfl
    · refine ⟨?_, ?_⟩
      · intro id hid
        obtain rfl := Option.some.inj hid
        exact hmine
      · intro id hid
        cases hid
    · intro r own' u
      exact h _ _ _

/-- A claim that was written belongs to the worker, and nothing was sent for it. -/
theorem wp_appendClaim {record : EmailOutboxRecord} {Q : Option EmailOutboxRecord → Set JsString → EmailStore → Prop}
    (hnone : ∀ own' t, Q none own' t)
    (hclaim : ∀ claim claimId own' t stream, claim.claimId = some claimId → Draws own' t claimId →
      t.world.sendsOf claimId = [] → emailOutboxStream tenantId messageId = some stream →
      claimId ∈ claimsOf (t.logs stream) → Q (some claim) own' t) :
    emailWp own (appendClaim tenantId messageId record) Q s := by
  apply wp_bind
  apply wp_email_nextId
  intro claimId t _ hdraws hunsent
  apply wp_bind
  apply wp_tryAppend
  · rfl
  · refine ⟨?_, ?_⟩
    · intro id hid
      obtain rfl := Option.some.inj hid
      exact hdraws
    · intro id hid
      cases hid
  · intro error own' u
    unfold claimResult
    dsimp only
    split_ifs
    · exact hnone _ _
    · exact wp_throw
  · intro saved own' u stream hown hlater hsends hstream hclaims
    refine hclaim _ claimId own' u stream rfl ⟨hown hdraws.mine, hlater.world.issued claimId hdraws.issued⟩ ?_ hstream
      (hclaims claimId rfl)
    rw [hsends claimId hdraws, hunsent]

theorem wp_claimOutboxMessage (platform : EmailPlatform) {record : EmailOutboxRecord}
    {Q : Option EmailOutboxRecord → Set JsString → EmailStore → Prop} (hnone : ∀ own' t, Q none own' t)
    (hclaim : ∀ claim claimId own' t stream, claim.claimId = some claimId → Draws own' t claimId →
      t.world.sendsOf claimId = [] → emailOutboxStream tenantId messageId = some stream →
      claimId ∈ claimsOf (t.logs stream) → Q (some claim) own' t) :
    emailWp own (claimOutboxMessage platform tenantId messageId record) Q s := by
  unfold claimOutboxMessage
  split_ifs
  · apply wp_bind
    apply wp_email_now
    intro time t _
    split_ifs
    · exact wp_appendClaim hnone hclaim
    · exact hnone _ _
  · exact wp_appendClaim hnone hclaim

theorem wp_deliverOutboxMessage (platform : EmailPlatform)
    {Q : Option DocumentEmailNotificationDelivery → Set JsString → EmailStore → Prop} (h : ∀ r own' t, Q r own' t) :
    emailWp own (deliverOutboxMessage platform tenantId messageId) Q s := by
  apply wp_bind
  apply wp_email_state
  intro state t _
  split
  · split_ifs
    · exact h _ _ _
    · apply wp_bind
      apply wp_claimOutboxMessage
      · intro own' u
        exact h _ _ _
      · intro claim claimId own' u stream hid hdraws hunsent hstream hclaimed
        unfold deliverClaimed
        dsimp only
        rw [hid]
        exact wp_sendClaimed hdraws hunsent hstream hclaimed h
  · exact h _ _ _

theorem wp_deliverNotifications (platform : EmailPlatform) (notifications : List DocumentEmailNotificationPayload)
    (seen : List JsString) {own : Set JsString} {s : EmailStore}
    {Q : List DocumentEmailNotificationDelivery → Set JsString → EmailStore → Prop} (h : ∀ r own' t, Q r own' t) :
    emailWp own (deliverNotifications platform tenantId seen notifications) Q s := by
  induction notifications generalizing own s Q seen with
  | nil => exact h _ _ _
  | cons notification notifications ih =>
    apply wp_checked
    intro messageId _
    split_ifs
    · exact ih seen h
    · apply wp_bind
      apply wp_deliverOutboxMessage
      intro delivery own₁ t
      apply wp_bind
      apply ih
      intro deliveries own₂ u
      exact h _ _ _

/-- Whatever is asked of the service, every send gets a claim of its own. -/
theorem wp_emailCommand (platform : EmailPlatform) (command : EmailCommand) :
    emailWp own (command.program platform) (fun _ _ _ => True) s := by
  cases command with
  | queueFromDomainEvent event snapshot =>
    apply wp_bind
    apply wp_queueFromDomainEvent
    intro results own₁ t
    trivial
  | deliverOutboxMessage tenantId messageId =>
    apply wp_bind
    apply wp_deliverOutboxMessage
    intro delivery own₁ t
    trivial
  | deliverFromDomainEvent event snapshot =>
    apply wp_bind
    apply wp_bind
    apply wp_queueFromDomainEvent
    intro queued own₁ t
    apply wp_bind
    apply wp_notificationRulesFor
    intro rules own₂ u
    apply wp_bind
    apply wp_deliverNotifications
    intro deliveries own₃ v
    trivial

end Rules
