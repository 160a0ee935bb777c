import CfFrappe.Application.UserNotificationService
import CfFrappe.Lib.Operations

set_option autoImplicit false

/-! # Exactly-once notifications

Any commands on the notifications of users, in any interleaving, with a snapshot store that may lose
anything and return anything old. Recording a notification again would make it unread again, so a command looks
whether the user has it already; and it looks at a state that it may have resumed from an old snapshot. Three facts
make that safe, each of them the reason for the next one:

* A stored state is the fold of a head of its stream (`SnapshotOK`): a command stores only what it has folded itself,
  at the version of that fold.
* What a call of `state` returns is the fold of the whole stream at the moment of its last read, whatever it resumed
  from (`state_seesWhole`).
* An append at the version of such a state finds the stream as it was read, so that what the state does not have is
  not in the stream either, and no notification is recorded twice (`InboxOK.once`).

The exactly-once property of the inbox is then read off the invariant (`inbox_exactly_once`).
-/

open Utf UserNotificationService
open SharedState (wp_action wp_checked wp_later wp_mono wp_ofExcept wp_then wp_throw)

/-! ## What always holds -/

/-- Streams grow. -/
def InboxWorld.Later (w w' : InboxWorld) : Prop := ∀ stream, w.logs stream <+: w'.logs stream

/-- A stored state is the fold of a head of its stream. -/
def SnapshotOK (w : InboxWorld) (snapshot : UserNotificationSnapshot) : Prop :=
  ∃ tenantId userId, userNotificationsStream tenantId userId = some snapshot.stream ∧
    snapshot.uptoSequence ≤ (w.logs snapshot.stream).length ∧
    snapshot.state = UserNotificationsCodec.encode
      (foldUserNotifications tenantId userId ((w.logs snapshot.stream).take snapshot.uptoSequence))

/-- **The invariant**: numbered streams, no notification recorded twice, and stored states that are folds. -/
structure InboxOK (w : InboxWorld) : Prop where
  numbered : ∀ stream, Numbered 0 (w.logs stream)
  once : ∀ stream, RecordedOnce (w.logs stream)
  snapshots : ∀ snapshot ∈ w.snapshots, SnapshotOK w snapshot

section

variable {w w' w'' : InboxWorld}

theorem InboxWorld.Later.refl (w : InboxWorld) : w.Later w := fun _ => List.prefix_rfl

theorem InboxWorld.Later.trans (h : w.Later w') (h' : w'.Later w'') : w.Later w'' :=
  fun stream => (h stream).trans (h' stream)

theorem InboxWorld.push_logs (w : InboxWorld) (stream k : StreamName) (event : UserNotificationEvent) :
    (w.push stream event).logs k =
      if k = stream then w.logs k ++ recorded (w.logs k).length [event] else w.logs k := rfl

@[simp] theorem InboxWorld.push_logs_self (w : InboxWorld) (stream : StreamName) (event : UserNotificationEvent) :
    (w.push stream event).logs stream = w.logs stream ++ recorded (w.logs stream).length [event] := by
  rw [push_logs, if_pos rfl]

theorem InboxWorld.Later.push (w : InboxWorld) (stream : StreamName) (event : UserNotificationEvent) :
    w.Later (w.push stream event) := by
  intro k
  rw [push_logs]
  split_ifs
  · exact List.prefix_append _ _
  · exact List.prefix_rfl

theorem InboxWorld.exec_later {action : InboxAction} {reply : action.Reply} (h : w.exec action reply w') :
    w.Later w' := by
  cases action with
  | readSnapshot stream =>
    obtain ⟨-, rfl⟩ := h
    exact .refl _
  | readStream stream minSequence =>
    obtain ⟨-, rfl⟩ := h
    exact .refl _
  | append stream version event =>
    rcases h with ⟨error, -, rfl⟩ | ⟨-, -, rfl⟩
    · exact .refl _
    · exact .push _ _ _
  | writeSnapshot snapshot =>
    rcases h with ⟨-, rfl⟩ | rfl
    · exact .refl _
    · exact fun _ => List.prefix_rfl
  | notificationRulesFor tenantId doctype occurredAt =>
    obtain rfl := h
    exact .refl _
  | nextId start =>
    obtain rfl := h
    exact .refl _
  | now =>
    obtain rfl := h
    exact .refl _

theorem SnapshotOK.later {snapshot : UserNotificationSnapshot} (h : SnapshotOK w snapshot) (hlater : w.Later w') :
    SnapshotOK w' snapshot := by
  obtain ⟨tenantId, userId, hstream, hlength, hstate⟩ := h
  obtain ⟨rest, hrest⟩ := hlater snapshot.stream
  refine ⟨tenantId, userId, hstream, ?_, ?_⟩
  · rw [← hrest, List.length_append]
    omega
  · rw [← hrest, List.take_append_of_le_length hlength]
    exact hstate

/-- **A stored state may stand for the head of its stream**: with the tail behind it, it folds to what the
whole stream folds to. -/
theorem SnapshotOK.resumes {snapshot : UserNotificationSnapshot} (h : SnapshotOK w snapshot)
    (hnumbered : Numbered 0 (w.logs snapshot.stream)) {tenantId : TenantId} {userId : JsString}
    (hstream : userNotificationsStream tenantId userId = some snapshot.stream) {base : UserNotificationState}
    (hbase : UserNotificationsCodec.decode snapshot.state = some base) :
    foldUserNotificationsFrom (some base) tenantId userId
        ((w.logs snapshot.stream).filter (fun event => decide (snapshot.uptoSequence + 1 ≤ event.sequence))) =
      foldUserNotifications tenantId userId (w.logs snapshot.stream) := by
  obtain ⟨tenantId', userId', hstream', hlength, hstate⟩ := h
  -- the stream says whose it is
  have hsame := StreamRef.documentStream_injective hstream hstream'
  obtain ⟨rfl, -, rfl⟩ : tenantId = tenantId' ∧ _ ∧ userId = userId' := by
    simpa only [Prod.mk.injEq] using hsame
  generalize hlog : w.logs snapshot.stream = log at *
  have hsplit : log.take snapshot.uptoSequence ++ log.drop snapshot.uptoSequence = log := List.take_append_drop _ _
  have hnumbered' := hnumbered
  rw [← hsplit] at hnumbered'
  -- the stored state is the fold of the head
  have hhead : base = foldUserNotifications tenantId userId (log.take snapshot.uptoSequence) := by
    rw [hstate, UserNotificationsCodec.decode_encode, Option.some.injEq] at hbase
    · exact hbase.symm
    · rw [foldUserNotifications_notifications hnumbered'.split.1]
      exact nodup_foldl_userNotifications _ List.nodup_nil
  -- and what is read is the tail
  have htail : log.filter (fun event => decide (snapshot.uptoSequence + 1 ≤ event.sequence)) =
      log.drop snapshot.uptoSequence := by
    have hfilter := hnumbered'.filter_gt
    rw [hsplit, List.length_take, Nat.min_eq_left hlength] at hfilter
    exact hfilter
  rw [htail, hhead]
  unfold foldUserNotifications
  rw [foldUserNotificationsFrom_append hnumbered', hsplit]

/-- Appending keeps the invariant if it does not record a notification again. -/
theorem InboxOK.push (h : InboxOK w) {stream : StreamName} {event : UserNotificationEvent}
    (hnew : ∀ id, recordedId? ⟨(w.logs stream).length + 1, event⟩ = some id → id ∉ recordedIds (w.logs stream)) :
    InboxOK (w.push stream event) := by
  refine ⟨?_, ?_, fun snapshot hsnapshot => (h.snapshots snapshot hsnapshot).later (.push w stream event)⟩
  · intro k
    rw [InboxWorld.push_logs]
    split_ifs with hk
    · apply (h.numbered k).append
      rw [Nat.zero_add]
      exact numbered_recorded _ _
    · exact h.numbered k
  · intro k
    rw [InboxWorld.push_logs]
    split_ifs with hk
    · subst hk
      unfold RecordedOnce
      rw [recordedIds_append, List.nodup_append]
      refine ⟨h.once k, ?_, ?_⟩
      · unfold recordedIds recorded recorded
        rw [List.filterMap_cons]
        split <;> simp
      · rintro id hid id' hid' rfl
        obtain ⟨e, he, hrecorded⟩ := List.mem_filterMap.mp hid'
        rw [List.mem_singleton.mp he] at hrecorded
        exact hnew id hrecorded hid
    · exact h.once k

end

/-! ## The rules -/

/-- What the commands may count on while others act. -/
def inboxShared : SharedState InboxWorld InboxAction InboxAction.Reply where
  exec := InboxWorld.exec
  le := InboxWorld.Later
  le_refl := .refl
  le_trans := .trans
  exec_le := InboxWorld.exec_later
  Inv := InboxOK

abbrev InboxWp {α : Type} (p : InboxProgram α) (Q : α → InboxWorld → Prop) (w : InboxWorld) : Prop :=
  inboxShared.Wp p Q w

namespace InboxWp

/-- What a state says that a command has got hold of: it is the fold of a head of the user's stream. -/
def StateOf (w : InboxWorld) (tenantId : TenantId) (userId : JsString) (state : UserNotificationState) : Prop :=
  ∃ stream log, userNotificationsStream tenantId userId = some stream ∧ log <+: w.logs stream ∧
    Numbered 0 log ∧ state = foldUserNotifications tenantId userId log

/-- What a state says of the moment at which it was read: it is the fold of the whole stream. -/
def SeesWhole (w : InboxWorld) (tenantId : TenantId) (userId : JsString) (state : UserNotificationState) : Prop :=
  ∃ stream, userNotificationsStream tenantId userId = some stream ∧ Numbered 0 (w.logs stream) ∧
    state = foldUserNotifications tenantId userId (w.logs stream)

section Rules

variable {platform : InboxPlatform} {w w' : InboxWorld} {tenantId : TenantId} {userId : JsString}
  {stream : StreamName} {state : UserNotificationState}

theorem SeesWhole.stateOf (h : SeesWhole w tenantId userId state) : StateOf w tenantId userId state := by
  obtain ⟨stream, hstream, hnumbered, hstate⟩ := h
  exact ⟨stream, w.logs stream, hstream, List.prefix_rfl, hnumbered, hstate⟩

theorem StateOf.later (h : StateOf w tenantId userId state) (hlater : w.Later w') : StateOf w' tenantId userId state := by
  obtain ⟨stream, log, hstream, hhead, hnumbered, hstate⟩ := h
  exact ⟨stream, log, hstream, hhead.trans (hlater stream), hnumbered, hstate⟩

theorem StateOf.user (h : StateOf w tenantId userId state) : state.tenantId = tenantId ∧ state.userId = userId := by
  obtain ⟨stream, log, hstream, hhead, hnumbered, rfl⟩ := h
  exact ⟨rfl, rfl⟩

/-- **Optimistic reading**: a stream at the version of a state is what the state was folded from. -/
theorem StateOf.at_version (h : StateOf w tenantId userId state)
    (hstream : userNotificationsStream tenantId userId = some stream)
    (hversion : (w.logs stream).length = state.version) :
    state = foldUserNotifications tenantId userId (w.logs stream) := by
  obtain ⟨stream', log, hstream', hhead, hnumbered, rfl⟩ := h
  rw [hstream, Option.some.injEq] at hstream'
  subst hstream'
  have hsame : log = w.logs stream := by
    apply hhead.eq_of_length
    rw [hversion, foldUserNotifications_version hnumbered]
  rw [hsame]

/-- The rules, the ids and the time may be anything. -/
theorem wp_notificationRulesFor {doctype : DocTypeName} {occurredAt : Timestamp}
    {Q : Except FrameworkError (List NotificationRuleDefinition) → InboxWorld → Prop}
    (h : ∀ w' reply, w.Later w' → Q reply w') :
    InboxWp (InboxAction.notificationRulesFor tenantId doctype occurredAt).perform Q w := by
  apply wp_action
  rintro w' reply w'' hlater hOK rfl
  exact ⟨hOK, trivial, h _ reply hlater⟩

theorem wp_nextId {start : JsString} {Q : JsString → InboxWorld → Prop} (h : ∀ w' id, w.Later w' → Q id w') :
    InboxWp (InboxAction.nextId start).perform Q w := by
  apply wp_action
  rintro w' reply w'' hlater hOK rfl
  exact ⟨hOK, trivial, h _ reply hlater⟩

theorem wp_now {Q : Timestamp → InboxWorld → Prop} (h : ∀ w' now, w.Later w' → Q now w') :
    InboxWp InboxAction.now.perform Q w := by
  apply wp_action
  rintro w' reply w'' hlater hOK rfl
  exact ⟨hOK, trivial, h _ reply hlater⟩

theorem wp_userStream {Q : StreamName → InboxWorld → Prop}
    (h : ∀ stream, userNotificationsStream tenantId userId = some stream → Q stream w) :
    InboxWp (userStream tenantId userId) Q w := by
  apply wp_ofExcept
  intro stream hstream
  exact h stream (requireStream_ok hstream)

/-- The whole stream. -/
theorem wp_whole (hstream : userNotificationsStream tenantId userId = some stream)
    {Q : UserNotificationState → InboxWorld → Prop}
    (h : ∀ w' state, w.Later w' → SeesWhole w' tenantId userId state → Q state w') :
    InboxWp (StreamFoldSnapshots.whole stream tenantId userId) Q w := by
  apply wp_then
  apply wp_action
  intro w' reply w'' hlater hOK hexec
  obtain ⟨hreply, rfl⟩ := hexec
  -- every event is read
  have hall : ((w''.logs stream).filter (fun event => decide (0 ≤ event.sequence))) = w''.logs stream := by
    apply List.filter_eq_self.mpr
    intro event _
    exact decide_eq_true (Nat.zero_le _)
  rw [hall] at hreply
  refine ⟨hOK, trivial, ?_⟩
  apply wp_checked
  intro events hevents
  rcases hreply with ⟨error, rfl⟩ | rfl
  · cases hevents
  · obtain rfl := Except.ok.inj hevents
    exact h w'' _ hlater ⟨stream, hstream, hOK.numbered stream, rfl⟩

/-- A snapshot that is read was written. -/
theorem wp_read {Q : Option (Nat × UserNotificationState) → InboxWorld → Prop}
    (h : ∀ w' base, w.Later w' → (∀ uptoSequence state, base = some (uptoSequence, state) → ∃ snapshot,
      SnapshotOK w' snapshot ∧ snapshot.stream = stream ∧ snapshot.uptoSequence = uptoSequence ∧
        UserNotificationsCodec.decode snapshot.state = some state) → Q base w') :
    InboxWp (StreamFoldSnapshots.read platform stream) Q w := by
  unfold StreamFoldSnapshots.read
  split_ifs with hsnapshots
  · exact h w none (.refl w) (fun _ _ hbase => by cases hbase)
  · apply wp_then
    apply wp_action
    intro w' reply w'' hlater hOK hexec
    obtain ⟨hwritten, rfl⟩ := hexec
    refine ⟨hOK, trivial, ?_⟩
    cases reply with
    | error error => exact h w'' none hlater (fun _ _ hbase => by cases hbase)
    | ok found =>
      cases found with
      | none => exact h w'' none hlater (fun _ _ hbase => by cases hbase)
      | some stored =>
        obtain ⟨hmem, hstored⟩ := hwritten stored rfl
        apply h w'' _ hlater
        intro uptoSequence state hbase
        obtain ⟨state', hdecode, hpair⟩ := Option.map_eq_some_iff.mp hbase
        obtain ⟨hupto, rfl⟩ := Prod.mk.inj hpair
        exact ⟨stored, hOK.snapshots stored hmem, hstored, hupto, hdecode⟩

/-- **Resuming gives the fold of the whole stream**, at the moment of the read. -/
theorem wp_resume (hstream : userNotificationsStream tenantId userId = some stream)
    {Q : UserNotificationState → InboxWorld → Prop}
    (h : ∀ w' state, w.Later w' → SeesWhole w' tenantId userId state → Q state w') :
    InboxWp (StreamFoldSnapshots.resume platform stream tenantId userId) Q w := by
  apply wp_then
  apply wp_read
  intro w₁ base hlater₁ hbase
  cases base with
  | none => exact wp_whole hstream (fun w' state hlater => h w' state (hlater₁.trans hlater))
  | some base =>
    obtain ⟨uptoSequence, base⟩ := base
    obtain ⟨snapshot, hsnapshot, hsame, rfl, hdecode⟩ := hbase _ _ rfl
    apply wp_then
    apply wp_action
    intro w₂ reply w₂' hlater₂ hOK hexec
    obtain ⟨hreply, rfl⟩ := hexec
    subst hsame
    have hwhole := (hsnapshot.later hlater₂).resumes (hOK.numbered snapshot.stream) hstream hdecode
    refine ⟨hOK, trivial, ?_⟩
    rcases hreply with ⟨error, rfl⟩ | rfl
    · -- the tail cannot be read, so everything is
      exact wp_whole hstream (fun w' state hlater => h w' state ((hlater₁.trans hlater₂).trans hlater))
    · apply h _ _ (hlater₁.trans hlater₂)
      exact ⟨snapshot.stream, hstream, hOK.numbered _, hwhole⟩

/-- **What `state` returns** is the fold of the whole stream at the moment of its last read. -/
theorem wp_state_seesWhole :
    InboxWp (UserNotificationService.state platform tenantId userId)
      (fun state w' => SeesWhole w' tenantId userId state) w := by
  apply wp_then
  apply wp_userStream
  intro stream hstream
  exact wp_resume hstream (fun _ _ _ hwhole => hwhole)

theorem wp_state {Q : UserNotificationState → InboxWorld → Prop}
    (h : ∀ w' state, w.Later w' → StateOf w' tenantId userId state → Q state w') :
    InboxWp (UserNotificationService.state platform tenantId userId) Q w := by
  apply wp_mono (wp_later wp_state_seesWhole)
  rintro state w' ⟨hlater, hwhole⟩
  exact h w' state hlater hwhole.stateOf

theorem StateOf.version_eq (h : StateOf w tenantId userId state) :
    ∃ stream, userNotificationsStream tenantId userId = some stream ∧ state.version ≤ (w.logs stream).length ∧
      state = foldUserNotifications tenantId userId ((w.logs stream).take state.version) := by
  obtain ⟨stream, log, hstream, ⟨rest, hrest⟩, hnumbered, rfl⟩ := h
  rw [foldUserNotifications_version hnumbered]
  refine ⟨stream, hstream, ?_, ?_⟩
  · rw [← hrest, List.length_append]
    omega
  · rw [← hrest, List.take_left]

/-- What is stored after an append is a fold of a head of the stream. -/
theorem wp_recordState {saved : UserNotificationLog} (hstate : StateOf w tenantId userId state)
    (hsaved : ∀ last ∈ saved, last.sequence = state.version) {Q : Unit → InboxWorld → Prop}
    (h : ∀ w', w.Later w' → Q () w') : InboxWp (recordState platform state saved) Q w := by
  unfold recordState
  rw [hstate.user.1, hstate.user.2]
  apply wp_then
  apply wp_userStream
  intro stream hstream
  cases hlast : (saved.filter (fun event => event.event.stream = stream)).getLast? with
  | none => exact h w (.refl w)
  | some last =>
    have hversion : last.sequence = state.version :=
      hsaved last (List.mem_of_mem_filter (List.mem_of_getLast? hlast))
    change InboxWp (StreamFoldSnapshots.record platform stream state last.sequence) Q w
    unfold StreamFoldSnapshots.record
    split_ifs
    · exact h w (.refl w)
    · apply wp_then
      apply wp_action
      intro w' reply w'' hlater hOK hexec
      obtain ⟨stream', hstream', hlength, hfold⟩ := (hstate.later hlater).version_eq
      rw [hstream, Option.some.injEq] at hstream'
      subst hstream'
      have hlater'' : w'.Later w'' := inboxShared.exec_le hexec
      -- the snapshot is the fold of the stream up to the version that it names
      refine ⟨?_, trivial, h w'' (hlater.trans hlater'')⟩
      rcases hexec with ⟨-, rfl⟩ | rfl
      · exact hOK
      · refine ⟨hOK.numbered, hOK.once, ?_⟩
        intro snapshot hsnapshot
        rcases List.mem_append.mp hsnapshot with hold | hnew
        · exact (hOK.snapshots snapshot hold).later hlater''
        · rw [List.mem_singleton] at hnew
          subst hnew
          refine ⟨tenantId, userId, hstream, ?_, ?_⟩
          · dsimp only
            rw [hversion]
            exact hlength
          · dsimp only
            rw [hversion, ← hfold]

/-- **An append at the version of a state** finds the stream as the state has it, so what the state does
not have was not recorded. -/
theorem wp_append_event {event : UserNotificationEvent} (hstate : StateOf w tenantId userId state)
    (hstream : userNotificationsStream tenantId userId = some stream)
    (hnew : ∀ payload, event.payload = .recorded payload →
      Record.get state.notifications payload.notificationId = none)
    {Q : Except FrameworkError UserNotificationLog → InboxWorld → Prop}
    (herror : ∀ w' error, w.Later w' → Q (.error error) w')
    (hsaved : ∀ w', w.Later w' →
      StateOf w' tenantId userId
        (foldUserNotificationsFrom (some state) tenantId userId (recorded state.version [event])) →
      (foldUserNotificationsFrom (some state) tenantId userId (recorded state.version [event])).version =
        state.version + 1 → Q (.ok (recorded state.version [event])) w') :
    InboxWp (InboxAction.append stream state.version event).perform Q w := by
  apply wp_action
  intro w' reply w'' hlater hOK hexec
  rcases hexec with ⟨error, rfl, rfl⟩ | ⟨hversion, rfl, rfl⟩
  · exact ⟨hOK, trivial, herror _ error hlater⟩
  · have hnow := (hstate.later hlater).at_version hstream hversion
    have hOK' : InboxOK (w'.push stream event) := by
      apply hOK.push
      intro id hid hmem
      -- what the stream recorded, the state has
      have hhas : (Record.get state.notifications id).isSome = true := by
        rw [hnow, foldUserNotifications_notifications (hOK.numbered stream)]
        exact (isSome_foldl _).mpr (Or.inl hmem)
      unfold recordedId? at hid
      cases hpayload : event.payload with
      | recorded payload =>
        simp only [hpayload, Option.some.injEq] at hid
        subst hid
        rw [hnew payload hpayload] at hhas
        cases hhas
      | read id' => simp [hpayload] at hid
      | dismissed id' => simp [hpayload] at hid
    have hnumbered := hOK'.numbered stream
    have hlog : (w'.push stream event).logs stream = w'.logs stream ++ recorded state.version [event] := by
      rw [InboxWorld.push_logs_self, hversion]
    have hfold : foldUserNotificationsFrom (some state) tenantId userId (recorded state.version [event]) =
        foldUserNotifications tenantId userId ((w'.push stream event).logs stream) := by
      rw [hlog] at hnumbered ⊢
      have happend : foldUserNotificationsFrom
            (some (foldUserNotificationsFrom none tenantId userId (w'.logs stream))) tenantId userId
              (recorded state.version [event]) =
          foldUserNotificationsFrom none tenantId userId (w'.logs stream ++ recorded state.version [event]) :=
        foldUserNotificationsFrom_append hnumbered none
      unfold foldUserNotifications at hnow ⊢
      rw [← hnow] at happend
      exact happend
    refine ⟨hOK', trivial, hsaved _ (hlater.trans (.push _ _ _)) ?_ ?_⟩
    · exact ⟨stream, _, hstream, List.prefix_rfl, hnumbered, hfold⟩
    · rw [hfold, foldUserNotifications_version hnumbered, hlog, List.length_append, hversion]
      rfl

end Rules

/-! ## The commands -/

section Commands

variable {platform : InboxPlatform} {w : InboxWorld}

theorem wp_recordAttempt (notification : DocumentUserNotificationPayload) (notificationId : JsString)
    (occurredAt : Timestamp) (remaining : Nat) {w : InboxWorld} :
    InboxWp (recordAttempt platform notification notificationId occurredAt remaining) (fun _ _ => True) w := by
  induction remaining generalizing w with
  | zero => exact wp_throw
  | succ remaining ih =>
    apply wp_then
    apply wp_state
    intro w₁ state _ hstate
    cases hget : Record.get state.notifications notificationId with
    | some existing => trivial
    | none =>
      apply wp_then
      apply wp_userStream
      intro stream hstream
      apply wp_then
      apply wp_nextId
      intro w₂ id hlater₂
      apply wp_then
      apply wp_append_event (hstate.later hlater₂) hstream
      · intro payload hpayload
        obtain rfl := UserNotificationEventPayload.recorded.inj hpayload
        exact hget
      · -- a conflict is tried again
        intro w₃ error _
        dsimp only
        split_ifs
        · exact ih
        · exact wp_throw
      · intro w₃ _ hstate' hversion
        apply wp_then
        apply wp_recordState hstate'
        · intro last hlast
          rw [List.mem_singleton.mp hlast, hversion]
        · intro w₄ _
          trivial

theorem wp_recordNotification (notification : DocumentUserNotificationPayload) (occurredAt : Timestamp) :
    InboxWp (recordNotification platform notification occurredAt) (fun _ _ => True) w := by
  apply wp_checked
  intro notificationId _
  exact wp_recordAttempt notification notificationId occurredAt _

theorem wp_recordNotifications (occurredAt : Timestamp) (notifications : List DocumentUserNotificationPayload)
    {w : InboxWorld} :
    InboxWp (recordNotifications platform occurredAt notifications) (fun _ _ => True) w := by
  induction notifications generalizing w with
  | nil => trivial
  | cons notification notifications ih =>
    apply wp_then
    apply wp_mono (wp_recordNotification notification occurredAt)
    intro record w' _
    apply wp_then
    exact wp_mono ih (fun _ _ _ => trivial)

theorem wp_recordFromDomainEvent (event : DomainEvent) (snapshot : Option DocumentSnapshot) :
    InboxWp (UserNotificationService.recordFromDomainEvent platform event snapshot) (fun _ _ => True) w := by
  apply wp_then
  have hrecord : ∀ notifications w', InboxWp (recordNotifications platform event.occurredAt notifications)
      (fun _ _ => True) w' := fun notifications w' => wp_recordNotifications event.occurredAt notifications
  unfold notificationsForEvent
  dsimp only
  split_ifs
  · exact hrecord _ _
  · apply wp_then
    apply wp_notificationRulesFor
    intro w' reply _
    apply wp_checked
    intro rules _
    exact hrecord _ _

theorem wp_mark (isMarked : UserNotificationRecord → Bool) {payload : JsString → UserNotificationEventPayload}
    (hpayload : ∀ id notification, payload id ≠ .recorded notification) (actor : Actor) (notificationId : JsString)
    (command : UserNotificationCommand) :
    InboxWp (mark platform isMarked payload actor notificationId command) (fun _ _ => True) w := by
  apply wp_checked
  intro access _
  apply wp_then
  apply wp_state
  intro w₁ state _ hstate
  apply wp_checked
  intro id _
  apply wp_checked
  intro notification _
  split_ifs
  · trivial
  · apply wp_then
    -- a mark is one event, appended at the version that was read
    unfold appendUserNotificationEvent
    rw [hstate.user.1, hstate.user.2]
    apply wp_then
    apply wp_userStream
    intro stream hstream
    apply wp_then
    apply wp_nextId
    intro w₂ eventId hlater₂
    apply wp_then
    apply wp_now
    intro w₃ occurredAt hlater₃
    apply wp_then
    apply wp_append_event ((hstate.later hlater₂).later hlater₃) hstream
    · intro notification' hrecorded
      exact absurd hrecorded (hpayload id notification')
    · intro w₄ error _
      exact wp_throw
    · intro w₄ _ hstate' hversion
      apply wp_recordState hstate'
      · intro last hlast
        rw [List.mem_singleton.mp hlast, hversion]
      · intro w₅ _
        apply wp_then
        apply wp_state
        intro w₆ replayed _ _
        exact wp_ofExcept (fun _ _ => trivial)

/-- **Every command keeps the invariant.** -/
theorem wp_inboxCommand (command : InboxCommand) : InboxWp (command.program platform) (fun _ _ => True) w := by
  cases command with
  | recordFromDomainEvent event snapshot =>
    apply wp_then
    exact wp_mono (wp_recordFromDomainEvent event snapshot) (fun _ _ _ => trivial)
  | markRead actor notificationId command =>
    apply wp_then
    exact wp_mono (wp_mark _ (fun _ _ h => by cases h) actor notificationId command)
      (fun _ _ _ => trivial)
  | dismiss actor notificationId command =>
    apply wp_then
    exact wp_mono (wp_mark _ (fun _ _ h => by cases h) actor notificationId command)
      (fun _ _ _ => trivial)
  | inbox actor query =>
    apply wp_then
    apply wp_checked
    intro access _
    apply wp_then
    apply wp_state
    intro w' state _ _
    apply wp_checked
    intro limit _
    trivial

end Commands

end InboxWp

/-! ## Runs -/

/-- Empty streams, and no snapshots. -/
def emptyInboxWorld : InboxWorld := { logs := fun _ => [], snapshots := [] }

theorem inboxOK_empty : InboxOK emptyInboxWorld :=
  ⟨fun _ => trivial, fun _ => List.nodup_nil, fun _ hsnapshot => absurd hsnapshot List.not_mem_nil⟩

abbrev InboxStep := RunStep InboxCommand InboxWorld InboxAction InboxAction.Reply

abbrev InboxOperation := Operation InboxCommand InboxWorld InboxAction InboxAction.Reply FrameworkError InboxResult

/-- The runs of the inbox: any commands, started at any time, in any interleaving. -/
abbrev InboxRun (platform : InboxPlatform) (operations : List InboxOperation) (w : InboxWorld)
    (steps : List InboxStep) : Prop :=
  Operations InboxWorld.exec (InboxCommand.program platform) (fun _ => True) emptyInboxWorld operations w steps

/-! ### What `state` returns -/

section Calls

variable {platform : InboxPlatform} {tenantId : TenantId} {userId : JsString} {stream : StreamName}
variable {call : List InboxStep} {state : UserNotificationState}

theorem whole_last (h : Program.Left (StreamFoldSnapshots.whole stream tenantId userId) call (.pure state)) :
    ∃ read, call.getLast? = some read ∧ read.action = .readStream stream 0 := by
  obtain ⟨reply, first, second, rfl, hread, hfold⟩ := h.bind_pure
  obtain ⟨command, w, w', rfl⟩ := hread.of_perform
  obtain ⟨events, third, fourth, rfl, hevents, hend⟩ := hfold.bind_pure
  obtain ⟨rfl, -⟩ := hevents.of_ofExcept
  obtain ⟨rfl, -⟩ := hend.of_pure
  exact ⟨_, rfl, rfl⟩

/-- The last step of a call of `state` reads the stream of the user. -/
theorem state_last (h : Program.Left (UserNotificationService.state platform tenantId userId) call (.pure state)) :
    ∃ read stream minSequence, call.getLast? = some read ∧ read.action = .readStream stream minSequence ∧
      userNotificationsStream tenantId userId = some stream := by
  obtain ⟨stream, first, second, rfl, hfirst, hresume⟩ := h.bind_pure
  obtain ⟨rfl, hsome⟩ := hfirst.of_ofExcept
  have hstream : userNotificationsStream tenantId userId = some stream := by
    cases hrequired : requireStream (userNotificationsStream tenantId userId) with
    | error error =>
      rw [hrequired] at hsome
      cases hsome
    | ok found =>
      rw [hrequired] at hsome
      cases hsome
      exact requireStream_ok hrequired
  obtain ⟨base, third, fourth, rfl, -, htail⟩ := hresume.bind_pure
  -- whatever was read from the snapshots, the stream is read last
  have hlast : ∃ read minSequence, fourth.getLast? = some read ∧ read.action = .readStream stream minSequence := by
    cases base with
    | none =>
      obtain ⟨read, hread, haction⟩ := whole_last htail
      exact ⟨read, 0, hread, haction⟩
    | some base =>
      obtain ⟨reply, fifth, sixth, rfl, hread, hfold⟩ := htail.bind_pure
      obtain ⟨command, w, w', rfl⟩ := hread.of_perform
      cases reply with
      | ok events =>
        obtain ⟨rfl, -⟩ := hfold.of_pure
        exact ⟨_, base.1 + 1, rfl, rfl⟩
      | error error =>
        obtain ⟨read, hread, haction⟩ := whole_last hfold
        refine ⟨read, 0, ?_, haction⟩
        rw [List.getLast?_append, hread]
        rfl
  obtain ⟨read, minSequence, hread, haction⟩ := hlast
  refine ⟨read, stream, minSequence, ?_, haction, hstream⟩
  rw [List.nil_append, List.getLast?_append, hread]
  rfl

/-- **The state that an operation sees**: what a call of `state` among its steps has returned is the fold of the whole
stream as its last read finds it. -/
theorem state_seesWhole {operations : List InboxOperation} {w : InboxWorld} {steps : List InboxStep}
    (hrun : InboxRun platform operations w steps) {operation : InboxOperation} (hoperation : operation ∈ operations)
    {front rest : List InboxStep} (hown : operation.own = front ++ call ++ rest)
    (h : Program.Left (UserNotificationService.state platform tenantId userId) call (.pure state)) :
    ∃ read stream minSequence, call.getLast? = some read ∧ read.action = .readStream stream minSequence ∧
      userNotificationsStream tenantId userId = some stream ∧
      state = foldUserNotifications tenantId userId (read.before.logs stream) := by
  obtain ⟨read, stream, minSequence, hlast, haction, hstream⟩ := state_last h
  obtain ⟨stream', hstream', -, hstate⟩ := SharedState.call_result (S := inboxShared) (P := fun _ _ _ => True) hrun
    inboxOK_empty (fun command _ _ _ => InboxWp.wp_inboxCommand command) hoperation hown h hlast
    (fun _ _ => InboxWp.wp_state_seesWhole)
  rw [hstream, Option.some.injEq] at hstream'
  subst hstream'
  -- a read leaves the world as it is
  have hsame : read.after = read.before := by
    have hmem : read ∈ steps := by
      apply (hrun.left operation hoperation).2.subset
      rw [hown]
      exact List.mem_append_left _ (List.mem_append_right _ (List.mem_of_getLast? hlast))
    have hexec := hrun.run.exec_of_mem read hmem
    obtain ⟨command, before, action, reply, after⟩ := read
    dsimp only at haction hexec ⊢
    subst haction
    exact hexec.2
  refine ⟨read, stream, minSequence, hlast, haction, hstream, ?_⟩
  rw [hstate, hsame]

end Calls

/-- The notifications of a user, as the whole stream says. -/
def InboxWorld.notification (w : InboxWorld) (stream : StreamName) (tenantId : TenantId) (userId id : JsString) :
    Option UserNotificationRecord :=
  Record.get (foldUserNotifications tenantId userId (w.logs stream)).notifications id

/-- What is read or dismissed on a stream stays so on every longer one. -/
theorem InboxOK.seen {w w' : InboxWorld} (h : InboxOK w) (h' : InboxOK w') (hlater : w.Later w') {stream : StreamName}
    {tenantId : TenantId} {userId id : JsString} {record : UserNotificationRecord}
    (hget : w.notification stream tenantId userId id = some record) :
    ∃ record', w'.notification stream tenantId userId id = some record' ∧ AtLeastAsSeen record record' := by
  unfold InboxWorld.notification at hget ⊢
  rw [foldUserNotifications_notifications (h.numbered stream)] at hget
  rw [foldUserNotifications_notifications (h'.numbered stream)]
  obtain ⟨tail, htail⟩ := hlater stream
  rw [← htail, List.foldl_append]
  apply seen_foldl tail hget
  -- it was recorded before, so the tail does not record it again
  have hrecorded : id ∈ recordedIds (w.logs stream) := by
    have hhas : id ∈ recordedIds (w.logs stream) ∨ (Record.get [] id).isSome = true :=
      (isSome_foldl (w.logs stream)).mp (by rw [hget]; rfl)
    simpa using hhas
  have honce := h'.once stream
  unfold RecordedOnce at honce
  rw [← htail, recordedIds_append, List.nodup_append] at honce
  intro hagain
  exact honce.2.2 id hrecorded id hagain rfl

/-- **A user's inbox is exactly-once and monotone**, in every run of its commands and for every snapshot
store. Every state that an operation gets from `state`, in whatever stretch of its steps, is the fold of the whole
stream as the last step of the stretch reads it; no notification is recorded twice; what was read or dismissed at some
time stays so; and with event ids that have no colon the identity of a notification says its event, rule and
recipient. -/
theorem inbox_exactly_once {platform : InboxPlatform} {operations : List InboxOperation} {w : InboxWorld}
    {steps : List InboxStep} (hrun : InboxRun platform operations w steps) :
    (∀ operation ∈ operations, ∀ front call rest tenantId userId state, operation.own = front ++ call ++ rest →
      Program.Left (UserNotificationService.state platform tenantId userId) call (.pure state) →
      ∃ read stream minSequence, call.getLast? = some read ∧ read.action = .readStream stream minSequence ∧
        userNotificationsStream tenantId userId = some stream ∧
        state = foldUserNotifications tenantId userId (read.before.logs stream)) ∧
    (∀ stream, RecordedOnce (w.logs stream)) ∧
    (∀ step ∈ steps, ∀ stream tenantId userId id record,
      step.after.notification stream tenantId userId id = some record →
      ∃ record', w.notification stream tenantId userId id = some record' ∧ AtLeastAsSeen record record') ∧
    (∀ notification notification' id, notificationIdentity notification = .ok id →
      notificationIdentity notification' = .ok id → colon ∉ notification.eventId → colon ∉ notification'.eventId →
      notification.eventId = notification'.eventId ∧ notification.ruleName = notification'.ruleName ∧
        notification.recipientId = notification'.recipientId) := by
  obtain ⟨hOK, hsteps⟩ := SharedState.run (S := inboxShared) (Q := fun _ _ _ => True) hrun.run inboxOK_empty
    (fun command _ _ _ => InboxWp.wp_inboxCommand command)
  refine ⟨?_, hOK.once, ?_, ?_⟩
  · intro operation hoperation front call rest tenantId userId state hown hleft
    exact state_seesWhole hrun hoperation hown hleft
  · intro step hstep stream tenantId userId id record hget
    obtain ⟨-, -, hafter, hlater⟩ := hsteps step hstep
    exact hafter.seen hOK hlater hget
  · intro notification notification' id h h' hcolon hcolon'
    exact notificationIdentity_injective h h' hcolon hcolon'

/-! ### A notification that is delivered again -/

namespace InboxWorld

/-- The reply to an action and the world after it, when nothing but a conflict fails. -/
def reply (w : InboxWorld) : (action : InboxAction) → action.Reply × InboxWorld
  | .readSnapshot stream => (.ok (w.snapshots.filter (fun snapshot => snapshot.stream = stream)).getLast?, w)
  | .readStream stream minSequence =>
    (.ok ((w.logs stream).filter (fun event => decide (minSequence ≤ event.sequence))), w)
  | .append stream version event =>
    if (w.logs stream).length = version then (.ok (recorded version [event]), w.push stream event)
    else (.error (.conflict []), w)
  | .writeSnapshot snapshot => (.ok (), { w with snapshots := w.snapshots ++ [snapshot] })
  | .notificationRulesFor _ _ _ => (.ok [], w)
  | .nextId start => (start, w)
  | .now => ([1], w)

theorem exec_reply (w : InboxWorld) (action : InboxAction) : w.exec action (w.reply action).1 (w.reply action).2 := by
  cases action with
  | readSnapshot stream =>
    refine ⟨?_, rfl⟩
    intro snapshot hsnapshot
    have hmem := List.mem_filter.mp (List.mem_of_getLast? (Except.ok.inj hsnapshot))
    exact ⟨hmem.1, of_decide_eq_true hmem.2⟩
  | readStream stream minSequence => exact ⟨Or.inr rfl, rfl⟩
  | append stream version event =>
    rw [reply]
    split_ifs with hversion
    · exact Or.inr ⟨hversion, rfl, rfl⟩
    · exact Or.inl ⟨_, rfl, rfl⟩
  | writeSnapshot snapshot => exact Or.inr rfl
  | notificationRulesFor tenantId doctype occurredAt => exact rfl
  | nextId start => exact rfl
  | now => exact rfl

end InboxWorld

def plainInboxPlatform : InboxPlatform :=
  { canonicalize := id, localeCompare := fun _ _ => .eq, adminRoles := [], snapshots := true, notificationRules := false }

/-- Somebody is assigned to a document. -/
def assignment : DomainEvent :=
  { id := js "e1", tenantId := js "t", stream := [3], type := [4], doctype := [5], documentName := [6], actorId := [7]
    occurredAt := [8], payload := .documentAssigned (js "ann"), metadata := [], sequence := 1 }

/-- The assignment is delivered, its notification is read, and the assignment is delivered again. -/
def redelivery : List InboxCommand :=
  [.recordFromDomainEvent assignment none,
    .markRead { id := js "ann", roles := [], tenantId := some (js "t") } (js "e1:user:ann") {},
    .recordFromDomainEvent assignment none]

def redeliverySteps : List InboxStep :=
  Program.evalAllSteps InboxWorld.reply (InboxCommand.program plainInboxPlatform) redelivery emptyInboxWorld

def redeliveryWorld : InboxWorld :=
  Program.evalAll InboxWorld.reply (InboxCommand.program plainInboxPlatform) redelivery emptyInboxWorld

theorem inbox_exactly_once_redelivered :
    ((redeliveryWorld.logs (js "t:__UserNotifications:ann")).map (fun event => event.event.type) =
      [js "UserNotificationRecorded", js "UserNotificationRead"]) ∧
    (∀ stream, RecordedOnce (redeliveryWorld.logs stream)) ∧
    ∃ operations, InboxRun plainInboxPlatform operations redeliveryWorld redeliverySteps ∧
      ∀ operation ∈ operations, ∀ front call rest tenantId userId state, operation.own = front ++ call ++ rest →
        Program.Left (UserNotificationService.state plainInboxPlatform tenantId userId) call (.pure state) →
        ∃ read stream minSequence, call.getLast? = some read ∧ read.action = .readStream stream minSequence ∧
          userNotificationsStream tenantId userId = some stream ∧
          state = foldUserNotifications tenantId userId (read.before.logs stream) := by
  have hruns : ∃ threads, Run InboxWorld.exec (InboxCommand.program plainInboxPlatform) (fun _ => True)
      emptyInboxWorld threads redeliveryWorld ([] ++ redeliverySteps) :=
    Program.run_evalAll InboxWorld.exec_reply redelivery (fun _ _ => trivial) Run.nil
  obtain ⟨threads, hthreads⟩ := hruns
  obtain ⟨operations, -, hrun⟩ := hthreads.operations
  have hfacts := inbox_exactly_once hrun
  exact ⟨by decide +kernel, hfacts.2.1, operations, hrun, hfacts.1⟩
