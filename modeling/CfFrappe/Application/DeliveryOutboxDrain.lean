import CfFrappe.Application.DeliveryOutboxAlone
import CfFrappe.Application.DeliveryOutboxConsumer
import CfFrappe.Application.DeliveryOutboxSafety

set_option autoImplicit false

/-! # What a drain leaves behind

A claim has no lease: a record that a drain has claimed and neither delivers nor fails is picked up by no later
drain. `drain_strands_none_iff` says when a drain that runs alone settles every record that it has claimed: its claim
id is not blank, and every delivery that fails comes with a text that is not blank and with a time for the next
attempt. At the first record for which this is not so the drain throws, and this record and all that come after it
stay claimed.
-/

open Utf DocumentDeliveryOutboxService
open Program (eval_bind_error eval_bind_ok eval_ofExcept)

/-- The record is delivered, or a later drain can go on with it. -/
def Settled (tenantId : TenantId) (log : OutboxLog) (x : JsString) : Prop :=
  ∃ r, foldDocumentDeliveryOutboxRecord tenantId x log = some r ∧
    (r.status = .delivered ∨ r.status = .failed ∧ r.retryAt.isSome = true)

/-- Of the records that were claimed between two stores, none is left claimed. -/
def StrandsNone {W : Type} (tenantId : TenantId) (s t : SoloStore W) : Prop :=
  ∀ stream, documentDeliveryOutboxStream tenantId = some stream →
    ∀ x ∈ claimedIds ((t.logs stream).drop (s.logs stream).length), Settled tenantId (t.logs stream) x

theorem HeldRecord.not_settled {tenantId : TenantId} {log : OutboxLog} {claimId : JsString} {r : DocumentDeliveryOutboxRecord}
    (h : HeldRecord tenantId log claimId r) : ¬ Settled tenantId log r.id := by
  rintro ⟨r', hr', hstatus⟩
  obtain rfl : r' = r := Option.some.inj (hr'.symm.trans h.fold)
  rw [h.status] at hstatus
  rcases hstatus with hstatus | ⟨hstatus, -⟩ <;> cases hstatus

namespace DocumentDeliveryOutboxConsumer

/-! ## When a record can be settled -/

/-- The text that a result is a failure with. -/
def resultText : DeliveryResult → Option (Except FrameworkError JsString)
  | .returned _ => none
  | .threw error => some (documentDeliveryOutboxErrorMessage error)

/-- The text that the delivery fails with, if it fails. -/
def failureText (consumer : DocumentDeliveryOutboxConsumer) (record : DocumentDeliveryOutboxRecord) :
    Option (Except FrameworkError JsString) :=
  match consumer.deliveries record.target with
  | none => some (.ok (missingHandler record.target))
  | some handler => resultText (handler record)

/-- A failure can be recorded: its text is not blank, and the next attempt has a time. -/
def recordable (addSeconds : Timestamp → Nat → Option Timestamp) (consumer : DocumentDeliveryOutboxConsumer)
    (record : DocumentDeliveryOutboxRecord) (now : Timestamp) : Except FrameworkError JsString → Bool
  | .ok text => !(Json.trim text).isEmpty &&
      (addSeconds now (documentDeliveryOutboxRetryDelay record.attempts consumer.retryBaseDelaySeconds
        consumer.retryMaxDelaySeconds)).isSome
  | .error _ => false

/-- The claim id is not blank, and if the delivery fails then that can be recorded. -/
def canSettle (addSeconds : Timestamp → Nat → Option Timestamp) (consumer : DocumentDeliveryOutboxConsumer)
    (claimId : JsString) (now : Timestamp) (record : DocumentDeliveryOutboxRecord) : Bool :=
  !(Json.trim claimId).isEmpty && (consumer.failureText record).all (recordable addSeconds consumer record now)

section Delivering

variable {W : Type} (answer : W → (x : OutboxCall) → x.Reply × W) {s : SoloStore W} {tenantId : TenantId}
variable {stream : StreamName} (addSeconds : Timestamp → Nat → Option Timestamp)
variable (consumer : DocumentDeliveryOutboxConsumer) {claimId : JsString} {record : DocumentDeliveryOutboxRecord}
variable (now : Timestamp)

/-- A failure that can be recorded settles the record; one that cannot be recorded throws. -/
theorem eval_fail (h : OutboxLogOK tenantId (s.logs stream))
    (hstream : documentDeliveryOutboxStream tenantId = some stream) (hheld : HeldRecord tenantId (s.logs stream) claimId record)
    (text : JsString) :
    (recordable addSeconds consumer record now (.ok text) = true ∧
      ∃ outcome t, (fail addSeconds consumer record claimId now text).eval (outboxAlone answer) s = (.ok outcome, t) ∧
        Advances tenantId stream record.id s t ∧ Settled tenantId (t.logs stream) record.id) ∨
      (recordable addSeconds consumer record now (.ok text) = false ∧
        ∃ error, (fail addSeconds consumer record claimId now text).eval (outboxAlone answer) s = (.error error, s)) := by
  have htenant : record.tenantId = tenantId := tenantId_of_foldRecord hheld.fold
  subst htenant
  rw [recordable]
  unfold fail documentDeliveryOutboxRetryAt laterTimestamp
  cases hretry : addSeconds now (documentDeliveryOutboxRetryDelay record.attempts consumer.retryBaseDelaySeconds
      consumer.retryMaxDelaySeconds) with
  | none =>
    refine Or.inr ⟨by rw [Option.isSome_none, Bool.and_false], .ofError (js "Invalid time value"), ?_⟩
    rw [eval_bind_error (eval_ofExcept _ _)]
  | some retryAt =>
    rw [eval_bind_ok (eval_ofExcept _ _), Option.isSome_some, Bool.and_true]
    by_cases hblank : (Json.trim text).isEmpty = true
    · refine Or.inr ⟨by rw [hblank]; rfl, ?_⟩
      have herror : documentDeliveryOutboxFailureError text =
          .error (.ofBadRequest (js "Delivery failure error is required")) := if_pos hblank
      unfold markFailed
      rw [eval_bind_error (eval_bind_error (by rw [eval_ofExcept, herror]))]
      exact ⟨_, rfl⟩
    · refine Or.inl ⟨by simpa using hblank, ?_⟩
      have herror : documentDeliveryOutboxFailureError text = .ok (Json.trim text) := if_neg hblank
      obtain ⟨t, at', heval, hadvances, hfailed⟩ := eval_markFailed answer
        { tenantId := record.tenantId, outboxId := record.id, claimId, error := text, retryAt := some retryAt,
          metadata := outcomeMetadata record } h hstream hheld rfl herror
      rw [eval_bind_ok heval]
      exact ⟨_, t, rfl, hadvances, _, hfailed, Or.inr ⟨rfl, rfl⟩⟩

/-- **One delivery**: it settles the record, or it throws and leaves everything as it is. -/
theorem eval_deliver (h : OutboxLogOK tenantId (s.logs stream))
    (hstream : documentDeliveryOutboxStream tenantId = some stream)
    (hheld : HeldRecord tenantId (s.logs stream) claimId record) :
    (canSettle addSeconds consumer claimId now record = true ∧
      ∃ outcome t, (deliver addSeconds consumer record now).eval (outboxAlone answer) s = (.ok outcome, t) ∧
        Advances tenantId stream record.id s t ∧ Settled tenantId (t.logs stream) record.id) ∨
      (canSettle addSeconds consumer claimId now record = false ∧
        ∃ error, (deliver addSeconds consumer record now).eval (outboxAlone answer) s = (.error error, s)) := by
  have htenant : record.tenantId = tenantId := tenantId_of_foldRecord hheld.fold
  unfold deliver canSettle documentDeliveryOutboxRecordClaimId
  rw [hheld.claimId]
  by_cases hclaim : (Json.trim claimId).isEmpty = true
  · refine Or.inr ⟨by rw [hclaim]; rfl, ?_⟩
    rw [Option.filter_some, if_neg (by rw [hclaim]; exact Bool.false_ne_true)]
    rw [eval_bind_error (eval_ofExcept _ _)]
    exact ⟨_, rfl⟩
  · have hsome : (!(Json.trim claimId).isEmpty) = true := by simpa using hclaim
    rw [Option.filter_some, if_pos hsome, hsome, Bool.true_and]
    dsimp only
    rw [eval_bind_ok (eval_ofExcept _ _)]
    unfold failureText
    cases hhandler : consumer.deliveries record.target with
    | none =>
      dsimp only
      rw [Option.all_some]
      exact eval_fail answer addSeconds consumer now h hstream hheld _
    | some handler =>
      dsimp only
      cases hresult : handler record with
      | returned metadata =>
        -- a delivery that went through is completed, and never fails
        subst htenant
        obtain ⟨t, at', heval, hadvances, hdelivered⟩ := eval_markDelivered answer
          { tenantId := record.tenantId, outboxId := record.id, claimId,
            metadata := Record.merge (outcomeMetadata record) (metadata.getD []) } h hstream hheld rfl
        have hattempt := Program.eval_attempt (outboxAlone answer) (markDelivered
          { tenantId := record.tenantId, outboxId := record.id, claimId,
            metadata := Record.merge (outcomeMetadata record) (metadata.getD []) }) s
        rw [heval] at hattempt
        refine Or.inl ⟨rfl, ?_⟩
        unfold finish
        dsimp only
        rw [eval_bind_ok hattempt]
        exact ⟨_, t, rfl, hadvances, _, hdelivered, Or.inl rfl⟩
      | threw error =>
        unfold finish resultText
        dsimp only
        rw [Option.all_some]
        cases htext : documentDeliveryOutboxErrorMessage error with
        | error e =>
          refine Or.inr ⟨rfl, e, ?_⟩
          rw [eval_bind_error (eval_ofExcept _ _)]
        | ok text =>
          rw [eval_bind_ok (eval_ofExcept _ _)]
          exact eval_fail answer addSeconds consumer now h hstream hheld text

/-- **The loop**: it ends, by coming through or by throwing, in a store where the records of the batch are settled if
and only if every one of them could be. -/
theorem eval_deliverAll {records : List DocumentDeliveryOutboxRecord} (h : OutboxLogOK tenantId (s.logs stream))
    (hstream : documentDeliveryOutboxStream tenantId = some stream)
    (hheld : ∀ record ∈ records, HeldRecord tenantId (s.logs stream) claimId record)
    (hnodup : (records.map (·.id)).Nodup) :
    ∃ result t events, (deliverAll addSeconds consumer now records).eval (outboxAlone answer) s = (result, t) ∧
      t.logs stream = s.logs stream ++ events ∧ claimedIds events = [] ∧
      (∀ y, y ∉ records.map (·.id) → foldDocumentDeliveryOutboxRecord tenantId y (t.logs stream) =
        foldDocumentDeliveryOutboxRecord tenantId y (s.logs stream)) ∧
      ((∀ record ∈ records, Settled tenantId (t.logs stream) record.id) ↔
        ∀ record ∈ records, canSettle addSeconds consumer claimId now record = true) := by
  -- by induction on the records: a delivery that ends leaves the claims on the others alone
  induction records generalizing s with
  | nil =>
    refine ⟨.ok [], s, [], rfl, (List.append_nil _).symm, rfl, fun _ _ => rfl, ?_⟩
    simp
  | cons record records ih =>
    have hfirst := hheld record List.mem_cons_self
    rw [List.map_cons, List.nodup_cons] at hnodup
    simp only [List.forall_mem_cons]
    unfold deliverAll
    rcases eval_deliver answer addSeconds consumer now h hstream hfirst with
      ⟨hcan, outcome, u, heval, hadvances, hsettled⟩ | ⟨hcannot, error, heval⟩
    · -- the first record is settled, and the others are held as before
      have hothers : ∀ other ∈ records, HeldRecord tenantId (u.logs stream) claimId other := by
        intro other hother
        have hbefore := hheld other (List.mem_cons_of_mem _ hother)
        have hne : other.id ≠ record.id := fun heq => hnodup.1 (heq ▸ List.mem_map_of_mem hother)
        exact ⟨(hadvances.others _ hne).trans hbefore.fold, hbefore.status, hbefore.claimId⟩
      obtain ⟨events, hevents, hquiet⟩ := hadvances.appended
      obtain ⟨result, t, later, hrest, hlater, hlaterQuiet, hsame, hiff⟩ := ih hadvances.ok hothers hnodup.2
      rw [eval_bind_ok heval]
      have hstays : Settled tenantId (t.logs stream) record.id := by
        unfold Settled
        rw [hsame record.id hnodup.1]
        exact hsettled
      have hlog : t.logs stream = s.logs stream ++ (events ++ later) := by
        rw [hlater, hevents, List.append_assoc]
      have hclaims : claimedIds (events ++ later) = [] := by
        rw [claimedIds_append, hquiet, hlaterQuiet]
        rfl
      have hkept : ∀ y, y ∉ record.id :: records.map (·.id) →
          foldDocumentDeliveryOutboxRecord tenantId y (t.logs stream) =
            foldDocumentDeliveryOutboxRecord tenantId y (s.logs stream) := by
        intro y hy
        rw [List.mem_cons, not_or] at hy
        rw [hsame y hy.2, hadvances.others y hy.1]
      cases result with
      | ok outcomes =>
        rw [eval_bind_ok hrest]
        refine ⟨_, t, _, rfl, hlog, hclaims, hkept, ?_⟩
        rw [hiff]
        exact ⟨fun hall => ⟨hcan, hall.2⟩, fun hall => ⟨hstays, hall.2⟩⟩
      | error e =>
        rw [eval_bind_error hrest]
        refine ⟨_, t, _, rfl, hlog, hclaims, hkept, ?_⟩
        rw [hiff]
        exact ⟨fun hall => ⟨hcan, hall.2⟩, fun hall => ⟨hstays, hall.2⟩⟩
    · rw [eval_bind_error heval]
      refine ⟨_, s, [], rfl, (List.append_nil _).symm, rfl, fun _ _ => rfl, ?_⟩
      constructor
      · intro hall
        exact absurd hall.1 hfirst.not_settled
      · intro hall
        rw [hcannot] at hall
        exact absurd hall.1 Bool.false_ne_true

end Delivering

/-! ## The drain -/

section Draining

variable {W : Type} (answer : W → (x : OutboxCall) → x.Reply × W)

/-- The time of a drain, and the world after it was asked for. -/
def drainTime (command : DrainDocumentDeliveryOutboxCommand) (world : W) : Timestamp × W :=
  match command.now with
  | some now => (now, world)
  | none => answer world .now

/-- The claim id of a drain: the given one, or the next one of the generator. -/
def drainClaimId (command : DrainDocumentDeliveryOutboxCommand) (world : W) : JsString :=
  match command.claimId with
  | some claimId => claimId
  | none => (answer (drainTime answer command world).2 (.nextId (js "claim_"))).1

/-- Every record that the drain is going to claim can be settled. -/
def CanSettleAll (addSeconds : Timestamp → Nat → Option Timestamp) (localeCompare : JsString → JsString → Ordering)
    (consumer : DocumentDeliveryOutboxConsumer) (command : DrainDocumentDeliveryOutboxCommand) (s : SoloStore W) :
    Prop :=
  ∀ stream limit, documentDeliveryOutboxStream command.tenantId = some stream →
    documentDeliveryOutboxDrainLimit command.limit = .ok limit →
    ∀ record ∈ claimableDocumentDeliveryOutboxRecords localeCompare
        (foldDocumentDeliveryOutbox command.tenantId (s.logs stream)) (drainTime answer command s.world).1
        limit.num.toNat,
      canSettle addSeconds consumer (drainClaimId answer command s.world) (drainTime answer command s.world).1
        (record.claim (drainClaimId answer command s.world) (drainTime answer command s.world).1) = true

variable {answer}

theorem claimLimit_of_drainLimit {given : Option Rat} {limit : Rat}
    (h : documentDeliveryOutboxDrainLimit given = .ok limit) :
    documentDeliveryOutboxClaimLimit (some limit) = .ok limit.num.toNat := by
  cases given with
  | none =>
    obtain rfl := Except.ok.inj h
    rfl
  | some given =>
    unfold documentDeliveryOutboxDrainLimit at h
    dsimp only at h
    split_ifs at h with hlimit
    obtain rfl := Except.ok.inj h
    exact if_pos hlimit

/-- A drain that comes to its claim. -/
theorem eval_drain {addSeconds : Timestamp → Nat → Option Timestamp} {localeCompare : JsString → JsString → Ordering}
    {consumer : DocumentDeliveryOutboxConsumer} {command : DrainDocumentDeliveryOutboxCommand} {s : SoloStore W}
    {stream : StreamName} {limit : Rat} (h : OutboxLogOK command.tenantId (s.logs stream))
    (hstream : documentDeliveryOutboxStream command.tenantId = some stream)
    (hlimit : documentDeliveryOutboxDrainLimit command.limit = .ok limit) :
    StrandsNone command.tenantId s ((drain addSeconds localeCompare consumer command).eval (outboxAlone answer) s).2 ↔
      ∀ record ∈ claimableDocumentDeliveryOutboxRecords localeCompare
          (foldDocumentDeliveryOutbox command.tenantId (s.logs stream)) (drainTime answer command s.world).1
          limit.num.toNat,
        canSettle addSeconds consumer (drainClaimId answer command s.world) (drainTime answer command s.world).1
          (record.claim (drainClaimId answer command s.world) (drainTime answer command s.world).1) = true := by
  have hnow : (nowOr command.now).eval (outboxAlone answer) s =
      (.ok (drainTime answer command s.world).1, { s with world := (drainTime answer command s.world).2 }) := by
    unfold drainTime
    cases command.now <;> rfl
  have hclaimId : ∃ w, (claimIdOr command.claimId).eval (outboxAlone answer)
      { s with world := (drainTime answer command s.world).2 } =
      (.ok (drainClaimId answer command s.world), { s with world := w }) := by
    unfold drainClaimId
    cases command.claimId with
    | none => exact ⟨_, rfl⟩
    | some claimId => exact ⟨_, rfl⟩
  obtain ⟨w, hclaimId⟩ := hclaimId
  obtain ⟨t, claims, hclaim, hclaims, hids, hok, hheld⟩ := eval_claimPending answer
    { s with world := (drainTime answer command s.world).2 } localeCompare
    { tenantId := command.tenantId, claimId := command.claimId, limit := some limit,
      now := some (drainTime answer command s.world).1 }
    h hstream rfl hclaimId (claimLimit_of_drainLimit hlimit)
  dsimp only at hclaim hclaims hids hok hheld
  have hnodup := nodup_claimable localeCompare command.tenantId (s.logs stream) (drainTime answer command s.world).1
    limit.num.toNat
  generalize claimableDocumentDeliveryOutboxRecords localeCompare
    (foldDocumentDeliveryOutbox command.tenantId (s.logs stream)) (drainTime answer command s.world).1
    limit.num.toNat = records at hclaim hids hheld hnodup ⊢
  obtain ⟨result, u, events, hdelivered, hevents, hquiet, -, hiff⟩ := eval_deliverAll answer addSeconds consumer
    (drainTime answer command s.world).1 hok hstream (List.forall_mem_map.mpr hheld) (by rwa [List.map_map])
  have hend : ((drain addSeconds localeCompare consumer command).eval (outboxAlone answer) s).2 = u := by
    unfold drain
    rw [eval_bind_ok hnow, eval_bind_ok (by rw [eval_ofExcept, hlimit]),
      eval_bind_ok hclaim]
    cases result with
    | ok outcomes =>
      rw [eval_bind_ok hdelivered]
      rfl
    | error e => rw [eval_bind_error hdelivered]
  rw [List.forall_mem_map, List.forall_mem_map] at hiff
  rw [hend, ← hiff]
  -- the claims of the drain are those of its batch
  have hdrop : claimedIds ((u.logs stream).drop (s.logs stream).length) = records.map (·.id) := by
    rw [hevents, hclaims, List.append_assoc, List.drop_left, claimedIds_append, hquiet, hids, List.append_nil]
  unfold StrandsNone
  constructor
  · intro hstrands record hrecord
    apply hstrands stream hstream
    rw [hdrop]
    exact List.mem_map.mpr ⟨record, hrecord, rfl⟩
  · intro hsettled stream' hstream' x hx
    obtain rfl := Option.some.inj (hstream.symm.trans hstream')
    rw [hdrop] at hx
    obtain ⟨record, hrecord, rfl⟩ := List.mem_map.mp hx
    exact hsettled record hrecord

/-- **When a drain strands no record.** On the outbox of any run, whatever the handlers do, a drain that runs alone
settles every record that it claims if and only if all of them can be settled. -/
theorem drain_strands_none_iff {addSeconds : Timestamp → Nat → Option Timestamp}
    {localeCompare : JsString → JsString → Ordering} {consumer : DocumentDeliveryOutboxConsumer}
    {command : DrainDocumentDeliveryOutboxCommand} {threads : List (OutboxCommand × OutboxProgram OutboxResult)}
    {store : OutboxStore}
    {steps : List (RunStep OutboxCommand OutboxStore (LogAction StreamName OutboxEvent OutboxCall)
      (LogAction.Reply FrameworkError OutboxCall.Reply))}
    (hrun : OutboxRun localeCompare threads store steps) (world : W) :
    StrandsNone command.tenantId { logs := store.logs, world }
        ((drain addSeconds localeCompare consumer command).eval (outboxAlone answer)
          { logs := store.logs, world }).2 ↔
      CanSettleAll answer addSeconds localeCompare consumer command { logs := store.logs, world } := by
  unfold CanSettleAll
  cases hstream : documentDeliveryOutboxStream command.tenantId with
  | none =>
    constructor
    · intro _ stream limit h
      cases h
    · intro _ stream h
      rw [hstream] at h
      cases h
  | some stream =>
    have hok : OutboxLogOK command.tenantId (({ logs := store.logs, world } : SoloStore W).logs stream) :=
      inv_log hstream (OutboxRun.inv hrun)
    cases hlimit : documentDeliveryOutboxDrainLimit command.limit with
    | error e =>
      constructor
      · intro _ stream' limit _ h
        cases h
      · -- a drain that is refused for its limit has claimed nothing
        intro _ stream' _ x hx
        have hsame : ((drain addSeconds localeCompare consumer command).eval (outboxAlone answer)
            { logs := store.logs, world }).2.logs = store.logs := by
          have hnow : ∃ now w, (nowOr command.now).eval (outboxAlone answer) { logs := store.logs, world } =
              (.ok now, { logs := store.logs, world := w }) := by
            cases command.now with
            | none => exact ⟨_, _, rfl⟩
            | some now => exact ⟨now, world, rfl⟩
          obtain ⟨now, w, hnow⟩ := hnow
          unfold drain
          rw [eval_bind_ok hnow, eval_bind_error (by rw [eval_ofExcept, hlimit])]
        rw [hsame, List.drop_length] at hx
        cases hx
    | ok limit =>
      rw [eval_drain hok hstream hlimit]
      constructor
      · intro hall stream' limit' hstream' hlimit'
        obtain rfl := Option.some.inj hstream'
        obtain rfl := Except.ok.inj hlimit'
        exact hall
      · intro hall
        exact hall stream limit rfl rfl

end Draining

end DocumentDeliveryOutboxConsumer

/-! ### A drain with a handler that fails

The outbox is that of the run above: the e-mail of `taskCreated` is delivered, its realtime event is pending. -/

namespace RealtimeDrain

def answer (world : Unit) : (call : OutboxCall) → call.Reply × Unit
  | .now => (js "2026-01-01T00:00:00.000Z", world)
  | .nextId start => (start, world)

def addSeconds (now : Timestamp) (seconds : Nat) : Option Timestamp :=
  if now = js "2026-01-01T00:00:00.000Z" ∧ seconds = 30 then some (js "2026-01-01T00:00:30.000Z") else none

/-- Every handler throws an error with the given message. -/
def failing (message : JsString) : DocumentDeliveryOutboxConsumer where
  deliveries _ := some (fun _ => .threw (.error message))
  retryBaseDelaySeconds := 30
  retryMaxDelaySeconds := 1800
  base_le_max := by decide

def command : DrainDocumentDeliveryOutboxCommand := { tenantId := js "acme", claimId := some (js "d") }

/-- What a drain makes of the realtime record. -/
def realtimeStatus (message : JsString) : Option DocumentDeliveryOutboxStatus :=
  (documentDeliveryOutboxStream (js "acme")).bind (fun stream =>
    (foldDocumentDeliveryOutboxRecord (js "acme") (js "e:realtime")
      (((DocumentDeliveryOutboxConsumer.drain addSeconds compareCodeUnits (failing message) command).eval
        (outboxAlone answer) deliveredStore).2.logs stream)).map (·.status))

end RealtimeDrain

section

open DocumentDeliveryOutboxConsumer RealtimeDrain

theorem drain_strands_none_iff_realtime :
    StrandsNone (js "acme") deliveredStore
        ((drain RealtimeDrain.addSeconds compareCodeUnits (failing (js "offline")) command).eval
          (outboxAlone RealtimeDrain.answer) deliveredStore).2 ∧
      realtimeStatus (js "offline") = some .failed := by
  obtain ⟨threads, steps, hrun⟩ := run_oneDelivery
  have hdecided : (documentDeliveryOutboxStream (js "acme")).all (fun stream =>
      (claimableDocumentDeliveryOutboxRecords compareCodeUnits
        (foldDocumentDeliveryOutbox (js "acme") (deliveredStore.logs stream)) (js "2026-01-01T00:00:00.000Z") 25).all
        (fun record => canSettle RealtimeDrain.addSeconds (failing (js "offline")) (js "d")
          (js "2026-01-01T00:00:00.000Z") (record.claim (js "d") (js "2026-01-01T00:00:00.000Z")))) = true := by
    decide +kernel
  have hcan : CanSettleAll RealtimeDrain.answer RealtimeDrain.addSeconds compareCodeUnits (failing (js "offline"))
      command deliveredStore := by
    intro stream limit hstream hlimit record hrecord
    obtain rfl : limit = 25 := (Except.ok.inj hlimit).symm
    change documentDeliveryOutboxStream (js "acme") = some stream at hstream
    rw [hstream, Option.all_some, List.all_eq_true] at hdecided
    exact hdecided record hrecord
  exact ⟨(drain_strands_none_iff hrun ()).mpr hcan, by decide +kernel⟩

/-- A handler throws an error without a message: the drain throws, and the record stays claimed. -/
theorem not_drain_strands_none :
    ¬ ∀ (addSeconds : Timestamp → Nat → Option Timestamp) (localeCompare : JsString → JsString → Ordering)
        (consumer : DocumentDeliveryOutboxConsumer) (command : DrainDocumentDeliveryOutboxCommand)
        (answer : Unit → (x : OutboxCall) → x.Reply × Unit)
        (threads : List (OutboxCommand × OutboxProgram OutboxResult)) (store : OutboxStore)
        (steps : List (RunStep OutboxCommand OutboxStore (LogAction StreamName OutboxEvent OutboxCall)
          (LogAction.Reply FrameworkError OutboxCall.Reply))),
      OutboxRun localeCompare threads store steps →
        StrandsNone command.tenantId store
          ((drain addSeconds localeCompare consumer command).eval (outboxAlone answer) store).2 := by
  intro hall
  obtain ⟨threads, steps, hrun⟩ := run_oneDelivery
  have hstrands := hall RealtimeDrain.addSeconds compareCodeUnits (failing []) command RealtimeDrain.answer threads
    deliveredStore steps hrun
  have hclaimed : realtimeStatus [] = some .claimed := by decide +kernel
  have hbatch : (documentDeliveryOutboxStream (js "acme")).all (fun stream =>
      (claimedIds ((((drain RealtimeDrain.addSeconds compareCodeUnits (failing []) command).eval
        (outboxAlone RealtimeDrain.answer) deliveredStore).2.logs stream).drop
        (deliveredStore.logs stream).length)).contains (js "e:realtime")) = true := by
    decide +kernel
  cases hstream : documentDeliveryOutboxStream (js "acme") with
  | none =>
    unfold realtimeStatus at hclaimed
    rw [hstream] at hclaimed
    cases hclaimed
  | some stream =>
    unfold realtimeStatus at hclaimed
    rw [hstream, Option.bind_some] at hclaimed
    rw [hstream, Option.all_some, List.contains_iff_mem] at hbatch
    obtain ⟨r, hr, hstatus⟩ := hstrands stream hstream _ hbatch
    change foldDocumentDeliveryOutboxRecord (js "acme") _ _ = some r at hr
    rw [hr, Option.map_some, Option.some.injEq] at hclaimed
    rw [hclaimed] at hstatus
    rcases hstatus with hstatus | ⟨hstatus, -⟩ <;> cases hstatus

end
