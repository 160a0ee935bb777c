import CfFrappe.Core.Realtime

set_option autoImplicit false

/-! # The realtime hub

The hub of a topic numbers what is published on it, keeps the last of it for replays and sends it to every
open socket. A socket is sent that it is connected, a replay if it asks for one, and then every publication
(`sessionMessages`). A hub does not look into what it carries, so it is generic in it, and what a session
carries is what the replay picks and everything after it (`flatMap_events_sessionMessages`). Messages about
presence and collaboration come from the sockets, not from publications; they are left out.
-/

structure RealtimeHubOptions where
  replayBatchLimit : Option Rat := none
  replayRetentionLimit : Option Rat := none

structure RealtimeReplayRequest where
  after : Option Rat := none
  limit : Option Rat := none

structure RealtimeReplayEntry (E : Type) where
  cursor : Nat
  event : E
  deriving DecidableEq

/-- What a socket is sent. -/
inductive RealtimeMessage (E : Type)
  | connected (topic : RealtimeTopic)
  | replay (topic : RealtimeTopic) (events : List (RealtimeReplayEntry E)) (nextCursor : Option Nat)
  | event (cursor : Nat) (event : E)
  deriving DecidableEq

/-- The storage of a hub: the last number it gave, and its rows in ascending order. -/
structure RealtimeHub (E : Type) where
  lastSequence : Nat := 0
  rows : List (RealtimeReplayEntry E) := []

/-! ## Limits -/

/-- `undefined` is `none`. -/
def boundedPositiveInteger (value : Option Rat) (fallback : Nat) : Nat :=
  match value with
  | none => fallback
  | some value => if value < 1 then fallback else value.floor.toNat

def normalizeReplayCursor (value : Option Rat) : Nat :=
  match value with
  | none => 0
  | some value => if value < 0 then 0 else value.floor.toNat

def defaultReplayBatchLimit : Nat := 100

def defaultReplayRetentionLimit : Nat := 1000

namespace RealtimeHubOptions

def batchLimit (options : RealtimeHubOptions) : Nat :=
  boundedPositiveInteger options.replayBatchLimit defaultReplayBatchLimit

def retentionLimit (options : RealtimeHubOptions) : Nat :=
  boundedPositiveInteger options.replayRetentionLimit defaultReplayRetentionLimit

end RealtimeHubOptions

/-! ## The hub -/

section

variable {E : Type} (options : RealtimeHubOptions)

/-- The rows with the highest numbers stay. -/
def pruneReplayEvents (rows : List (RealtimeReplayEntry E)) (retentionLimit : Nat) : List (RealtimeReplayEntry E) :=
  rows.drop (rows.length - retentionLimit)

def storeRealtimeEvent (hub : RealtimeHub E) (event : E) : RealtimeHub E :=
  let sequence := hub.lastSequence + 1
  { lastSequence := sequence
    rows := pruneReplayEvents (hub.rows ++ [{ cursor := sequence, event }]) options.retentionLimit }

/-- The rows that a request picks. -/
def replayRows (request : RealtimeReplayRequest) (rows : List (RealtimeReplayEntry E)) : List (RealtimeReplayEntry E) :=
  (rows.filter (fun row => normalizeReplayCursor request.after < row.cursor)).take
    (min (boundedPositiveInteger request.limit options.batchLimit) options.batchLimit)

def replayEvents (topic : RealtimeTopic) (request : RealtimeReplayRequest) (hub : RealtimeHub E) : RealtimeMessage E :=
  let events := replayRows options request hub.rows
  .replay topic events (events.getLast?.map (·.cursor))

/-- What a socket is sent when it connects. -/
def fetchMessages (topic : RealtimeTopic) (request : Option RealtimeReplayRequest) (hub : RealtimeHub E) :
    List (RealtimeMessage E) :=
  .connected topic :: (request.map (fun request => replayEvents options topic request hub)).toList

/-- The hub after a publication, and what every open socket is sent. -/
def publishToHub (hub : RealtimeHub E) (event : E) : RealtimeHub E × RealtimeMessage E :=
  let stored := storeRealtimeEvent options hub event
  (stored, .event stored.lastSequence event)

def publishAll : RealtimeHub E → List E → RealtimeHub E × List (RealtimeMessage E)
  | hub, [] => (hub, [])
  | hub, event :: events =>
    let (published, message) := publishToHub options hub event
    let (hub', messages) := publishAll published events
    (hub', message :: messages)

/-- What a socket is sent that connects between two publications of a hub. -/
def sessionMessages (topic : RealtimeTopic) (request : Option RealtimeReplayRequest) (before after : List E) :
    List (RealtimeMessage E) :=
  let hub := (publishAll options {} before).1
  fetchMessages options topic request hub ++ (publishAll options hub after).2

end

/-! ## What a hub stores -/

section

variable {E : Type} (options : RealtimeHubOptions)

/-- Publications with their numbers, from `n + 1` on. -/
def numberFrom : Nat → List E → List (RealtimeReplayEntry E)
  | _, [] => []
  | n, event :: events => { cursor := n + 1, event } :: numberFrom (n + 1) events

/-- The publications that a request is replayed after the ones `before` it. -/
def replayedEvents (request : Option RealtimeReplayRequest) (before : List E) : List E :=
  request.toList.flatMap (fun request =>
    (replayRows options request (pruneReplayEvents (numberFrom 0 before) options.retentionLimit)).map (·.event))

theorem numberFrom_append (n : Nat) (events events' : List E) :
    numberFrom n (events ++ events') = numberFrom n events ++ numberFrom (n + events.length) events' := by
  induction events generalizing n with
  | nil => simp [numberFrom]
  | cons event events ih =>
    have hlength : n + 1 + events.length = n + (event :: events).length := by
      rw [List.length_cons]
      omega
    simp [numberFrom, ih, hlength]

/-- The oldest of the rows does not come back. -/
theorem pruneReplayEvents_append (rows rows' : List (RealtimeReplayEntry E)) (limit : Nat) :
    pruneReplayEvents (pruneReplayEvents rows limit ++ rows') limit = pruneReplayEvents (rows ++ rows') limit := by
  unfold pruneReplayEvents
  by_cases h : rows.length ≤ limit
  · have hnone : rows.length - limit = 0 := by omega
    rw [hnone, List.drop_zero]
  · -- what was pruned already is pruned here as well
    have hsplit : (rows ++ rows').length - limit = (rows.length - limit) + rows'.length := by
      rw [List.length_append]
      omega
    have hlength : (rows.drop (rows.length - limit) ++ rows').length - limit = rows'.length := by
      rw [List.length_append, List.length_drop]
      omega
    rw [hlength, hsplit, ← List.drop_drop, List.drop_append_of_le_length (by omega : rows.length - limit ≤ rows.length)]

/-- **The rows of a hub**: the last publications, with their numbers. -/
structure RealtimeHub.Holds (hub : RealtimeHub E) (published : List E) : Prop where
  lastSequence : hub.lastSequence = published.length
  rows : hub.rows = pruneReplayEvents (numberFrom 0 published) options.retentionLimit

theorem RealtimeHub.holds_nil : RealtimeHub.Holds options ({} : RealtimeHub E) [] where
  lastSequence := rfl
  rows := by simp [numberFrom, pruneReplayEvents]

variable {options}

theorem RealtimeHub.Holds.store {hub : RealtimeHub E} {published : List E} (h : hub.Holds options published)
    (event : E) : (storeRealtimeEvent options hub event).Holds options (published ++ [event]) := by
  constructor
  · simp [storeRealtimeEvent, h.lastSequence]
  · show pruneReplayEvents (hub.rows ++ _) _ = _
    rw [h.rows, h.lastSequence, pruneReplayEvents_append, numberFrom_append, Nat.zero_add]
    rfl

/-- A run of publications: what the hub holds after it, and what it sends. -/
theorem RealtimeHub.Holds.publishAll {hub : RealtimeHub E} {published : List E} (h : hub.Holds options published)
    (events : List E) :
    (publishAll options hub events).1.Holds options (published ++ events) ∧
      (publishAll options hub events).2 =
        (numberFrom published.length events).map (fun entry => .event entry.cursor entry.event) := by
  induction events generalizing hub published with
  | nil => exact ⟨by rwa [List.append_nil], rfl⟩
  | cons event events ih =>
    obtain ⟨hholds, hsent⟩ := ih (h.store event)
    constructor
    · rw [List.append_cons]
      exact hholds
    · show RealtimeMessage.event _ event :: _ = _
      rw [hsent, (h.store event).lastSequence, List.length_append, List.length_singleton]
      rfl

variable (options)

/-- **What a session is sent**, in terms of the publications. -/
theorem sessionMessages_eq (topic : RealtimeTopic) (request : Option RealtimeReplayRequest) (before after : List E) :
    sessionMessages options topic request before after =
      .connected topic ::
        (request.map (fun request =>
          let events := replayRows options request (pruneReplayEvents (numberFrom 0 before) options.retentionLimit)
          RealtimeMessage.replay topic events (events.getLast?.map (·.cursor)))).toList ++
        (numberFrom before.length after).map (fun entry => .event entry.cursor entry.event) := by
  have hbefore := ((RealtimeHub.holds_nil options).publishAll before).1
  have hafter := (hbefore.publishAll after).2
  rw [List.nil_append] at hafter hbefore
  unfold sessionMessages
  dsimp only
  rw [hafter]
  unfold fetchMessages replayEvents
  rw [hbefore.rows]

end

/-! ## What the messages carry -/

section

variable {E F : Type} (options : RealtimeHubOptions)

namespace RealtimeReplayEntry

def map (f : E → F) (entry : RealtimeReplayEntry E) : RealtimeReplayEntry F :=
  { cursor := entry.cursor, event := f entry.event }

@[simp] theorem cursor_map (f : E → F) (entry : RealtimeReplayEntry E) : (entry.map f).cursor = entry.cursor := rfl

@[simp] theorem event_map (f : E → F) (entry : RealtimeReplayEntry E) : (entry.map f).event = f entry.event := rfl

end RealtimeReplayEntry

namespace RealtimeMessage

/-- What a message carries. -/
def events : RealtimeMessage E → List E
  | .connected _ => []
  | .replay _ events _ => events.map (·.event)
  | .event _ carried => [carried]

/-- The message with something else in the place of what it carries. -/
def map (f : E → F) : RealtimeMessage E → RealtimeMessage F
  | .connected topic => .connected topic
  | .replay topic events nextCursor => .replay topic (events.map (·.map f)) nextCursor
  | .event cursor carried => .event cursor (f carried)

/-- Two images of a message are the same when those of everything it carries are. -/
theorem map_eq_map_iff (f g : E → F) (message : RealtimeMessage E) :
    message.map f = message.map g ↔ ∀ event ∈ message.events, f event = g event := by
  cases message with
  | connected topic => simp [map, events]
  | replay topic entries nextCursor => simp [map, events, RealtimeReplayEntry.map]
  | event cursor carried => simp [map, events]

end RealtimeMessage

theorem map_numberFrom (f : E → F) (n : Nat) (events : List E) :
    numberFrom n (events.map f) = (numberFrom n events).map (·.map f) := by
  induction events generalizing n with
  | nil => rfl
  | cons event events ih => simp [numberFrom, ih, RealtimeReplayEntry.map]

theorem event_numberFrom (n : Nat) (events : List E) : (numberFrom n events).map (·.event) = events := by
  induction events generalizing n with
  | nil => rfl
  | cons event events ih => simp [numberFrom, ih]

theorem map_pruneReplayEvents (f : E → F) (rows : List (RealtimeReplayEntry E)) (limit : Nat) :
    pruneReplayEvents (rows.map (·.map f)) limit = (pruneReplayEvents rows limit).map (·.map f) := by
  simp [pruneReplayEvents, List.map_drop]

theorem map_replayRows (f : E → F) (request : RealtimeReplayRequest) (rows : List (RealtimeReplayEntry E)) :
    replayRows options request (rows.map (·.map f)) = (replayRows options request rows).map (·.map f) := by
  unfold replayRows
  rw [List.filter_map, List.map_take]
  rfl

/-- **A hub does not look into what it carries.** -/
theorem map_sessionMessages (f : E → F) (topic : RealtimeTopic) (request : Option RealtimeReplayRequest)
    (before after : List E) :
    sessionMessages options topic request (before.map f) (after.map f) =
      (sessionMessages options topic request before after).map (·.map f) := by
  rw [sessionMessages_eq, sessionMessages_eq, map_numberFrom, map_numberFrom, map_pruneReplayEvents, List.length_map]
  cases request with
  | none => simp [RealtimeMessage.map]
  | some request => simp [RealtimeMessage.map, map_replayRows, List.getLast?_map, Function.comp_def]

/-- A session carries what the replay picks, and everything after it. -/
theorem flatMap_events_sessionMessages (topic : RealtimeTopic) (request : Option RealtimeReplayRequest)
    (before after : List E) :
    (sessionMessages options topic request before after).flatMap (·.events) =
      replayedEvents options request before ++ after := by
  have hafter : (numberFrom before.length after).flatMap (fun entry => [entry.event]) = after := by
    rw [← List.map_eq_flatMap, event_numberFrom]
  rw [sessionMessages_eq, List.cons_append, List.flatMap_cons, List.flatMap_append]
  cases request <;> simp [RealtimeMessage.events, replayedEvents, List.flatMap_map, hafter]

/-- Two images of one session are the same when those of everything it carries are. -/
theorem map_sessionMessages_eq_iff (f g : E → F) (topic : RealtimeTopic) (request : Option RealtimeReplayRequest)
    (before after : List E) :
    sessionMessages options topic request (before.map f) (after.map f) =
        sessionMessages options topic request (before.map g) (after.map g) ↔
      ∀ event ∈ replayedEvents options request before ++ after, f event = g event := by
  rw [map_sessionMessages, map_sessionMessages, List.map_inj_left, ← flatMap_events_sessionMessages options topic]
  simp only [RealtimeMessage.map_eq_map_iff, List.mem_flatMap]
  constructor
  · rintro h event ⟨message, hmessage, hevent⟩
    exact h message hmessage event hevent
  · intro h message hmessage event hevent
    exact h event ⟨message, hmessage, hevent⟩

end
