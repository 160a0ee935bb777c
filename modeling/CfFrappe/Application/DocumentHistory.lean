import CfFrappe.Core.Permissions
import CfFrappe.Core.Streams
import CfFrappe.Core.UserAccounts
import CfFrappe.Application.FieldAccessPolicy

set_option autoImplicit false

/-! # The history of a document

`DocumentHistoryService.getTimeline` hands out the events of a document page by page, the latest page first, and
with each event what it changed. A page reads one event more than it shows; a legacy transition
(`isCurrentDocumentHistoryEvent`) is not part of the history.
-/

open Utf

/-! ## Reading a stream -/

/-- `ReadStreamOptions`, without the payload kinds, which a timeline does not ask for. -/
structure ReadStreamOptions where
  minSequence : Option Nat := none
  maxSequence : Option Nat := none
  limit : Option Nat := none

/-- `readStream` of an event store: with a lower bound the first events, without one the last ones. -/
def readStream (stream : List DomainEvent) (options : ReadStreamOptions) : List DomainEvent :=
  let events := sortBySequence ((stream.filter (fun event =>
    options.minSequence.all (fun minSequence => minSequence ≤ event.sequence))).filter (fun event =>
    options.maxSequence.all (fun maxSequence => event.sequence ≤ maxSequence)))
  match options.limit with
  | none => events
  | some limit =>
    match options.minSequence with
    | none => events.drop (events.length - limit)
    | some _ => events.take limit

/-! ## Policy -/

structure DocumentTimelineChange where
  field : JsString
  oldValue : Option Json
  newValue : Option Json
  deriving DecidableEq

structure DocumentTimelineEntry where
  eventId : JsString
  sequence : Nat
  type : JsString
  kind : JsString
  actorId : JsString
  occurredAt : Timestamp
  summary : JsString
  changes : List DocumentTimelineChange
  payload : EventPayload
  metadata : DocumentData
  deriving DecidableEq

structure DocumentTimelinePage where
  visibleEvents : List DomainEvent
  nextBeforeSequence : Option Nat

def isCurrentDocumentHistoryEvent (event : DomainEvent) : Bool :=
  domainEventPayloadKind event ≠ js "WorkflowTransitioned" || isCurrentWorkflowTransitionPayload event.payload

def selectDocumentTimelinePage (events : List DomainEvent) (beforeSequence limit : Nat) : DocumentTimelinePage :=
  let authorizedEvents := sortBySequence (events.filter (fun event =>
    decide (event.sequence ≤ beforeSequence) && isCurrentDocumentHistoryEvent event))
  if limit < authorizedEvents.length then
    { visibleEvents := authorizedEvents.drop (authorizedEvents.length - limit)
      nextBeforeSequence := authorizedEvents[authorizedEvents.length - limit - 1]?.map (·.sequence) }
  else
    { visibleEvents := authorizedEvents, nextBeforeSequence := none }

def defaultTimelineLimit : Nat := 50

def maxTimelineLimit : Nat := 200

/-- `Number.isInteger(value)` and at least `least`: the value as a natural number. -/
def integerFrom (least : Nat) (value : Rat) : Option Nat :=
  if value.den = 1 ∧ (least : Rat) ≤ value then some value.num.toNat else none

def normalizeDocumentTimelineLimit (limit : Option Rat) : Except FrameworkError Nat :=
  match limit with
  | none => .ok defaultTimelineLimit
  | some limit =>
    match integerFrom 1 limit with
    | some limit => .ok (min limit maxTimelineLimit)
    | none => .error (.ofBadRequest (js "Timeline limit must be a positive integer"))

def normalizeDocumentTimelineBeforeSequence (beforeSequence : Option Rat) (authorizedVersion : Nat) :
    Except FrameworkError Nat :=
  match beforeSequence with
  | none => .ok authorizedVersion
  | some beforeSequence =>
    match integerFrom 1 beforeSequence with
    | some beforeSequence => .ok (min beforeSequence authorizedVersion)
    | none => .error (.ofBadRequest (js "Timeline beforeSequence must be a positive integer"))

/-- How many events come before the first visible one, when there are any. -/
def documentTimelineBaselineEventCount (firstVisibleSequence : Option Nat) (maxDiffBaselineEvents : Nat) :
    Except FrameworkError (Option Nat) :=
  match firstVisibleSequence with
  | none => .ok none
  | some firstVisibleSequence =>
    if firstVisibleSequence ≤ 1 then .ok none
    else if maxDiffBaselineEvents < firstVisibleSequence - 1 then
      .error (.ofBadRequest (js "Timeline diff baseline needs " ++ Json.natToString (firstVisibleSequence - 1) ++
        js " prior events, exceeding the configured limit of " ++ Json.natToString maxDiffBaselineEvents))
    else .ok (some (firstVisibleSequence - 1))

/-! ### Changes -/

/-- `JSON.stringify(left) === JSON.stringify(right)`. -/
def jsonEquals (left right : Option Json) : Bool := left.map Json.stringify == right.map Json.stringify

/-- `[...new Set(names)].sort()`. -/
def uniqueSortedNames (names : List JsString) : List JsString :=
  names.eraseDups.insertionSort (fun left right => compareCodeUnits left right ≠ .gt)

def snapshotValue (snapshot : Option DocumentSnapshot) (field : JsString) : Option Json :=
  snapshot.bind (fun snapshot => Record.get snapshot.data field)

def diffPatch (patch : DocumentData) (before after : Option DocumentSnapshot) (unset : List JsString) :
    List DocumentTimelineChange :=
  ((uniqueSortedNames (Record.keys patch ++ unset)).map (fun field =>
    { field, oldValue := snapshotValue before field, newValue := snapshotValue after field })).filter
      (fun change => !jsonEquals change.oldValue change.newValue)

def docstatusValue (snapshot : Option DocumentSnapshot) : Option Json :=
  snapshot.map (fun snapshot => .str snapshot.docstatus.toText)

def diffDocstatus (before after : Option DocumentSnapshot) : List DocumentTimelineChange :=
  if jsonEquals (docstatusValue before) (docstatusValue after) then []
  else [{ field := js "docstatus", oldValue := docstatusValue before, newValue := docstatusValue after }]

def documentTimelineEventChanges (payload : EventPayload) (before after : Option DocumentSnapshot) :
    List DocumentTimelineChange :=
  match payload with
  | .documentCreated data docstatus =>
    { field := js "docstatus", oldValue := none, newValue := some (.str docstatus.toText) } ::
      ((Record.keys data).insertionSort (fun left right => compareCodeUnits left right ≠ .gt)).map (fun field =>
        { field, oldValue := none, newValue := Record.get data field })
  | .documentUpdated patch unset => diffPatch patch before after unset
  | .workflowTransitioned _ _ _ _ _ patch =>
    if isCurrentWorkflowTransitionPayload payload then diffPatch patch before after [] else []
  | .domainCommandApplied _ _ patch _ => diffPatch patch before after []
  | .documentDeleted | .documentSubmitted | .documentCancelled => diffDocstatus before after
  | _ => []

/-! ### Summaries -/

/-- What the summaries need of the language, and the summaries of the events that no document has. -/
structure TimelineTexts where
  toUpperCase : JsString → JsString
  otherSummary : EventPayload → JsString

def joinNames (names : List JsString) : JsString := List.intercalate (js ", ") names

def updatedSummary (patch : DocumentData) (unset : List JsString) : JsString :=
  let updated := Record.keys patch
  let removed := unset.filter (fun field => !updated.contains field)
  if updated.isEmpty && removed.isEmpty then js "Updated document"
  else List.intercalate (js "; ")
    ((if updated.isEmpty then [] else [js "Updated " ++ joinNames updated]) ++
      (if removed.isEmpty then [] else [js "removed " ++ joinNames removed]))

def summarizeText (text : JsString) : JsString :=
  let normalized := Json.trim (collapseWhitespace text)
  if normalized.length ≤ 80 then normalized else normalized.take 77 ++ js "..."

section

variable (texts : TimelineTexts)

def capitalize (value : JsString) : JsString :=
  if value.isEmpty then value else texts.toUpperCase (value.take 1) ++ value.drop 1

def pastTense (action : JsString) : JsString :=
  if action.getLast? = some 0x65 then capitalize texts action ++ js "d" else capitalize texts action ++ js "ed"

def documentTimelineSummary : EventPayload → JsString
  | .documentCreated .. => js "Created document"
  | .documentUpdated patch unset => updatedSummary patch unset
  | .documentDeleted => js "Deleted document"
  | .documentSubmitted => js "Submitted document"
  | .documentCancelled => js "Cancelled document"
  | .documentCommentAdded text => js "Commented: " ++ summarizeText text
  | .documentActivityRecorded activity =>
    capitalize texts activity.activityType ++ js ": " ++ summarizeText activity.subject
  | .documentAssigned assigneeId => js "Assigned " ++ assigneeId
  | .documentUnassigned assigneeId => js "Unassigned " ++ assigneeId
  | .documentTagged tag => js "Tagged " ++ tag
  | .documentUntagged tag => js "Untagged " ++ tag
  | .documentFollowed followerId => js "Followed by " ++ followerId
  | .documentUnfollowed followerId => js "Unfollowed by " ++ followerId
  | .documentShared userId permissions =>
    js "Shared with " ++ userId ++ js " (" ++ joinNames (permissions.map DocumentSharePermission.toText) ++ js ")"
  | .documentShareRevoked userId => js "Revoked share for " ++ userId
  | .workflowTransitioned workflow stateField action «from» «to» _ =>
    pastTense texts action ++ js " " ++ workflow ++ js "." ++ stateField ++ js " from " ++ «from» ++ js " to " ++ «to»
  | .domainCommandApplied command _ _ transitions =>
    if transitions.isEmpty then js "Applied " ++ command
    else js "Applied " ++ command ++ js " with " ++
      joinNames (transitions.map (fun transition => transition.workflow ++ js "." ++ transition.action))
  | payload => texts.otherSummary payload

end

/-! ## Redaction -/

def filterDataFields (data : DocumentData) (visibleFieldNames : List JsString) : DocumentData :=
  data.filter (fun entry => visibleFieldNames.contains entry.1)

def filterSnapshotFields (snapshot : Option DocumentSnapshot) (visibleFieldNames : List JsString) :
    Option DocumentSnapshot :=
  snapshot.map (fun snapshot => { snapshot with data := filterDataFields snapshot.data visibleFieldNames })

/-- The part of a patch that can be seen and that changed something: what it sets, and what it removes. -/
def redactedDataChange (patch : DocumentData) (before after : Option DocumentSnapshot)
    (visibleFieldNames unset : List JsString) : DocumentData × List JsString :=
  let changed := (uniqueSortedNames (Record.keys patch ++ unset)).filter (fun field =>
    visibleFieldNames.contains field && !jsonEquals (snapshotValue before field) (snapshotValue after field))
  (changed.filterMap (fun field => (snapshotValue after field).map (fun value => (field, value))),
    changed.filter (fun field => (snapshotValue after field).isNone))

def redactedTimelinePayload (payload : EventPayload) (before after : Option DocumentSnapshot)
    (visibleFieldNames : List JsString) : EventPayload :=
  match payload with
  | .documentCreated _ docstatus =>
    .documentCreated (filterDataFields ((after.map (·.data)).getD []) visibleFieldNames) docstatus
  | .documentUpdated patch unset =>
    let change := redactedDataChange patch before after visibleFieldNames unset
    .documentUpdated change.1 change.2
  | .workflowTransitioned workflow stateField action «from» «to» patch =>
    .workflowTransitioned workflow stateField action «from» «to»
      (redactedDataChange patch before after visibleFieldNames []).1
  | .domainCommandApplied command _ patch transitions =>
    .domainCommandApplied command [] (redactedDataChange patch before after visibleFieldNames []).1 transitions
  | payload => payload

/-- The entry of an event, from what the actor may see of the document before and after it. -/
def redactedTimelineEntry (texts : TimelineTexts) (visibleFieldNames : List JsString) (event : DomainEvent)
    (redactedBefore redactedAfter : Option DocumentSnapshot) : DocumentTimelineEntry :=
  let payload := redactedTimelinePayload event.payload redactedBefore redactedAfter visibleFieldNames
  { eventId := event.id
    sequence := event.sequence
    type := event.type
    kind := domainEventPayloadKind event
    actorId := event.actorId
    occurredAt := event.occurredAt
    summary := documentTimelineSummary texts payload
    changes := documentTimelineEventChanges payload (filterSnapshotFields redactedBefore visibleFieldNames)
      (filterSnapshotFields redactedAfter visibleFieldNames)
    payload
    metadata := [] }

/-! ## The service -/

structure QueryServiceDocTypeContext where
  doctype : DocTypeDefinition
  relatedDocType : RelatedDocTypeResolver

/-- What the service works on: the DocTypes of a tenant, the projection, the permissions and the event store. -/
structure DocumentHistoryServices where
  doctypeContext : Actor → DocTypeName → TenantId → Except FrameworkError QueryServiceDocTypeContext
  projection : TenantId → DocTypeName → DocumentName → Option DocumentSnapshot
  canReadDocument : Actor → DocTypeDefinition → DocumentSnapshot → Bool
  streams : StreamName → List DomainEvent
  texts : TimelineTexts
  maxDiffBaselineEvents : Nat

structure GetDocumentTimelineOptions where
  tenantId : Option TenantId := none
  limit : Option Rat := none
  beforeSequence : Option Rat := none

structure DocumentTimeline where
  tenantId : TenantId
  doctype : DocTypeName
  name : DocumentName
  version : Nat
  docstatus : DocStatus
  limit : Nat
  beforeSequence : Nat
  nextBeforeSequence : Option Nat
  entries : List DocumentTimelineEntry

def documentTimeline (document : DocumentSnapshot) (limit beforeSequence : Nat) (page : DocumentTimelinePage)
    (entries : List DocumentTimelineEntry) : DocumentTimeline :=
  { tenantId := document.tenantId
    doctype := document.doctype
    name := document.name
    version := document.version
    docstatus := document.docstatus
    limit
    beforeSequence
    nextBeforeSequence := page.nextBeforeSequence
    entries }

namespace DocumentHistoryServices

variable (services : DocumentHistoryServices) (actor : Actor)

/-! ### Queries -/

def getDocument (doctypeName : DocTypeName) (name : DocumentName) (tenantId : Option TenantId) :
    Except FrameworkError DocumentSnapshot := do
  let tenantId := tenantId.getD (actor.tenantId.getD defaultTenantId)
  let context ← services.doctypeContext actor doctypeName tenantId
  match services.projection tenantId context.doctype.name name with
  | none => .error (.notFound (context.doctype.name ++ js "/" ++ name ++ js " was not found"))
  | some document => do
      ensure (document.docstatus ≠ .deleted)
        (.notFound (context.doctype.name ++ js "/" ++ name ++ js " was not found"))
      ensure (services.canReadDocument actor context.doctype document)
        (.denied (js "Actor '" ++ actor.id ++ js "' cannot read " ++ context.doctype.name ++ js "/" ++ name))
      return redactDocumentSnapshot context.relatedDocType actor context.doctype document

def redactDocument (document : DocumentSnapshot) : Except FrameworkError DocumentSnapshot := do
  let context ← services.doctypeContext actor document.doctype document.tenantId
  planDocTypeActionAccess actor context.doctype .read
  return redactDocumentSnapshot context.relatedDocType actor context.doctype document

def readableDocumentFieldNames (doctype : DocTypeDefinition) (document : DocumentSnapshot) : List JsString :=
  (doctype.fields.filter (fun field =>
    canReadField field (readContext actor document document.tenantId (Record.get document.data field.name)))).map
      (·.name)

def readableFieldNames (document : DocumentSnapshot) : Except FrameworkError (List JsString) := do
  let context ← services.doctypeContext actor document.doctype document.tenantId
  planDocTypeActionAccess actor context.doctype .read
  return readableDocumentFieldNames actor context.doctype document

/-! ### Timelines -/

def baselineBefore (stream : StreamName) (firstVisibleSequence : Option Nat) :
    Except FrameworkError (Option DocumentSnapshot) := do
  match ← documentTimelineBaselineEventCount firstVisibleSequence services.maxDiffBaselineEvents with
  | none => return none
  | some baselineEventCount =>
    return foldDocument (readStream (services.streams stream) { maxSequence := some baselineEventCount })

def snapshotAt (stream : StreamName) (sequence : Nat) : Option DocumentSnapshot :=
  foldDocument (readStream (services.streams stream) { maxSequence := some sequence })

/-- The loop of `redactedTimelineEntries`; `before` is the document before the events. -/
def redactedTimelineEntries (visibleFieldNames : List JsString) :
    Option DocumentSnapshot → List DomainEvent → Except FrameworkError (List DocumentTimelineEntry)
  | _, [] => return []
  | before, event :: events => do
      let next := foldDocumentFrom before [event]
      let redactedBefore ← before.mapM (services.redactDocument actor)
      let redactedAfter ← next.mapM (services.redactDocument actor)
      let entries ← redactedTimelineEntries visibleFieldNames next events
      return redactedTimelineEntry services.texts visibleFieldNames event redactedBefore redactedAfter :: entries

/-- What the actor may see of the current document; nothing when there is none. -/
def visibleFieldNames : Option DocumentSnapshot → Except FrameworkError (List JsString)
  | none => return []
  | some currentSnapshot => services.readableFieldNames actor currentSnapshot

def getTimeline (doctypeName : DocTypeName) (name : DocumentName) (options : GetDocumentTimelineOptions) :
    Except FrameworkError DocumentTimeline := do
  let document ← services.getDocument actor doctypeName name options.tenantId
  let stream ← requireStream (documentStream document.tenantId document.doctype document.name)
  let limit ← normalizeDocumentTimelineLimit options.limit
  let beforeSequence ← normalizeDocumentTimelineBeforeSequence options.beforeSequence document.version
  let events := readStream (services.streams stream) { maxSequence := some beforeSequence, limit := some (limit + 1) }
  let page := selectDocumentTimelinePage events beforeSequence limit
  let baseline ← services.baselineBefore stream (page.visibleEvents.head?.map (·.sequence))
  let visibleFieldNames ← services.visibleFieldNames actor (services.snapshotAt stream document.version)
  let entries ← services.redactedTimelineEntries actor visibleFieldNames baseline page.visibleEvents
  return documentTimeline document limit beforeSequence page entries

end DocumentHistoryServices
