import CfFrappe.Application.CommandPolicy
import CfFrappe.Core.Permissions

set_option autoImplicit false

/-! # Files and their policy

The File DocType and the decisions of `FileService` that need no storage: in which state an upload may be
completed, what the stored object has to match, what a scan writes into the document, which objects go with
a file. The state of a file is its field `storage_state`; the commands of the DocType write it, whatever it
was before.
-/

open Utf

/-! ## The File DocType -/

namespace FileDoctype

def isUploader (context : PermissionContext) : Bool :=
  context.document.any (fun document => Record.get document.data (js "uploaded_by") == some (.str context.actor.id))

def isPublished (context : PermissionContext) : Bool :=
  context.document.any (fun document =>
    Record.get document.data (js "is_private") == some (.bool false) &&
      Record.get document.data (js "storage_state") == some (.str (js "available")))

def storageStates : List JsString :=
  [js "upload_pending", js "upload_completing", js "available", js "scan_failed", js "delete_requested"]

def fields : List FieldDefinition :=
  [{ name := js "filename", label := some (js "Filename"), type := .text, required := true, max := some 255 },
   { name := js "key", label := some (js "Storage Key"), type := .text, required := true, readOnly := true
     max := some 1024 },
   { name := js "content_type", label := some (js "Content Type"), type := .text, required := true },
   { name := js "size", label := some (js "Size"), type := .integer, required := true, min := some 0 },
   { name := js "is_private", label := some (js "Private"), type := .boolean
     defaultValue := some (fun _ => .bool true) },
   { name := js "uploaded_by", label := some (js "Uploaded By"), type := .text, readOnly := true
     defaultValue := some (fun context => .str context.actor.id) },
   { name := js "uploaded_at", label := some (js "Uploaded At"), type := .datetime, readOnly := true
     defaultValue := some (fun context => .str context.now) },
   { name := js "etag", label := some (js "ETag"), type := .text, readOnly := true },
   { name := js "storage_state", label := some (js "Storage State"), type := .select
     options := some storageStates, defaultValue := some (fun _ => .str (js "available")) },
   { name := js "direct_upload_expires_at", label := some (js "Direct Upload Expires At"), type := .datetime
     readOnly := true },
   { name := js "multipart_upload_id", label := some (js "Multipart Upload ID"), type := .text, readOnly := true },
   { name := js "multipart_parts", label := some (js "Multipart Parts"), type := .json, readOnly := true },
   { name := js "scan_status", label := some (js "Scan Status"), type := .select, readOnly := true
     options := some [js "pending", js "clean", js "infected"] },
   { name := js "scan_checked_at", label := some (js "Scan Checked At"), type := .datetime, readOnly := true },
   { name := js "scan_engine", label := some (js "Scan Engine"), type := .text, readOnly := true },
   { name := js "scan_message", label := some (js "Scan Message"), type := .text, readOnly := true },
   { name := js "renditions", label := some (js "Renditions"), type := .json, readOnly := true },
   { name := js "deletion_requested_at", label := some (js "Deletion Requested At"), type := .datetime },
   { name := js "attached_to_doctype", label := some (js "Attached To DocType"), type := .text },
   { name := js "attached_to_name", label := some (js "Attached To Name"), type := .text }]

def permissions : List PermissionRule :=
  [{ roles := [systemManagerRole], actions := [.read, .rendition, .create, .metadata, .update, .delete] },
   { roles := [js "User"], actions := [.create] },
   { roles := [js "User"], actions := [.read]
     condition := some (fun context => isUploader context || isPublished context) },
   { roles := [js "User"], actions := [.delete], condition := some isUploader },
   { roles := [js "User"], actions := [.metadata, .rendition], condition := some isUploader },
   { roles := [js "Guest"], actions := [.read], condition := some isPublished }]

/-- What a finished upload writes. -/
def completionFields : List JsString :=
  [js "storage_state", js "etag", js "scan_status", js "scan_checked_at", js "scan_engine", js "scan_message"]

def requestDelete : DomainCommandDefinition :=
  { name := js "requestDelete", eventType := js "FileDeleteRequested", permissionAction := .delete
    buildPatch := some (fun context =>
      [(js "storage_state", .str (js "delete_requested")), (js "deletion_requested_at", .str context.now)]) }

def updateMetadata : DomainCommandDefinition :=
  { name := js "updateMetadata", eventType := js "FileMetadataUpdated"
    fields := some [js "filename", js "is_private", js "attached_to_doctype", js "attached_to_name"]
    internal := true, permissionAction := .metadata }

/-- A command of an upload, which may write read-only fields. -/
def uploadCommand (name eventType : JsString) (fields : List JsString) : DomainCommandDefinition :=
  { name, eventType, fields := some fields, internal := true, allowReadOnlyFields := true
    permissionAction := .metadata }

def completeDirectUpload : DomainCommandDefinition :=
  uploadCommand (js "completeDirectUpload") (js "FileDirectUploadCompleted") completionFields

/-- The one command of an upload that may not write read-only fields. -/
def beginMultipartUploadCompletion : DomainCommandDefinition :=
  { name := js "beginMultipartUploadCompletion", eventType := js "FileMultipartUploadCompletionStarted"
    fields := some [js "storage_state"], internal := true, permissionAction := .metadata }

def completeMultipartUpload : DomainCommandDefinition :=
  uploadCommand (js "completeMultipartUpload") (js "FileMultipartUploadCompleted") completionFields

def recordMultipartPart : DomainCommandDefinition :=
  uploadCommand (js "recordMultipartPart") (js "FileMultipartPartUploaded") [js "multipart_parts"]

def failScan : DomainCommandDefinition := uploadCommand (js "failScan") (js "FileScanFailed") completionFields

/-- A command that writes the renditions of a file. -/
def renditionCommand (name eventType : JsString) : DomainCommandDefinition :=
  { name, eventType, fields := some [js "renditions"], internal := true, allowReadOnlyFields := true
    permissionAction := .rendition }

def commands : List DomainCommandDefinition :=
  [requestDelete, updateMetadata, completeDirectUpload, beginMultipartUploadCompletion, completeMultipartUpload,
   recordMultipartPart, failScan, renditionCommand (js "reserveRendition") (js "FileRenditionRequested"),
   renditionCommand (js "completeRendition") (js "FileRenditionGenerated"),
   renditionCommand (js "failRendition") (js "FileRenditionFailed")]

end FileDoctype

def fileDocType : DocTypeDefinition :=
  { name := js "File", fields := FileDoctype.fields, permissions := FileDoctype.permissions
    commands := FileDoctype.commands, naming := some .uuid }

/-! ## The state of a file -/

def storageState (snapshot : DocumentSnapshot) : Option Json := Record.get snapshot.data (js "storage_state")

def isFileDeleteRequested (snapshot : DocumentSnapshot) : Bool :=
  storageState snapshot == some (.str (js "delete_requested"))

def isFileMultipartCompletionStarted (snapshot : DocumentSnapshot) : Bool :=
  storageState snapshot == some (.str (js "upload_completing"))

def isFileUploadPending (snapshot : DocumentSnapshot) : Bool :=
  storageState snapshot == some (.str (js "upload_pending"))

def isFileScanFailed (snapshot : DocumentSnapshot) : Bool := storageState snapshot == some (.str (js "scan_failed"))

/-- `snapshot.doctype/snapshot.name`, as the errors of files name it. -/
def fileLabel (snapshot : DocumentSnapshot) : JsString := documentLabel snapshot.doctype snapshot.name

def ensureFileNotDeleteRequested (snapshot : DocumentSnapshot) : Except FrameworkError Unit :=
  ensure (!isFileDeleteRequested snapshot)
    { code := .documentDeleted, message := fileLabel snapshot ++ js " is pending deletion", status := 410 }

def ensureFilePendingDirectUpload (snapshot : DocumentSnapshot) : Except FrameworkError Unit := do
  ensureFileNotDeleteRequested snapshot
  ensure (isFileUploadPending snapshot) (.ofBadRequest (fileLabel snapshot ++ js " is not pending direct upload"))

def fileSnapshotStringData (snapshot : DocumentSnapshot) (field : JsString) : JsString :=
  match Record.get snapshot.data field with
  | some (.str value) => value
  | _ => []

def snapshotNumberData (snapshot : DocumentSnapshot) (field : JsString) : Rat :=
  match Record.get snapshot.data field with
  | some (.num value) => value
  | _ => 0

def requireFileSnapshotString (snapshot : DocumentSnapshot) (field : JsString) : Except FrameworkError JsString :=
  let value := fileSnapshotStringData snapshot field
  if value.isEmpty then .error (.ofBadRequest (fileLabel snapshot ++ js " has no " ++ field)) else .ok value

def filePrimaryObjectKey (snapshot : DocumentSnapshot) : Except FrameworkError JsString :=
  requireFileSnapshotString snapshot (js "key")

def fileSnapshotFilename (snapshot : DocumentSnapshot) : Except FrameworkError JsString :=
  requireFileSnapshotString snapshot (js "filename")

def fileMultipartUploadId (snapshot : DocumentSnapshot) : Except FrameworkError JsString :=
  let uploadId := fileSnapshotStringData snapshot (js "multipart_upload_id")
  if uploadId.isEmpty then .error (.ofBadRequest (fileLabel snapshot ++ js " has no multipart upload"))
  else .ok uploadId

def ensureFilePendingMultipartUpload (snapshot : DocumentSnapshot) (allowedStates : List JsString) :
    Except FrameworkError Unit := do
  ensureFileNotDeleteRequested snapshot
  ensure (allowedStates.any (fun state => storageState snapshot == some (.str state)) &&
      !(fileSnapshotStringData snapshot (js "multipart_upload_id")).isEmpty)
    (.ofBadRequest (fileLabel snapshot ++ js " is not pending multipart upload"))

def ensureFilePendingMultipartCompletion (snapshot : DocumentSnapshot) : Except FrameworkError Unit :=
  ensureFilePendingMultipartUpload snapshot [js "upload_pending", js "upload_completing"]

/-! ## Who may do what -/

def ensureFileMultipartUploadAllowed (actor : Actor) (doctype : DocTypeDefinition) (snapshot : DocumentSnapshot)
    (ensurePendingMultipartUpload : DocumentSnapshot → Except FrameworkError Unit) : Except FrameworkError Unit := do
  ensurePendingMultipartUpload snapshot
  ensure (can actor doctype .metadata (some snapshot))
    (.denied (js "Actor '" ++ actor.id ++ js "' cannot execute multipart upload on " ++
      documentLabel doctype.name snapshot.name))

def ensureFileDeleteExpectedVersion (snapshot : DocumentSnapshot) (expectedVersion : Option Rat) :
    Except FrameworkError Unit :=
  if isFileDeleteRequested snapshot then .ok () else ensureExpectedVersion snapshot expectedVersion

def ensureFileDeleteAllowed (actor : Actor) (doctype : DocTypeDefinition) (snapshot : DocumentSnapshot)
    (expectedVersion : Option Rat) : Except FrameworkError Unit := do
  ensure (can actor doctype .delete (some snapshot))
    (.denied (js "Actor '" ++ actor.id ++ js "' cannot delete " ++ documentLabel doctype.name snapshot.name))
  ensureFileDeleteExpectedVersion snapshot expectedVersion

/-! ## Objects -/

structure FileObjectMetadata where
  key : JsString
  size : Rat
  etag : JsString
  httpEtag : Option JsString := none
  contentType : Option JsString := none
  deriving DecidableEq

def requireFileObjectMetadata (object : Option FileObjectMetadata) (fileDoctype fileName : JsString) :
    Except FrameworkError FileObjectMetadata :=
  match object with
  | some object => .ok object
  | none => .error (.notFound (documentLabel fileDoctype fileName ++ js " content was not found"))

section

variable (toLowerCase : JsString → JsString)

def normalizeContentType (value : Option JsString) : JsString :=
  (value.map (fun value => toLowerCase (Json.trim value))).getD []

def ensureDirectUploadMatches (snapshot : DocumentSnapshot) (object : FileObjectMetadata) (label : JsString) :
    Except FrameworkError Unit := do
  ensure (object.size == snapshotNumberData snapshot (js "size"))
    (.ofBadRequest (label ++ js " object size mismatch"))
  ensure (normalizeContentType toLowerCase object.contentType ==
      normalizeContentType toLowerCase (some (fileSnapshotStringData snapshot (js "content_type"))))
    (.ofBadRequest (label ++ js " object content type mismatch"))

end

/-! ## Parts of an upload -/

structure UploadedMultipartFilePart where
  partNumber : Rat
  etag : JsString
  deriving DecidableEq

structure MultipartPartManifestEntry where
  partNumber : Rat
  etag : JsString
  size : Rat
  deriving DecidableEq

def minMultipartFilePartBytes : Nat := 5 * 1024 * 1024

def isInteger (value : Rat) : Bool := value.den == 1

def isValidMultipartFilePartNumber (partNumber : Rat) : Bool :=
  isInteger partNumber && 1 ≤ partNumber && partNumber ≤ 10000

def ensureMultipartPartNumber (partNumber : Rat) : Except FrameworkError Unit :=
  ensure (isValidMultipartFilePartNumber partNumber)
    (.ofBadRequest (js "Multipart upload partNumber must be an integer from 1 to 10000"))

/-- The parts have valid numbers, and none of the numbers is among `completedParts`. -/
def ensureDistinctParts (completedParts : List Rat) : List UploadedMultipartFilePart → Except FrameworkError Unit
  | [] => .ok ()
  | part :: parts => do
      ensureMultipartPartNumber part.partNumber
      ensure (!completedParts.contains part.partNumber)
        (.ofBadRequest (js "Multipart upload part " ++ Json.numberToString part.partNumber ++
          js " was provided more than once"))
      ensureDistinctParts (part.partNumber :: completedParts) parts

def sortedUploadedMultipartParts (parts : List UploadedMultipartFilePart) :
    Except FrameworkError (List UploadedMultipartFilePart) := do
  ensure (!parts.isEmpty) (.ofBadRequest (js "At least one multipart upload part is required"))
  ensureDistinctParts [] parts
  return parts.insertionSort (fun left right => left.partNumber ≤ right.partNumber)

def ensureR2CompatibleMultipartPartSizes (partSizes : List Rat) : Except FrameworkError Unit :=
  let nonFinalPartSizes := partSizes.dropLast
  nonFinalPartSizes.forM (fun size => do
    ensure (minMultipartFilePartBytes ≤ size)
      (.ofBadRequest (js "Multipart upload parts before the final part must be at least " ++
        Json.natToString minMultipartFilePartBytes ++ js " bytes"))
    ensure (size == nonFinalPartSizes.headD 0)
      (.ofBadRequest (js "Multipart upload parts before the final part must be the same size")))

/-- An entry of `multipart_parts`, when it is one. -/
def multipartPartManifestEntry : Json → Option MultipartPartManifestEntry
  | .obj part =>
    match Record.get part (js "partNumber"), Record.get part (js "etag"), Record.get part (js "size") with
    | some (.num partNumber), some (.str etag), some (.num size) =>
      if isInteger partNumber && isInteger size then some { partNumber, etag, size } else none
    | _, _, _ => none
  | _ => none

def multipartPartManifest (snapshot : DocumentSnapshot) : List MultipartPartManifestEntry :=
  match Record.get snapshot.data (js "multipart_parts") with
  | some (.arr entries) => entries.filterMap multipartPartManifestEntry
  | _ => []

/-- The last entry of a part, as a `Map` of the manifest keeps it. -/
def recordedPart (manifest : List MultipartPartManifestEntry) (partNumber : Rat) :
    Option MultipartPartManifestEntry :=
  manifest.reverse.find? (fun part => part.partNumber == partNumber)

/-- The size of a completed part, which was uploaded before. -/
def completedPartSize (manifest : List MultipartPartManifestEntry) (completed : UploadedMultipartFilePart) :
    Except FrameworkError Rat :=
  match recordedPart manifest completed.partNumber with
  | some recorded => if recorded.etag == completed.etag then .ok recorded.size else .error notUploaded
  | none => .error notUploaded
where
  notUploaded : FrameworkError :=
    .ofBadRequest (js "Multipart upload part " ++ Json.numberToString completed.partNumber ++ js " was not uploaded")

def ensureMultipartCompletionMatchesManifest (snapshot : DocumentSnapshot)
    (completedParts : List UploadedMultipartFilePart) : Except FrameworkError Unit := do
  let orderedParts ← sortedUploadedMultipartParts completedParts
  let sizes ← orderedParts.mapM (completedPartSize (multipartPartManifest snapshot))
  ensureR2CompatibleMultipartPartSizes sizes
  ensure (sizes.sum == snapshotNumberData snapshot (js "size"))
    (.ofBadRequest (js "Multipart upload object size mismatch"))

/-! ## Scans -/

inductive FileScanSource
  | directUpload
  | multipartUpload
  deriving DecidableEq

structure FileScanTarget where
  actorId : JsString
  tenantId : TenantId
  key : JsString
  filename : JsString
  contentType : JsString
  size : Rat
  source : FileScanSource
  etag : JsString
  httpEtag : Option JsString := none
  deriving DecidableEq

/-- What a scanner says; its status is checked when it has answered. -/
structure FileScanResult where
  status : JsString
  engine : Option JsString := none
  message : Option JsString := none
  checkedAt : Option Timestamp := none
  deriving DecidableEq

/-- `fileObjectScanTarget`. -/
def fileScanTarget (actor : Actor) (tenantId : TenantId) (filename : JsString) (source : FileScanSource)
    (object : FileObjectMetadata) : FileScanTarget :=
  { actorId := actor.id, tenantId, key := object.key, filename
    contentType := object.contentType.getD (js "application/octet-stream")
    size := object.size, source, etag := object.etag, httpEtag := object.httpEtag }

def ensureValidFileScanResult (result : FileScanResult) : Except FrameworkError Unit :=
  ensure (result.status == js "clean" || result.status == js "infected")
    (.ofBadRequest (js "File scanner returned an invalid status"))

def isInfectedFileScanResult (result : Option FileScanResult) : Bool :=
  result.any (fun result => result.status == js "infected")

/-- A field that is left out when there is no text for it. -/
def optionalText (field : JsString) (value : Option JsString) : DocumentData :=
  match value with
  | some value => if value.isEmpty then [] else [(field, .str value)]
  | none => []

def fileScanPatch (result : FileScanResult) (checkedAt : Timestamp) : DocumentData :=
  [(js "scan_status", .str result.status), (js "scan_checked_at", .str (result.checkedAt.getD checkedAt))] ++
    optionalText (js "scan_engine") result.engine ++ optionalText (js "scan_message") result.message

def optionalFileScanPatch (result : Option FileScanResult) (checkedAt : Timestamp) : DocumentData :=
  (result.map (fun result => fileScanPatch result checkedAt)).getD []

def fileScanFailureError (result : FileScanResult) (snapshot : DocumentSnapshot) : FrameworkError :=
  let recorded := fileSnapshotStringData snapshot (js "scan_message")
  let message := if recorded.isEmpty then result.message.getD [] else recorded
  { code := .fileScanFailed
    message := if message.isEmpty then js "File scan failed" else js "File scan failed: " ++ message
    status := 422 }

/-! ## Commands on the document -/

/-- A command on a File document: what it is called, what it is given, and the version that it asks for. -/
structure FileDocumentCommand where
  command : JsString
  input : DocumentData
  expectedVersion : Option Rat
  deriving DecidableEq

/-- `fileUploadCompletedPatch` and `fileUploadScanFailedPatch`, which differ in the state. -/
def fileUploadPatch (state : JsString) (object : FileObjectMetadata) (scanPatch : DocumentData) : DocumentData :=
  Record.merge [(js "storage_state", .str state), (js "etag", .str (object.httpEtag.getD object.etag))] scanPatch

/-- `fileUploadCompletionPlan`. -/
def fileUploadCompletionCommand (uploadCommand : JsString) (object : FileObjectMetadata)
    (scan : Option FileScanResult) (checkedAt : Timestamp) (expectedVersion : Option Rat) : FileDocumentCommand :=
  let scanPatch := optionalFileScanPatch scan checkedAt
  if isInfectedFileScanResult scan then
    { command := js "failScan", input := fileUploadPatch (js "scan_failed") object scanPatch, expectedVersion }
  else { command := uploadCommand, input := fileUploadPatch (js "available") object scanPatch, expectedVersion }

def fileMultipartCompletionStartedCommand (snapshot : DocumentSnapshot) (expectedVersion : Option Rat) :
    Option FileDocumentCommand :=
  if isFileMultipartCompletionStarted snapshot then none
  else
    some
      { command := js "beginMultipartUploadCompletion"
        input := [(js "storage_state", .str (js "upload_completing"))]
        expectedVersion }

def fileDeleteRequestedCommand (snapshot : DocumentSnapshot) : Option FileDocumentCommand :=
  if isFileDeleteRequested snapshot then none
  else some { command := js "requestDelete", input := [], expectedVersion := some snapshot.version }

/-! ## The objects of a file -/

def optionalJsonString (value : Option Json) : Bool :=
  match value with
  | none | some (.str _) => true
  | _ => false

def optionalJsonInteger (value : Option Json) : Bool :=
  match value with
  | none => true
  | some (.num value) => isInteger value && 0 ≤ value
  | _ => false

def jsonString (value : Option Json) : Option JsString :=
  match value with
  | some (.str value) => some value
  | _ => none

def isJsonObject (value : Option Json) : Bool :=
  match value with
  | some (.obj _) => true
  | _ => false

/-- The key of an entry of `renditions`, when the entry is one. -/
def renditionKey : Json → Option JsString
  | .obj entry =>
    let member (name : JsString) : Option Json := Record.get entry name
    let status := jsonString (member (js "status"))
    if (jsonString (member (js "id"))).isSome && (jsonString (member (js "key"))).isSome &&
        [some (js "pending"), some (js "available"), some (js "failed")].contains status &&
        isJsonObject (member (js "options")) && (jsonString (member (js "requested_at"))).isSome &&
        (jsonString (member (js "requested_by"))).isSome &&
        [js "source_etag", js "overlay_file", js "overlay_key", js "overlay_etag", js "overlay_http_etag",
          js "content_type", js "etag", js "http_etag", js "generated_at", js "generated_by",
          js "failure_message"].all (fun name => optionalJsonString (member name)) &&
        optionalJsonInteger (member (js "size")) then
      jsonString (member (js "key"))
    else none
  | _ => none

/-- The keys of `fileRenditions`. -/
def fileRenditionKeys (snapshot : DocumentSnapshot) : List JsString :=
  match Record.get snapshot.data (js "renditions") with
  | some (.arr entries) => entries.filterMap renditionKey
  | _ => []

def fileObjectKeysForDelete (snapshot : DocumentSnapshot) : Except FrameworkError (List JsString) := do
  let key ← filePrimaryObjectKey snapshot
  return (key :: fileRenditionKeys snapshot).eraseDups

def fileObjectKeysForScanFailureCleanup (snapshot : DocumentSnapshot) : Except FrameworkError (List JsString) := do
  let key ← filePrimaryObjectKey snapshot
  return [key]
