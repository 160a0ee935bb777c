import CfFrappe.Application.FilePolicy
import CfFrappe.Lib.SharedState

set_option autoImplicit false

/-! # The service of files

`completeDirectUpload`, `completeMultipartUpload` and `delete` of `FileService` as programs on one File
document and an object storage. A command on the document is one step (`DocumentService.execute` commits at
the version that it has read), and the snapshot that it returns is read in a step of its own, after the
commit. No hooks are registered on the File DocType.
-/

open Utf

/-! ## Actions -/

/-- What the language and the deployment give the service. -/
structure FilePlatform where
  toLowerCase : JsString → JsString
  canonicalize : UInt16 → UInt16
  scannerConfigured : Bool
  multipartUploads : Bool

structure CompleteMultipartFileUploadCommand where
  key : JsString
  uploadId : JsString
  parts : List UploadedMultipartFilePart
  deriving DecidableEq

/-- The document of a file, and the objects of the storage. -/
structure FileWorld where
  document : Option DocumentSnapshot
  objects : JsString → Option FileObjectMetadata

inductive FileAction
  /-- `queries.getDocument` -/
  | getDocument (actor : Actor)
  /-- `documents.execute`, up to its commit -/
  | execute (actor : Actor) (name : DocumentName) (command : FileDocumentCommand)
  /-- `documents.delete`, up to its commit -/
  | deleteDocument (actor : Actor) (name : DocumentName) (expectedVersion : Rat)
  /-- the snapshot that a command on the document returns -/
  | readCommitted (command : JsString)
  | head (key : JsString)
  | completeMultipartUpload (command : CompleteMultipartFileUploadCommand)
  | deleteObject (key : JsString)
  /-- a client uploads to the storage -/
  | putObject (object : FileObjectMetadata)
  | scan (target : FileScanTarget)
  | now

def FileAction.Reply : FileAction → Type
  | .getDocument _ => Except FrameworkError DocumentSnapshot
  | .execute _ _ _ => Except FrameworkError Unit
  | .deleteDocument _ _ _ => Except FrameworkError Unit
  | .readCommitted _ => Except FrameworkError DocumentSnapshot
  | .head _ => Option FileObjectMetadata
  | .completeMultipartUpload _ => Except FrameworkError FileObjectMetadata
  | .deleteObject _ => Unit
  | .putObject _ => Unit
  | .scan _ => Except FrameworkError FileScanResult
  | .now => Timestamp

abbrev FileProgram (α : Type) := Program FileAction FileAction.Reply FrameworkError α

def FileAction.perform (action : FileAction) : FileProgram action.Reply := .act action .pure

/-! ## Commands on the document -/

section

variable (platform : FilePlatform)

/-- `DocumentService.execute` on the document that it reads: the document that it commits. -/
def executeFileCommand (document : Option DocumentSnapshot) (actor : Actor) (name : DocumentName)
    (command : FileDocumentCommand) (now : Timestamp) : Except FrameworkError DocumentSnapshot := do
  let definition ← requireDomainCommandDefinition fileDocType command.command
  let existing ← requireLiveDocumentSnapshot document fileDocType.name name
  let plan ← planDomainCommandPolicy definition { actor, document := existing, input := command.input, now }
  planDocumentActionAccess actor fileDocType plan.permissionAction existing [] (js "execute " ++ command.command ++ js " on")
  ensureDomainCommandRoleAccess actor definition command.command
  ensureExpectedVersion existing command.expectedVersion
  ensureDocumentStatus existing [.draft] (js "execute " ++ command.command)
  let issues := documentExecuteIssues platform.canonicalize (fun _ => none) fileDocType existing
    plan.allowReadOnlyFields plan.patch plan.patch [] {}
  ensure issues.isEmpty (.ofIssues issues)
  let patch := preserveReadOnlyTableValues (fun _ => none) fileDocType plan.patch existing
  return { existing with
    version := existing.version + 1, data := applyDocumentDataChange existing.data patch [], updatedAt := now }

/-- `DocumentService.delete` on the document that it reads. -/
def deleteFileDocument (document : Option DocumentSnapshot) (actor : Actor) (name : DocumentName)
    (expectedVersion : Rat) (now : Timestamp) : Except FrameworkError DocumentSnapshot := do
  let existing ← requireLiveDocumentSnapshot document fileDocType.name name
  planDocumentActionAccess actor fileDocType .delete existing [] (js "delete")
  ensureExpectedVersion existing (some expectedVersion)
  let plan := planDocumentDeletePolicy fileDocType
  ensureDocumentStatus existing plan.allowedStatus (js "delete")
  return { existing with version := existing.version + 1, docstatus := plan.nextStatus, updatedAt := now }

namespace FileWorld

/-- The object under a key is replaced or deleted. -/
def setObject (w : FileWorld) (key : JsString) (object : Option FileObjectMetadata) : FileWorld :=
  { w with objects := fun k => if k = key then object else w.objects k }

/-- How an action changes the world. A read may be refused, and a command on the document may fail for any
reason besides its own checks; a scanner may say anything. -/
def exec (w : FileWorld) : (action : FileAction) → action.Reply → FileWorld → Prop
  | .getDocument _, reply, w' =>
    ((∃ error, reply = .error error) ∨
      ∃ document, w.document = some document ∧ document.docstatus ≠ .deleted ∧ reply = .ok document) ∧ w' = w
  | .execute actor name command, reply, w' =>
    (∃ error, reply = .error error ∧ w' = w) ∨
      ∃ now document, executeFileCommand platform w.document actor name command now = .ok document ∧
        reply = .ok () ∧ w' = { w with document := some document }
  | .deleteDocument actor name expectedVersion, reply, w' =>
    (∃ error, reply = .error error ∧ w' = w) ∨
      ∃ now document, deleteFileDocument w.document actor name expectedVersion now = .ok document ∧
        reply = .ok () ∧ w' = { w with document := some document }
  | .readCommitted _, reply, w' =>
    ((∃ error, reply = .error error) ∨ ∃ document, w.document = some document ∧ reply = .ok document) ∧ w' = w
  | .head key, reply, w' => reply = w.objects key ∧ w' = w
  | .completeMultipartUpload command, reply, w' =>
    (∃ error, reply = .error error ∧ w' = w) ∨
      ∃ object, object.key = command.key ∧ reply = .ok object ∧ w' = w.setObject command.key (some object)
  | .deleteObject key, _, w' => w' = w.setObject key none
  | .putObject object, _, w' => w' = w.setObject object.key (some object)
  | .scan _, _, w' => w' = w
  | .now, _, w' => w' = w

end FileWorld

/-! ## Programs -/

namespace FileService

def getDocument (actor : Actor) : FileProgram DocumentSnapshot := do
  let reply ← (FileAction.getDocument actor).perform
  Program.ofExcept reply

def execute (actor : Actor) (name : DocumentName) (command : FileDocumentCommand) :
    FileProgram DocumentSnapshot := do
  let committed ← (FileAction.execute actor name command).perform
  Program.ofExcept committed
  let reply ← (FileAction.readCommitted command.command).perform
  Program.ofExcept reply

def deleteDocument (actor : Actor) (name : DocumentName) (expectedVersion : Rat) :
    FileProgram DocumentSnapshot := do
  let committed ← (FileAction.deleteDocument actor name expectedVersion).perform
  Program.ofExcept committed
  let reply ← (FileAction.readCommitted (js "delete")).perform
  Program.ofExcept reply

/-- `deleteFileObjects`, which throws only when the storage does. -/
def deleteFileObjects : List JsString → FileProgram Unit
  | [] => pure ()
  | key :: keys => do
      let _ ← (FileAction.deleteObject key).perform
      deleteFileObjects keys

/-- The scan of an object, when there is a scanner. -/
def scanObject (actor : Actor) (tenantId : TenantId) (filename : JsString) (source : FileScanSource)
    (object : FileObjectMetadata) : FileProgram (Option FileScanResult) :=
  if platform.scannerConfigured then do
    let reply ← (FileAction.scan (fileScanTarget actor tenantId filename source object)).perform
    let result ← Program.ofExcept reply
    Program.ofExcept (ensureValidFileScanResult result)
    return some result
  else return none

/-- The result of a scan that found something. -/
def infectedScan (scan : Option FileScanResult) : Option FileScanResult :=
  scan.filter (fun result => isInfectedFileScanResult (some result))

/-- What the commands on a file say. -/
structure FileCommand where
  actor : Actor
  name : DocumentName
  tenantId : Option TenantId := none
  expectedVersion : Option Rat := none
  deriving DecidableEq

def FileCommand.resolvedTenantId (command : FileCommand) : TenantId :=
  (command.tenantId.or command.actor.tenantId).getD defaultTenantId

/-- A file whose scan failed is marked, and its object deleted. -/
def failUpload (command : FileCommand) (snapshot : DocumentSnapshot) (completion : FileDocumentCommand)
    (failure : FileScanResult) : FileProgram DocumentSnapshot := do
  let deleteKeys ← Program.ofExcept (fileObjectKeysForScanFailureCleanup snapshot)
  let failed ← execute command.actor command.name completion
  deleteFileObjects deleteKeys
  Program.throw (fileScanFailureError failure failed)

/-- How both uploads end, once the object is scanned. -/
def finishUpload (uploadCommand : JsString) (command : FileCommand) (snapshot : DocumentSnapshot)
    (object : FileObjectMetadata) (scan : Option FileScanResult) (expectedVersion : Option Rat) :
    FileProgram DocumentSnapshot := do
  let checkedAt ← FileAction.now.perform
  let completion := fileUploadCompletionCommand uploadCommand object scan checkedAt expectedVersion
  match infectedScan scan with
  | some failure => failUpload command snapshot completion failure
  | none => execute command.actor command.name completion

def completeDirectUpload (command : FileCommand) : FileProgram DocumentSnapshot := do
  let current ← getDocument command.actor
  Program.ofExcept (ensureFilePendingDirectUpload current)
  let key ← Program.ofExcept (filePrimaryObjectKey current)
  let head ← (FileAction.head key).perform
  let object ← Program.ofExcept (requireFileObjectMetadata head fileDocType.name command.name)
  Program.ofExcept (ensureDirectUploadMatches platform.toLowerCase current object (js "Direct upload"))
  let filename ← Program.ofExcept (fileSnapshotFilename current)
  let scan ← scanObject platform command.actor command.resolvedTenantId filename .directUpload object
  finishUpload (js "completeDirectUpload") command current object scan command.expectedVersion

def requireMultipartUploads : Except FrameworkError Unit :=
  ensure platform.multipartUploads (.ofBadRequest (js "Multipart uploads are not supported by this file storage"))

/-- The document while its upload is completed: another call may have begun the completion before. -/
def startCompletion (command : FileCommand) (current : DocumentSnapshot) : FileProgram DocumentSnapshot :=
  match fileMultipartCompletionStartedCommand current command.expectedVersion with
  | some completionStart => execute command.actor command.name completionStart
  | none => pure current

/-- The object that the parts make, unless it is there already. -/
def completedMultipartObject (snapshot : DocumentSnapshot) (parts : List UploadedMultipartFilePart) :
    FileProgram FileObjectMetadata := do
  let key ← Program.ofExcept (filePrimaryObjectKey snapshot)
  let uploadId ← Program.ofExcept (fileMultipartUploadId snapshot)
  let existing ← (FileAction.head key).perform
  match existing with
  | some object => pure object
  | none => do
      let reply ← (FileAction.completeMultipartUpload { key, uploadId, parts }).perform
      Program.ofExcept reply

def completeMultipartUpload (command : FileCommand) (parts : List UploadedMultipartFilePart) :
    FileProgram DocumentSnapshot := do
  Program.ofExcept (requireMultipartUploads platform)
  let current ← getDocument command.actor
  Program.ofExcept
    (ensureFileMultipartUploadAllowed command.actor fileDocType current ensureFilePendingMultipartCompletion)
  Program.ofExcept (ensureMultipartCompletionMatchesManifest current parts)
  let completing ← startCompletion command current
  let object ← completedMultipartObject completing parts
  Program.ofExcept (ensureDirectUploadMatches platform.toLowerCase completing object (js "Multipart upload"))
  let filename ← Program.ofExcept (fileSnapshotFilename completing)
  let scan ← scanObject platform command.actor command.resolvedTenantId filename .multipartUpload object
  finishUpload (js "completeMultipartUpload") command completing object scan (some completing.version)

/-- The document whose deletion is requested. -/
def requestDelete (command : FileCommand) (current : DocumentSnapshot) : FileProgram DocumentSnapshot :=
  match fileDeleteRequestedCommand current with
  | some deleteRequest => execute command.actor command.name deleteRequest
  | none => pure current

def delete (command : FileCommand) : FileProgram DocumentSnapshot := do
  let current ← getDocument command.actor
  Program.ofExcept (ensureFileDeleteAllowed command.actor fileDocType current command.expectedVersion)
  let deleteRequested ← requestDelete command current
  let deleteKeys ← Program.ofExcept (fileObjectKeysForDelete deleteRequested)
  deleteFileObjects deleteKeys
  deleteDocument command.actor command.name deleteRequested.version

end FileService

/-- The calls on a file, and the uploads of its clients. -/
inductive FileCall
  | completeDirectUpload (command : FileService.FileCommand)
  | completeMultipartUpload (command : FileService.FileCommand) (parts : List UploadedMultipartFilePart)
  | delete (command : FileService.FileCommand)
  | upload (object : FileObjectMetadata)
  deriving DecidableEq

/-- What a call does; what it returns is not looked at. -/
def FileCall.program : FileCall → FileProgram Unit
  | .completeDirectUpload command => do let _ ← FileService.completeDirectUpload platform command
  | .completeMultipartUpload command parts => do
      let _ ← FileService.completeMultipartUpload platform command parts
  | .delete command => do let _ ← FileService.delete command
  | .upload object => do let _ ← (FileAction.putObject object).perform

end

/-- The call is on the file of that name; an upload to the storage may have any key. -/
def FileCall.IsOn (tenantId : TenantId) (name : DocumentName) : FileCall → Prop
  | .completeDirectUpload command => command.resolvedTenantId = tenantId ∧ command.name = name
  | .completeMultipartUpload command _ => command.resolvedTenantId = tenantId ∧ command.name = name
  | .delete command => command.resolvedTenantId = tenantId ∧ command.name = name
  | .upload _ => True
