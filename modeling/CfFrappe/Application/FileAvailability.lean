import CfFrappe.Application.FileService
import CfFrappe.Application.UpdateValidity

set_option autoImplicit false

/-! # Rejected files stay rejected

The commands of a File document write its state without looking at the one it has. What keeps a rejected
file (`scan_failed` or `delete_requested`) from becoming available is the version that a command asks for.
The completion of a multipart upload asks for the version that it has read; the completion of a direct
upload and the start of a multipart completion ask for none. So a file that is rejected between the read and
such a commit becomes available again, and `rejected_stays` says that nothing else makes it so.
-/

open Utf
open Discipline (wp_within)
open SharedState (wp_action wp_checked wp_mono wp_ofExcept wp_then wp_throw)

/-! ## Rejected files -/

def isRejected (document : DocumentSnapshot) : Bool := isFileScanFailed document || isFileDeleteRequested document

namespace FileWorld

def Rejected (w : FileWorld) : Prop := ∃ document, w.document = some document ∧ isRejected document = true

def Available (w : FileWorld) : Prop :=
  ∃ document, w.document = some document ∧ storageState document = some (.str (js "available"))

def Live (w : FileWorld) : Prop := ∃ document, w.document = some document ∧ document.docstatus ≠ .deleted

instance (w : FileWorld) : Decidable w.Rejected :=
  decidable_of_iff (w.document.any isRejected = true) (by simp [Rejected, Option.any_eq_true])

instance (w : FileWorld) : Decidable w.Available :=
  decidable_of_iff (w.document.any (fun document => storageState document == some (.str (js "available"))) = true)
    (by simp [Available, Option.any_eq_true])

theorem Rejected.not_available {w : FileWorld} (h : w.Rejected) : ¬ w.Available := by
  rintro ⟨document, hdocument, hstate⟩
  obtain ⟨rejected, hrejected, hstates⟩ := h
  obtain rfl := Option.some.inj (hrejected.symm.trans hdocument)
  simp only [isRejected, isFileScanFailed, isFileDeleteRequested, hstate] at hstates
  revert hstates
  decide

end FileWorld

/-! ## What the commands write -/

/-- The command marks the file as one whose scan failed or whose deletion was requested. -/
def FileDocumentCommand.Rejects (command : FileDocumentCommand) : Prop :=
  command.command = js "requestDelete" ∨
    command.command = js "failScan" ∧ Record.get command.input (js "storage_state") = some (.str (js "scan_failed"))

theorem get_pickCommandFields_head {input : DocumentData} {field : JsString} (fields : List JsString) {value : Json}
    (h : Record.get input field = some value) :
    Record.get (pickCommandFields (some (field :: fields)) input) field = some value := by
  unfold pickCommandFields
  dsimp only
  rw [List.filterMap_cons, h, Option.map_some, Record.get_cons, if_pos rfl]

section

variable {platform : FilePlatform} {document : Option DocumentSnapshot} {actor : Actor} {name : DocumentName}
variable {command : FileDocumentCommand} {now : Timestamp} {committed : DocumentSnapshot}

/-- What a command that is executed has read, and what it commits. -/
structure Executed (document : Option DocumentSnapshot) (actor : Actor) (command : FileDocumentCommand)
    (now : Timestamp) (committed existing : DocumentSnapshot) (definition : DomainCommandDefinition)
    (plan : DomainCommandPolicyPlan) : Prop where
  read : document = some existing
  declared : requireDomainCommandDefinition fileDocType command.command = .ok definition
  planned : planDomainCommandPolicy definition { actor, document := existing, input := command.input, now } = .ok plan
  atVersion : ∀ expected, command.expectedVersion = some expected → (existing.version : Rat) = expected
  version : committed.version = existing.version + 1
  state : storageState committed = (Record.get plan.patch (js "storage_state")).or (storageState existing)

theorem executed (h : executeFileCommand platform document actor name command now = .ok committed) :
    ∃ existing definition plan, Executed document actor command now committed existing definition plan := by
  unfold executeFileCommand at h
  obtain ⟨definition, hdefinition, h⟩ := except_bind_eq_ok h
  obtain ⟨existing, hexisting, h⟩ := except_bind_eq_ok h
  obtain ⟨plan, hplan, h⟩ := except_bind_eq_ok h
  iterate 2 obtain ⟨-, -, h⟩ := except_bind_eq_ok h
  obtain ⟨_, hversion, h⟩ := except_bind_eq_ok h
  iterate 2 obtain ⟨-, -, h⟩ := except_bind_eq_ok h
  obtain rfl := Except.ok.inj h
  refine ⟨existing, definition, plan, (requireLiveDocumentSnapshot_ok hexisting).1, hdefinition, hplan, ?_, rfl, ?_⟩
  · intro expected hexpected
    rw [hexpected] at hversion
    simpa using ensure_eq_ok hversion
  · have hfield : ∀ field, fileDocType.field? (js "storage_state") = some field → field.type ≠ .table := by
      decide
    have hpatch : Record.get (preserveReadOnlyTableValues (fun _ => none) fileDocType plan.patch existing)
        (js "storage_state") = Record.get plan.patch (js "storage_state") :=
      get_normalizeTableFields_of_ne_table hfield
    rw [storageState, get_applyDocumentDataChange, if_neg List.not_mem_nil, hpatch]
    rfl

/-- A command that rejects the file leaves it rejected. -/
theorem executed_rejects (h : executeFileCommand platform document actor name command now = .ok committed)
    (hrejects : command.Rejects) : isRejected committed = true := by
  obtain ⟨existing, definition, plan, hexecuted⟩ := executed h
  have hdefinition := hexecuted.declared
  have hplan := hexecuted.planned
  rcases hrejects with hname | ⟨hname, hinput⟩
  · rw [hname, show requireDomainCommandDefinition fileDocType (js "requestDelete") =
      .ok FileDoctype.requestDelete from rfl] at hdefinition
    obtain rfl := Except.ok.inj hdefinition
    obtain rfl := Except.ok.inj hplan
    have hstate : storageState committed = some (.str (js "delete_requested")) := hexecuted.state
    simp [isRejected, isFileDeleteRequested, hstate]
  · rw [hname, show requireDomainCommandDefinition fileDocType (js "failScan") =
      .ok FileDoctype.failScan from rfl] at hdefinition
    obtain rfl := Except.ok.inj hdefinition
    obtain rfl := Except.ok.inj hplan
    have hpicked : Record.get (pickCommandFields (some FileDoctype.completionFields) command.input)
        (js "storage_state") = some (.str (js "scan_failed")) :=
      get_pickCommandFields_head _ hinput
    have hstate : storageState committed = some (.str (js "scan_failed")) := by
      have hwritten := hexecuted.state
      dsimp only at hwritten
      rw [hwritten]
      exact congrArg (Option.or · _) hpicked
    simp [isRejected, isFileScanFailed, hstate]

end

/-! ## Versions -/

/-- Versions only grow, and a version stands for one document. -/
def FileWorld.Later (w w' : FileWorld) : Prop :=
  ∀ document, w.document = some document → ∃ document', w'.document = some document' ∧
    document.version ≤ document'.version ∧ (document'.version = document.version → document' = document)

/-- The file was not rejected at that version: it has left it behind, or is not rejected now. -/
def FileWorld.FineAt (w : FileWorld) (version : Nat) : Prop :=
  ∃ document, w.document = some document ∧ version ≤ document.version ∧
    (document.version = version → isRejected document = false)

variable {action : FileAction} {snapshot : DocumentSnapshot} {Q : DocumentSnapshot → FileWorld → Prop}

namespace FileWorld

variable {platform : FilePlatform} {w w' w'' : FileWorld}

theorem Later.refl (w : FileWorld) : w.Later w :=
  fun document hdocument => ⟨document, hdocument, le_rfl, fun _ => rfl⟩

theorem Later.of_document_eq (h : w'.document = w.document) : w.Later w' :=
  fun document hdocument => ⟨document, h.trans hdocument, le_rfl, fun _ => rfl⟩

theorem Later.trans (h : w.Later w') (h' : w'.Later w'') : w.Later w'' := by
  intro document hdocument
  obtain ⟨document', hdocument', hle, heq⟩ := h document hdocument
  obtain ⟨document'', hdocument'', hle', heq'⟩ := h' document' hdocument'
  refine ⟨document'', hdocument'', hle.trans hle', ?_⟩
  intro hversion
  have hmiddle : document'.version = document.version := by omega
  have hlast : document''.version = document'.version := by omega
  rw [heq' hlast, heq hmiddle]

theorem FineAt.later {version : Nat} (h : w.FineAt version) (hlater : w.Later w') : w'.FineAt version := by
  obtain ⟨document, hdocument, hle, hfine⟩ := h
  obtain ⟨document', hdocument', hle', heq⟩ := hlater document hdocument
  refine ⟨document', hdocument', hle.trans hle', ?_⟩
  intro hversion
  have hsame : document'.version = document.version := by omega
  rw [heq hsame]
  exact hfine (by omega)

theorem fineAt_of_not_rejected {document : DocumentSnapshot} (hdocument : w.document = some document)
    (h : ¬ w.Rejected) : w.FineAt document.version := by
  refine ⟨document, hdocument, le_rfl, fun _ => ?_⟩
  by_contra hrejected
  exact h ⟨document, hdocument, by simpa using hrejected⟩

/-- A document that is executed at the version of a fine one is fine. -/
theorem FineAt.not_rejected {version : Nat} (h : w.FineAt version) {existing : DocumentSnapshot}
    (hexisting : w.document = some existing) (hversion : existing.version = version) : ¬ w.Rejected := by
  rintro ⟨document, hdocument, hrejected⟩
  obtain ⟨fine, hfine, -, hstate⟩ := h
  obtain rfl := Option.some.inj (hdocument.symm.trans hexisting)
  obtain rfl := Option.some.inj (hfine.symm.trans hexisting)
  rw [hstate hversion] at hrejected
  cases hrejected

theorem exec_later {reply : action.Reply} (h : w.exec platform action reply w') : w.Later w' := by
  cases action with
  | execute actor name command =>
    rcases h with ⟨error, -, rfl⟩ | ⟨now, committed, hexecute, -, rfl⟩
    · exact .refl _
    · obtain ⟨existing, definition, plan, hexecuted⟩ := executed hexecute
      intro document hdocument
      obtain rfl := Option.some.inj (hdocument.symm.trans hexecuted.read)
      have hversion := hexecuted.version
      exact ⟨committed, rfl, by omega, fun hsame => by omega⟩
  | deleteDocument actor name expectedVersion =>
    rcases h with ⟨error, -, rfl⟩ | ⟨now, committed, hdelete, -, rfl⟩
    · exact .refl _
    · unfold deleteFileDocument at hdelete
      obtain ⟨existing, hexisting, hdelete⟩ := except_bind_eq_ok hdelete
      iterate 3 obtain ⟨-, -, hdelete⟩ := except_bind_eq_ok hdelete
      obtain rfl := Except.ok.inj hdelete
      intro document hdocument
      obtain rfl := Option.some.inj (hdocument.symm.trans (requireLiveDocumentSnapshot_ok hexisting).1)
      exact ⟨_, rfl, Nat.le_succ _, fun hsame => absurd hsame (Nat.succ_ne_self _)⟩
  | getDocument actor => exact .of_document_eq (by rw [h.2])
  | readCommitted command => exact .of_document_eq (by rw [h.2])
  | head key => exact .of_document_eq (by rw [h.2])
  | completeMultipartUpload command =>
    rcases h with ⟨error, -, rfl⟩ | ⟨object, -, -, rfl⟩
    · exact .refl _
    · exact .of_document_eq rfl
  | deleteObject key => exact .of_document_eq (by rw [show w' = _ from h]; rfl)
  | putObject object => exact .of_document_eq (by rw [show w' = _ from h]; rfl)
  | scan target => exact .of_document_eq (by rw [show w' = _ from h])
  | now => exact .of_document_eq (by rw [show w' = _ from h])

end FileWorld

/-! ## What the programs perform -/

namespace FileService

open Program

section

variable {P : FileAction → Prop} {platform : FilePlatform} {actor : Actor} {name : DocumentName}

theorem within_getDocument (h : P (.getDocument actor)) : (getDocument actor).Within P :=
  (Within.perform h).bind (fun _ => Within.ofExcept _)

theorem within_execute {command : FileDocumentCommand} (h : P (.execute actor name command))
    (hread : P (.readCommitted command.command)) : (execute actor name command).Within P := by
  apply (Within.perform h).bind
  intro committed
  apply (Within.ofExcept _).bind
  intro _
  exact (Within.perform hread).bind (fun _ => Within.ofExcept _)

theorem within_deleteDocument {expectedVersion : Rat} (h : P (.deleteDocument actor name expectedVersion))
    (hread : P (.readCommitted (js "delete"))) : (deleteDocument actor name expectedVersion).Within P := by
  apply (Within.perform h).bind
  intro committed
  apply (Within.ofExcept _).bind
  intro _
  exact (Within.perform hread).bind (fun _ => Within.ofExcept _)

theorem within_deleteFileObjects (h : ∀ key, P (.deleteObject key)) (keys : List JsString) :
    (deleteFileObjects keys).Within P := by
  induction keys with
  | nil => exact Within.pure _
  | cons key keys ih => exact (Within.perform (h key)).bind (fun _ => ih)

theorem within_scanObject {tenantId : TenantId} {filename : JsString} {source : FileScanSource}
    {object : FileObjectMetadata} (h : ∀ target, P (.scan target)) :
    (scanObject platform actor tenantId filename source object).Within P := by
  unfold scanObject
  split
  · apply (Within.perform (h _)).bind
    intro reply
    apply (Within.ofExcept _).bind
    intro result
    exact (Within.ofExcept _).bind (fun _ => Within.pure _)
  · exact Within.pure _

theorem within_completedMultipartObject {parts : List UploadedMultipartFilePart} (hhead : ∀ key, P (.head key))
    (h : ∀ command, P (.completeMultipartUpload command)) :
    (completedMultipartObject snapshot parts).Within P := by
  apply (Within.ofExcept _).bind
  intro key
  apply (Within.ofExcept _).bind
  intro uploadId
  apply (Within.perform (hhead _)).bind
  intro existing
  cases existing with
  | some object => exact Within.pure _
  | none => exact (Within.perform (h _)).bind (fun _ => Within.ofExcept _)

end

end FileService

/-! ## Commits -/

/-- The commands that the service executes at any version. -/
def unversionedCommands : List JsString := [js "completeDirectUpload", js "beginMultipartUploadCompletion"]

/-- An upload goes on only on a file that was not rejected meanwhile: where a command is committed that asks
for no version, and where the start of a completion is read back. -/
def GoesOn (w : FileWorld) : (action : FileAction) → action.Reply → Prop
  | .execute _ _ command, reply => reply = .ok () → command.command ∈ unversionedCommands → ¬ w.Rejected
  | .readCommitted command, _ => command = js "beginMultipartUploadCompletion" → ¬ w.Rejected
  | _, _ => True

/-- A command that is committed rejects the file, or finds it not rejected. -/
def Guarded (w : FileWorld) : (action : FileAction) → action.Reply → Prop
  | .execute _ _ command, reply =>
    (command.command = js "failScan" → command.Rejects) ∧ (reply = .ok () → command.Rejects ∨ ¬ w.Rejected)
  | _, _ => True

/-- Calls on a file that go on only as `GoesOn` says; their commits are to be guarded. -/
def committing (platform : FilePlatform) : SharedState FileWorld FileAction FileAction.Reply where
  exec w action reply w' := w.exec platform action reply w' ∧ GoesOn w action reply
  le := FileWorld.Later
  le_refl := FileWorld.Later.refl
  le_trans := FileWorld.Later.trans
  exec_le h := FileWorld.exec_later h.1
  Inv _ := True
  Good := Guarded

/-- The action executes no command. -/
def FileAction.Quiet : FileAction → Prop
  | .execute _ _ _ => False
  | _ => True

theorem FileAction.Quiet.guarded (h : action.Quiet) (w : FileWorld) (reply : action.Reply) :
    Guarded w action reply := by
  cases action with
  | execute actor name command => exact absurd h id
  | _ => trivial

namespace FileService

section

variable {platform : FilePlatform} {α : Type} {w : FileWorld}

/-- What executes no command only waits for others. -/
theorem wp_quiet {p : FileProgram α} {Q : α → FileWorld → Prop} (hp : p.Within FileAction.Quiet)
    (h : ∀ a w', w.Later w' → Q a w') : (committing platform).Wp p Q w := by
  apply wp_within hp ?_ trivial
  · intro a w' hrely _
    exact h a w' hrely.le
  · intro action hquiet s reply t _ hexec
    have hlater := (committing platform).exec_le hexec
    exact ⟨⟨hlater, trivial, hquiet.guarded s reply, fun i => i.elim⟩, ⟨hlater, fun i => i.elim⟩, fun i => i.elim⟩

/-- A document that is read is the one of that moment. -/
theorem wp_getDocument {actor : Actor} (h : ∀ document w', w.Later w' → w'.document = some document → Q document w') :
    (committing platform).Wp (getDocument actor) Q w := by
  apply wp_then
  apply wp_action
  rintro w' reply w'' hlater _ ⟨⟨hreply, rfl⟩, -⟩
  refine ⟨trivial, trivial, ?_⟩
  apply wp_ofExcept
  rintro document rfl
  rcases hreply with ⟨error, herror⟩ | ⟨found, hdocument, -, hfound⟩
  · cases herror
  · obtain rfl := Except.ok.inj hfound
    exact h document _ hlater hdocument

/-- A command that is executed meets `GoesOn` and its own version; what it returns is read later. -/
theorem wp_execute {actor : Actor} {name : DocumentName} {command : FileDocumentCommand}
    (hscan : command.command = js "failScan" → command.Rejects)
    (hcommit : ∀ w', w.Later w' → (command.command ∈ unversionedCommands → ¬ w'.Rejected) →
      (∀ expected, command.expectedVersion = some expected → ∃ existing, w'.document = some existing ∧
        (existing.version : Rat) = expected) → command.Rejects ∨ ¬ w'.Rejected)
    (hread : ∀ document w', w.Later w' → w'.document = some document →
      (command.command = js "beginMultipartUploadCompletion" → ¬ w'.Rejected) → Q document w') :
    (committing platform).Wp (execute actor name command) Q w := by
  apply wp_then
  apply wp_action
  rintro w' reply w'' hlater _ ⟨hexec, hgoes⟩
  have hlater' : w.Later w'' := hlater.trans (FileWorld.exec_later hexec)
  refine ⟨trivial, ⟨hscan, ?_⟩, ?_⟩
  · rintro rfl
    apply hcommit w' hlater (hgoes rfl)
    intro expected hexpected
    rcases hexec with ⟨error, herror, -⟩ | ⟨now, committed, hexecute, -, -⟩
    · cases herror
    · obtain ⟨existing, definition, plan, hexecuted⟩ := executed hexecute
      exact ⟨existing, hexecuted.read, hexecuted.atVersion expected hexpected⟩
  · apply wp_checked
    rintro - -
    apply wp_then
    apply wp_action
    rintro v reply' v' hlater'' _ ⟨⟨hreply, rfl⟩, hgoes'⟩
    refine ⟨trivial, trivial, ?_⟩
    apply wp_ofExcept
    rintro document rfl
    rcases hreply with ⟨error, herror⟩ | ⟨found, hdocument, hfound⟩
    · cases herror
    · obtain rfl := Except.ok.inj hfound
      exact hread document _ (hlater'.trans hlater'') hdocument hgoes'

end

end FileService

/-! ### Completions -/

/-- A scan does not write the state. -/
theorem get_optionalFileScanPatch (scan : Option FileScanResult) (checkedAt : Timestamp) :
    Record.get (optionalFileScanPatch scan checkedAt) (js "storage_state") = none := by
  have htext : ∀ (field : JsString) (value : Option JsString), field ≠ js "storage_state" →
      Record.get (optionalText field value) (js "storage_state") = none := by
    intro field value hne
    cases value with
    | none => rfl
    | some value =>
      unfold optionalText
      dsimp only
      split_ifs
      · rfl
      · rw [Record.get_cons, if_neg hne, Record.get_nil]
  cases scan with
  | none => rfl
  | some result =>
    rw [optionalFileScanPatch, Option.map_some, Option.getD_some, fileScanPatch, Record.get_append,
      Record.get_append, htext _ _ (by decide), htext _ _ (by decide), Option.or_none, Option.or_none,
      Record.get_cons, if_neg (show js "scan_status" ≠ js "storage_state" by decide), Record.get_cons,
      if_neg (show js "scan_checked_at" ≠ js "storage_state" by decide), Record.get_nil]

theorem get_fileUploadPatch (state : JsString) (object : FileObjectMetadata) (scan : Option FileScanResult)
    (checkedAt : Timestamp) :
    Record.get (fileUploadPatch state object (optionalFileScanPatch scan checkedAt)) (js "storage_state") =
      some (.str state) := by
  rw [fileUploadPatch, Record.get_merge, get_optionalFileScanPatch, Option.none_or, Record.get_cons, if_pos rfl]

section

variable {uploadCommand : JsString} {object : FileObjectMetadata} {scan : Option FileScanResult}
variable {checkedAt : Timestamp} {expectedVersion : Option Rat}

theorem fileUploadCompletionCommand_infected (h : isInfectedFileScanResult scan = true) :
    (fileUploadCompletionCommand uploadCommand object scan checkedAt expectedVersion).Rejects := by
  rw [fileUploadCompletionCommand, if_pos h]
  exact Or.inr ⟨rfl, get_fileUploadPatch _ _ _ _⟩

theorem fileUploadCompletionCommand_clean (h : ¬ isInfectedFileScanResult scan = true) :
    (fileUploadCompletionCommand uploadCommand object scan checkedAt expectedVersion).command = uploadCommand ∧
      (fileUploadCompletionCommand uploadCommand object scan checkedAt expectedVersion).expectedVersion =
        expectedVersion := by
  rw [fileUploadCompletionCommand, if_neg h]
  exact ⟨rfl, rfl⟩

/-- The upload fails exactly when the scan found something. -/
theorem infectedScan_eq_some {failure : FileScanResult} (h : FileService.infectedScan scan = some failure) :
    isInfectedFileScanResult scan = true := by
  obtain ⟨rfl, hfailure⟩ := Option.filter_eq_some_iff.mp h
  exact hfailure

theorem infectedScan_eq_none (h : FileService.infectedScan scan = none) : ¬ isInfectedFileScanResult scan = true := by
  intro hinfected
  cases scan with
  | none => cases hinfected
  | some result =>
    rw [FileService.infectedScan, Option.filter_some, if_pos hinfected] at h
    cases h

end

namespace FileService

section

variable {platform : FilePlatform} {w : FileWorld}

/-- **The end of an upload.** A file whose upload is completed is not rejected: because the command asks for
the version of a fine document, or because of `GoesOn`. -/
theorem wp_finishUpload {uploadCommand : JsString} {command : FileCommand} {object : FileObjectMetadata}
    {scan : Option FileScanResult} {expectedVersion : Option Rat}
    (h : uploadCommand = js "completeDirectUpload" ∨ uploadCommand = js "completeMultipartUpload" ∧
      ∃ version : Nat, expectedVersion = some (version : Rat) ∧ w.FineAt version) :
    (committing platform).Wp (finishUpload uploadCommand command snapshot object scan expectedVersion)
      (fun _ _ => True) w := by
  have hnotScan : uploadCommand ≠ js "failScan" := by
    rcases h with rfl | ⟨rfl, -⟩ <;> decide
  apply wp_then
  apply wp_quiet (Program.Within.perform (show FileAction.Quiet .now from trivial))
  intro checkedAt w₁ hlater
  dsimp only
  -- an infected file is rejected, whatever the version; a clean one goes on with its own command
  cases hinfected : infectedScan scan with
  | some failure =>
    have hrejects : (fileUploadCompletionCommand uploadCommand object scan checkedAt expectedVersion).Rejects :=
      fileUploadCompletionCommand_infected (infectedScan_eq_some hinfected)
    apply wp_checked
    intro deleteKeys _
    apply wp_then
    apply wp_execute (fun _ => hrejects) (fun _ _ _ _ => Or.inl hrejects)
    intro failed w₂ _ _ _
    apply wp_then
    apply wp_quiet (within_deleteFileObjects (fun _ => trivial) deleteKeys)
    intro _ w₃ _
    exact wp_throw
  | none =>
    have hclean : (fileUploadCompletionCommand uploadCommand object scan checkedAt expectedVersion).command =
        uploadCommand ∧
        (fileUploadCompletionCommand uploadCommand object scan checkedAt expectedVersion).expectedVersion =
          expectedVersion :=
      fileUploadCompletionCommand_clean (infectedScan_eq_none hinfected)
    obtain ⟨hcommand, hversion⟩ := hclean
    apply wp_execute
    · intro hscan
      exact absurd (hcommand.symm.trans hscan) hnotScan
    · intro w₂ hlater' hgoes hread
      apply Or.inr
      rcases h with rfl | ⟨rfl, version, rfl, hfine⟩
      · exact hgoes (by rw [hcommand]; decide)
      · obtain ⟨existing, hexisting, hsame⟩ := hread _ hversion
        exact (hfine.later (hlater.trans hlater')).not_rejected hexisting (by exact_mod_cast hsame)
    · intro _ _ _ _ _
      trivial

end

end FileService

/-! ### The calls -/

/-- A completion that is read as started or pending is not rejected. -/
theorem ensureFilePendingMultipartCompletion_ok {u : Unit} (h : ensureFilePendingMultipartCompletion snapshot = .ok u) :
    isRejected snapshot = false := by
  unfold ensureFilePendingMultipartCompletion ensureFilePendingMultipartUpload at h
  obtain ⟨-, -, h⟩ := except_bind_eq_ok h
  have hallowed := ensure_eq_ok h
  rw [Bool.and_eq_true, List.any_eq_true] at hallowed
  obtain ⟨⟨state, hstate, hsame⟩, -⟩ := hallowed
  rw [beq_iff_eq] at hsame
  rw [isRejected, isFileScanFailed, isFileDeleteRequested, hsame]
  simp only [List.mem_cons, List.not_mem_nil, or_false] at hstate
  rcases hstate with rfl | rfl <;> decide

namespace FileService

section

variable {platform : FilePlatform} {w : FileWorld}

theorem wp_completeDirectUpload (command : FileCommand) :
    (committing platform).Wp (completeDirectUpload platform command) (fun _ _ => True) w := by
  unfold completeDirectUpload
  apply wp_then
  apply wp_quiet (within_getDocument (show FileAction.Quiet (.getDocument _) from trivial))
  intro current w₁ _
  apply wp_checked
  intro _ _
  apply wp_checked
  intro key _
  apply wp_then
  apply wp_quiet (Program.Within.perform (show FileAction.Quiet (.head key) from trivial))
  intro head w₂ _
  iterate 3
    apply wp_checked
    intro _ _
  apply wp_then
  apply wp_quiet (within_scanObject (fun _ => trivial))
  intro scan w₃ _
  exact wp_finishUpload (Or.inl rfl)

/-- While an upload is completed, the version of its document is that of a fine one. -/
theorem wp_startCompletion {command : FileCommand} {current : DocumentSnapshot} (hcurrent : w.FineAt current.version) :
    (committing platform).Wp (startCompletion command current)
      (fun completing w' => w'.FineAt completing.version) w := by
  unfold startCompletion
  cases hstart : fileMultipartCompletionStartedCommand current command.expectedVersion with
  | none => exact hcurrent
  | some completionStart =>
    have hname : completionStart.command = js "beginMultipartUploadCompletion" := by
      unfold fileMultipartCompletionStartedCommand at hstart
      split_ifs at hstart
      obtain rfl := Option.some.inj hstart
      rfl
    apply wp_execute
    · intro hscan
      exact absurd (hname.symm.trans hscan) (by decide)
    · intro w' _ hgoes _
      exact Or.inr (hgoes (by rw [hname]; decide))
    · intro document w' _ hdocument hread
      exact FileWorld.fineAt_of_not_rejected hdocument (hread hname)

theorem wp_completeMultipartUpload (command : FileCommand) (parts : List UploadedMultipartFilePart) :
    (committing platform).Wp (completeMultipartUpload platform command parts) (fun _ _ => True) w := by
  unfold completeMultipartUpload
  apply wp_checked
  intro _ _
  apply wp_then
  apply wp_getDocument
  intro current w₁ _ hcurrent
  apply wp_checked
  intro _ hallowed
  have hfine : w₁.FineAt current.version := by
    unfold ensureFileMultipartUploadAllowed at hallowed
    obtain ⟨_, hpending, -⟩ := except_bind_eq_ok hallowed
    exact ⟨current, hcurrent, le_rfl, fun _ => ensureFilePendingMultipartCompletion_ok hpending⟩
  apply wp_checked
  intro _ _
  apply wp_then
  apply wp_mono (wp_startCompletion hfine)
  intro completing w₂ hcompleting
  apply wp_then
  apply wp_quiet (within_completedMultipartObject (fun _ => trivial) (fun _ => trivial))
  intro object w₃ hlater
  iterate 2
    apply wp_checked
    intro _ _
  apply wp_then
  apply wp_quiet (within_scanObject (fun _ => trivial))
  intro scan w₄ hlater'
  exact wp_finishUpload (Or.inr ⟨rfl, completing.version, rfl, hcompleting.later (hlater.trans hlater')⟩)

theorem requestDelete_rejects {current : DocumentSnapshot} {deleteRequest : FileDocumentCommand}
    (h : fileDeleteRequestedCommand current = some deleteRequest) :
    deleteRequest.command = js "requestDelete" := by
  unfold fileDeleteRequestedCommand at h
  split_ifs at h
  obtain rfl := Option.some.inj h
  rfl

theorem wp_delete (command : FileCommand) : (committing platform).Wp (delete command) (fun _ _ => True) w := by
  apply wp_then
  apply wp_quiet (within_getDocument (show FileAction.Quiet (.getDocument _) from trivial))
  intro current w₁ _
  apply wp_checked
  intro _ _
  apply wp_then
  have hrest : ∀ (deleteRequested : DocumentSnapshot) (w' : FileWorld), (committing platform).Wp (do
      let deleteKeys ← Program.ofExcept (fileObjectKeysForDelete deleteRequested)
      deleteFileObjects deleteKeys
      deleteDocument command.actor command.name deleteRequested.version) (fun _ _ => True) w' := by
    intro deleteRequested w'
    apply wp_checked
    intro deleteKeys _
    apply wp_then
    apply wp_quiet (within_deleteFileObjects (fun _ => trivial) deleteKeys)
    intro _ w'' _
    exact wp_quiet (within_deleteDocument trivial trivial) (fun _ _ _ => trivial)
  unfold requestDelete
  cases hrequest : fileDeleteRequestedCommand current with
  | none => exact hrest current w₁
  | some deleteRequest =>
    have hname := requestDelete_rejects hrequest
    apply wp_execute (fun _ => Or.inl hname) (fun _ _ _ _ => Or.inl (Or.inl hname))
    intro deleteRequested w' _ _ _
    exact hrest deleteRequested w'

end

end FileService

/-- A run of calls on a file. -/
abbrev FileRun (platform : FilePlatform) (admitted : FileCall → Prop) (init : FileWorld)
    (threads : List (FileCall × FileProgram Unit)) (w : FileWorld)
    (steps : List (RunStep FileCall FileWorld FileAction FileAction.Reply)) : Prop :=
  Run (FileWorld.exec platform) (FileCall.program platform) admitted init threads w steps

theorem FileCall.wp_program {platform : FilePlatform} (call : FileCall) (w : FileWorld) :
    (committing platform).Wp (call.program platform) (fun _ _ => True) w := by
  cases call with
  | completeDirectUpload command => exact wp_then (FileService.wp_completeDirectUpload command)
  | completeMultipartUpload command parts =>
    exact wp_then (FileService.wp_completeMultipartUpload command parts)
  | delete command => exact wp_then (FileService.wp_delete command)
  | upload object =>
    apply wp_then
    exact FileService.wp_quiet (Program.Within.perform (show FileAction.Quiet (.putObject object) from trivial))
      (fun _ _ _ => trivial)

/-- **Every commit is guarded.** -/
theorem FileRun.guarded {platform : FilePlatform} {admitted : FileCall → Prop} {init w : FileWorld}
    {threads : List (FileCall × FileProgram Unit)} {steps : List (RunStep FileCall FileWorld FileAction FileAction.Reply)}
    (hrun : FileRun platform admitted init threads w steps)
    (hgoes : ∀ step ∈ steps, GoesOn step.before step.action step.reply) :
    ∀ step ∈ steps, Guarded step.before step.action step.reply := by
  have hrun' : Run (committing platform).exec (FileCall.program platform) admitted init threads w steps := by
    apply hrun.strengthen
    intro step hstep
    exact ⟨hrun.leads.exec_of_mem hstep, hgoes step hstep⟩
  have hsteps := (SharedState.run (Q := fun _ _ _ => True) hrun' trivial (fun call w _ _ => call.wp_program w)).2
  intro step hstep
  exact (hsteps step hstep).2.1

/-! ## Deletions -/

/-- An object is deleted only while the file is rejected. -/
def DeletesRejected (w : FileWorld) : (action : FileAction) → action.Reply → Prop
  | .deleteObject _, _ => w.Rejected
  | _, _ => True

/-- A guarded step leaves a rejected file rejected. -/
theorem Guarded.rejected {platform : FilePlatform} {w w' : FileWorld} {reply : action.Reply}
    (h : Guarded w action reply) (hexec : w.exec platform action reply w') (hrejected : w.Rejected) : w'.Rejected := by
  have hkept : w'.document = w.document → w'.Rejected := by
    intro hsame
    obtain ⟨document, hdocument, hstate⟩ := hrejected
    exact ⟨document, hsame.trans hdocument, hstate⟩
  cases action with
  | execute actor name command =>
    rcases hexec with ⟨error, -, rfl⟩ | ⟨now, committed, hexecute, rfl, rfl⟩
    · exact hrejected
    · have hrejects := (h.2 rfl).resolve_right (not_not_intro hrejected)
      exact ⟨committed, rfl, executed_rejects hexecute hrejects⟩
  | deleteDocument actor name expectedVersion =>
    rcases hexec with ⟨error, -, rfl⟩ | ⟨now, committed, hdelete, -, rfl⟩
    · exact hrejected
    · -- a deleted document keeps its data
      unfold deleteFileDocument at hdelete
      obtain ⟨existing, hexisting, hdelete⟩ := except_bind_eq_ok hdelete
      iterate 3 obtain ⟨-, -, hdelete⟩ := except_bind_eq_ok hdelete
      obtain rfl := Except.ok.inj hdelete
      obtain ⟨document, hdocument, hstate⟩ := hrejected
      obtain rfl := Option.some.inj (hdocument.symm.trans (requireLiveDocumentSnapshot_ok hexisting).1)
      exact ⟨_, rfl, hstate⟩
  | getDocument actor => exact hkept (by rw [hexec.2])
  | readCommitted command => exact hkept (by rw [hexec.2])
  | head key => exact hkept (by rw [hexec.2])
  | completeMultipartUpload command =>
    rcases hexec with ⟨error, -, rfl⟩ | ⟨object, -, -, rfl⟩
    · exact hrejected
    · exact hkept rfl
  | deleteObject key => exact hkept (by rw [show w' = _ from hexec]; rfl)
  | putObject object => exact hkept (by rw [show w' = _ from hexec]; rfl)
  | scan target => exact hkept (by rw [show w' = _ from hexec])
  | now => exact hkept (by rw [show w' = _ from hexec])

/-- Calls on a file whose commits are guarded; their deletions are to be of rejected files. -/
def deleting (platform : FilePlatform) : SharedState FileWorld FileAction FileAction.Reply where
  exec w action reply w' := w.exec platform action reply w' ∧ Guarded w action reply
  le w w' := w.Rejected → w'.Rejected
  le_refl _ := id
  le_trans h h' := h' ∘ h
  exec_le h := h.2.rejected h.1
  Inv _ := True
  Good := DeletesRejected

/-- The action deletes no object. -/
def FileAction.Keeping : FileAction → Prop
  | .deleteObject _ => False
  | _ => True

theorem FileAction.Keeping.deletesRejected (h : action.Keeping) (w : FileWorld) (reply : action.Reply) :
    DeletesRejected w action reply := by
  cases action with
  | deleteObject key => exact absurd h id
  | _ => trivial

namespace FileService

section

variable {platform : FilePlatform} {α : Type} {w : FileWorld}

/-- What deletes nothing only waits for others. -/
theorem wp_keeping {p : FileProgram α} {Q : α → FileWorld → Prop} (hp : p.Within FileAction.Keeping)
    (h : ∀ a w', (w.Rejected → w'.Rejected) → Q a w') : (deleting platform).Wp p Q w := by
  apply wp_within hp ?_ trivial
  · intro a w' hrely _
    exact h a w' hrely.le
  · intro action hkeeping s reply t _ hexec
    have hle := (deleting platform).exec_le hexec
    exact ⟨⟨hle, trivial, hkeeping.deletesRejected s reply, fun i => i.elim⟩, ⟨hle, fun i => i.elim⟩,
      fun i => i.elim⟩

theorem wp_deleteFileObjects {keys : List JsString} {Q : Unit → FileWorld → Prop} (hrejected : w.Rejected)
    (h : ∀ w', Q () w') : (deleting platform).Wp (deleteFileObjects keys) Q w := by
  induction keys generalizing w with
  | nil => exact h w
  | cons key keys ih =>
    apply wp_then
    apply wp_action
    intro w' reply w'' hle _ hexec
    exact ⟨trivial, hle hrejected, ih ((deleting platform).exec_le hexec (hle hrejected))⟩

/-- A command that rejects the file is executed before anything is deleted. -/
theorem wp_execute_rejects {actor : Actor} {name : DocumentName} {command : FileDocumentCommand}
    (hrejects : command.Rejects) (h : ∀ document w', w'.Rejected → Q document w') :
    (deleting platform).Wp (execute actor name command) Q w := by
  apply wp_then
  apply wp_action
  intro w' reply w'' _ _ hexec
  refine ⟨trivial, trivial, ?_⟩
  apply wp_checked
  rintro ⟨⟩ rfl
  rcases hexec.1 with ⟨error, herror, -⟩ | ⟨now, committed, hexecute, -, rfl⟩
  · cases herror
  · have hrejected : FileWorld.Rejected { w' with document := some committed } :=
      ⟨committed, rfl, executed_rejects hexecute hrejects⟩
    apply wp_keeping ((Program.Within.perform (show FileAction.Keeping (.readCommitted _) from trivial)).bind
      (fun _ => Program.Within.ofExcept _))
    intro document v hle
    exact h document v (hle hrejected)

theorem wp_finishUpload_deletes {uploadCommand : JsString} {command : FileCommand} {object : FileObjectMetadata}
    {scan : Option FileScanResult} {expectedVersion : Option Rat} :
    (deleting platform).Wp (finishUpload uploadCommand command snapshot object scan expectedVersion)
      (fun _ _ => True) w := by
  apply wp_then
  apply wp_keeping (Program.Within.perform (show FileAction.Keeping .now from trivial))
  intro checkedAt w₁ _
  dsimp only
  cases hinfected : infectedScan scan with
  | some failure =>
    apply wp_checked
    intro deleteKeys _
    apply wp_then
    apply wp_execute_rejects (fileUploadCompletionCommand_infected (infectedScan_eq_some hinfected))
    intro failed w₂ hrejected
    apply wp_then
    apply wp_deleteFileObjects hrejected
    intro w₃
    exact wp_throw
  | none => exact wp_keeping (within_execute trivial trivial) (fun _ _ _ => trivial)

theorem wp_completeDirectUpload_deletes (command : FileCommand) :
    (deleting platform).Wp (completeDirectUpload platform command) (fun _ _ => True) w := by
  unfold completeDirectUpload
  apply wp_then
  apply wp_keeping (within_getDocument (show FileAction.Keeping (.getDocument _) from trivial))
  intro current w₁ _
  iterate 2
    apply wp_checked
    intro _ _
  apply wp_then
  apply wp_keeping (Program.Within.perform (show FileAction.Keeping (.head _) from trivial))
  intro head w₂ _
  iterate 3
    apply wp_checked
    intro _ _
  apply wp_then
  apply wp_keeping (within_scanObject (fun _ => trivial))
  intro scan w₃ _
  exact wp_finishUpload_deletes

theorem within_startCompletion (command : FileCommand) (current : DocumentSnapshot) :
    (startCompletion command current).Within FileAction.Keeping := by
  unfold startCompletion
  cases fileMultipartCompletionStartedCommand current command.expectedVersion with
  | none => exact Program.Within.pure _
  | some completionStart => exact within_execute trivial trivial

theorem wp_completeMultipartUpload_deletes (command : FileCommand) (parts : List UploadedMultipartFilePart) :
    (deleting platform).Wp (completeMultipartUpload platform command parts) (fun _ _ => True) w := by
  unfold completeMultipartUpload
  apply wp_checked
  intro _ _
  apply wp_then
  apply wp_keeping (within_getDocument (show FileAction.Keeping (.getDocument _) from trivial))
  intro current w₁ _
  iterate 2
    apply wp_checked
    intro _ _
  apply wp_then
  apply wp_keeping (within_startCompletion command current)
  intro completing w₂ _
  apply wp_then
  apply wp_keeping (within_completedMultipartObject (fun _ => trivial) (fun _ => trivial))
  intro object w₃ _
  iterate 2
    apply wp_checked
    intro _ _
  apply wp_then
  apply wp_keeping (within_scanObject (fun _ => trivial))
  intro scan w₄ _
  exact wp_finishUpload_deletes

/-- Objects are deleted once the deletion is requested, by this call or by an earlier one. -/
theorem wp_delete_deletes (command : FileCommand) :
    (deleting platform).Wp (delete command) (fun _ _ => True) w := by
  -- from a rejected document on, the objects may be deleted
  have hrest : ∀ (deleteRequested : DocumentSnapshot) (w' : FileWorld), w'.Rejected →
      (deleting platform).Wp (do
        let deleteKeys ← Program.ofExcept (fileObjectKeysForDelete deleteRequested)
        deleteFileObjects deleteKeys
        deleteDocument command.actor command.name deleteRequested.version) (fun _ _ => True) w' := by
    intro deleteRequested w' hrejected
    apply wp_checked
    intro deleteKeys _
    apply wp_then
    apply wp_deleteFileObjects hrejected
    intro w''
    exact wp_keeping (within_deleteDocument trivial trivial) (fun _ _ _ => trivial)
  unfold delete getDocument
  apply wp_then
  apply wp_then
  apply wp_action
  rintro w' reply w'' _ _ ⟨⟨hreply, rfl⟩, -⟩
  refine ⟨trivial, trivial, ?_⟩
  apply wp_ofExcept
  rintro current rfl
  apply wp_checked
  intro _ _
  apply wp_then
  unfold requestDelete
  cases hrequest : fileDeleteRequestedCommand current with
  | none =>
    apply hrest
    rcases hreply with ⟨error, herror⟩ | ⟨found, hdocument, -, hfound⟩
    · cases herror
    · obtain rfl := Except.ok.inj hfound
      refine ⟨current, hdocument, ?_⟩
      unfold fileDeleteRequestedCommand at hrequest
      split_ifs at hrequest with hdeleted
      rw [isRejected, hdeleted, Bool.or_true]
  | some deleteRequest =>
    exact wp_execute_rejects (Or.inl (requestDelete_rejects hrequest)) (fun document v hv => hrest document v hv)

end

end FileService

theorem FileCall.wp_program_deletes {platform : FilePlatform} (call : FileCall) (w : FileWorld) :
    (deleting platform).Wp (call.program platform) (fun _ _ => True) w := by
  cases call with
  | completeDirectUpload command => exact wp_then (FileService.wp_completeDirectUpload_deletes command)
  | completeMultipartUpload command parts =>
    exact wp_then (FileService.wp_completeMultipartUpload_deletes command parts)
  | delete command => exact wp_then (FileService.wp_delete_deletes command)
  | upload object =>
    apply wp_then
    exact FileService.wp_keeping
      (Program.Within.perform (show FileAction.Keeping (.putObject object) from trivial)) (fun _ _ _ => trivial)

/-! ## Runs -/

abbrev FileStep := RunStep FileCall FileWorld FileAction FileAction.Reply

/-- The action commits that a scan found something. -/
def CommitsScanFailure : (action : FileAction) → action.Reply → Prop
  | .execute _ _ command, reply => command.command = js "failScan" ∧ reply = .ok ()
  | _, _ => False

/-- What a run keeps: a file that was rejected is not available, and the object of an available file was
neither deleted nor found infected. -/
structure KeepsRejected (init w : FileWorld) (steps : List FileStep) : Prop where
  stays : (init.Rejected ∨ ∃ step ∈ steps, step.after.Rejected) → ¬ w.Available
  intact : w.Live → w.Available → ∀ step ∈ steps,
    (∀ key, step.action ≠ .deleteObject key) ∧ ¬ CommitsScanFailure step.action step.reply

section

variable {platform : FilePlatform} {admitted : FileCall → Prop} {init w : FileWorld}
variable {threads : List (FileCall × FileProgram Unit)} {steps : List FileStep}

/-- A file that is rejected once stays so, and objects are deleted only then. -/
theorem FileRun.rejected (hrun : FileRun platform admitted init threads w steps)
    (hguarded : ∀ step ∈ steps, Guarded step.before step.action step.reply) :
    (init.Rejected → w.Rejected) ∧ ∀ step ∈ steps,
      DeletesRejected step.before step.action step.reply ∧ (step.before.Rejected → step.after.Rejected) ∧
        (step.after.Rejected → w.Rejected) := by
  have hrun' : Run (deleting platform).exec (FileCall.program platform) admitted init threads w steps := by
    apply hrun.strengthen
    intro step hstep
    exact ⟨hrun.leads.exec_of_mem hstep, hguarded step hstep⟩
  have hkept : ∀ step ∈ steps, step.before.Rejected → step.after.Rejected := by
    intro step hstep
    exact (hguarded step hstep).rejected (hrun.leads.exec_of_mem hstep)
  constructor
  · intro hinit
    by_contra hlost
    obtain ⟨step, hstep, hbefore, hafter⟩ := hrun.leads.exists_lost hinit hlost
    exact hafter (hkept step hstep hbefore)
  · have hsteps := (SharedState.run (Q := fun _ _ _ => True) hrun' trivial
      (fun call w _ _ => call.wp_program_deletes w)).2
    intro step hstep
    obtain ⟨-, hdeletes, -, hlater⟩ := hsteps step hstep
    exact ⟨hdeletes, hkept step hstep, hlater⟩

theorem Guarded.rejected_of_scanFailure {w' : FileWorld} {reply : action.Reply} (h : Guarded w action reply)
    (hexec : w.exec platform action reply w') (hcommits : CommitsScanFailure action reply) :
    w'.Rejected := by
  cases action with
  | execute actor name command =>
    obtain ⟨hname, rfl⟩ := hcommits
    rcases hexec with ⟨error, herror, -⟩ | ⟨now, committed, hexecute, -, rfl⟩
    · cases herror
    · exact ⟨committed, rfl, executed_rejects hexecute (h.1 hname)⟩
  | _ => exact absurd hcommits id

/-- **In every run whose uploads go on only on files that were not rejected meanwhile, rejected files stay
rejected.** -/
theorem FileRun.keepsRejected (hrun : FileRun platform admitted init threads w steps)
    (hgoes : ∀ step ∈ steps, GoesOn step.before step.action step.reply) : KeepsRejected init w steps := by
  have hguarded := hrun.guarded hgoes
  obtain ⟨hinit, hsteps⟩ := hrun.rejected hguarded
  constructor
  · rintro (hrejected | ⟨step, hstep, hafter⟩)
    · exact (hinit hrejected).not_available
    · exact ((hsteps step hstep).2.2 hafter).not_available
  · intro _ havailable step hstep
    obtain ⟨hdeletes, hkept, hlater⟩ := hsteps step hstep
    have hnever : ¬ step.after.Rejected := fun hafter => (hlater hafter).not_available havailable
    constructor
    · intro key hdeleted
      apply hnever
      apply hkept
      obtain ⟨call, before, action, reply, after⟩ := step
      obtain rfl : action = .deleteObject key := hdeleted
      exact hdeletes
    · intro hcommits
      exact hnever ((hguarded step hstep).rejected_of_scanFailure (hrun.leads.exec_of_mem hstep) hcommits)

end

/-! ## Two completions of one upload -/

namespace TwoCompletions

def platform : FilePlatform :=
  { toLowerCase := toLowerCaseAscii, canonicalize := id, scannerConfigured := true, multipartUploads := true }

def noon : Timestamp := js "2024-01-01T12:00:00.000Z"

def ada : Actor := { id := js "ada", roles := [js "User"], tenantId := some (js "acme") }

def root : Actor := { id := js "root", roles := [systemManagerRole], tenantId := some (js "acme") }

/-- A file that ada has uploaded. -/
def pending : DocumentSnapshot :=
  { tenantId := js "acme", doctype := js "File", name := js "f", version := 1, docstatus := .draft
    data :=
      [(js "filename", .str (js "a.txt")), (js "key", .str (js "acme/f")), (js "content_type", .str (js "text/plain")),
       (js "size", .num 3), (js "is_private", .bool true), (js "uploaded_by", .str (js "ada")),
       (js "uploaded_at", .str noon), (js "storage_state", .str (js "upload_pending"))]
    createdAt := noon, updatedAt := noon }

def object : FileObjectMetadata :=
  { key := js "acme/f", size := 3, etag := js "e", contentType := some (js "text/plain") }

def uploaded : FileWorld :=
  { document := some pending, objects := fun key => if key = js "acme/f" then some object else none }

/-- The document as a reply. -/
def readReply (document : Option DocumentSnapshot) : Except FrameworkError DocumentSnapshot :=
  requireLiveDocumentSnapshot document (js "File") (js "f")

/-- What a command on the document commits. -/
def committedReply (w : FileWorld) :
    Except FrameworkError DocumentSnapshot → Except FrameworkError Unit × FileWorld
  | .ok document => (.ok (), { w with document := some document })
  | .error error => (.error error, w)

/-- The scanner finds something when it is asked on behalf of ada. -/
def reply (w : FileWorld) : (action : FileAction) → action.Reply × FileWorld
  | .getDocument _ => (readReply w.document, w)
  | .execute actor name command =>
    committedReply w (executeFileCommand platform w.document actor name command noon)
  | .deleteDocument actor name expectedVersion =>
    committedReply w (deleteFileDocument w.document actor name expectedVersion noon)
  | .readCommitted _ => (readReply w.document, w)
  | .head key => (w.objects key, w)
  | .completeMultipartUpload command =>
    (.ok { object with key := command.key }, w.setObject command.key (some { object with key := command.key }))
  | .deleteObject key => ((), w.setObject key none)
  | .putObject object => ((), w.setObject object.key (some object))
  | .scan target => (.ok { status := if target.actorId = js "ada" then js "infected" else js "clean" }, w)
  | .now => (noon, w)

theorem readReply_cases (document : Option DocumentSnapshot) :
    (∃ error, readReply document = .error error) ∨
      ∃ found, document = some found ∧ found.docstatus ≠ .deleted ∧ readReply document = .ok found := by
  cases h : readReply document with
  | error error => exact Or.inl ⟨error, rfl⟩
  | ok found =>
    obtain ⟨hfound, hlive⟩ := requireLiveDocumentSnapshot_ok h
    exact Or.inr ⟨found, hfound, hlive, rfl⟩

theorem committedReply_cases (w : FileWorld) (result : Except FrameworkError DocumentSnapshot) :
    (∃ error, (committedReply w result).1 = .error error ∧ (committedReply w result).2 = w) ∨
      ∃ document, result = .ok document ∧ (committedReply w result).1 = .ok () ∧
        (committedReply w result).2 = { w with document := some document } := by
  cases result with
  | error error => exact Or.inl ⟨error, rfl, rfl⟩
  | ok document => exact Or.inr ⟨document, rfl, rfl, rfl⟩

theorem exec_reply (w : FileWorld) (action : FileAction) :
    w.exec platform action (reply w action).1 (reply w action).2 := by
  cases action with
  | getDocument actor => exact ⟨readReply_cases w.document, rfl⟩
  | execute actor name command => exact (committedReply_cases w _).imp id (fun h => ⟨noon, h⟩)
  | deleteDocument actor name expectedVersion => exact (committedReply_cases w _).imp id (fun h => ⟨noon, h⟩)
  | readCommitted command =>
    refine ⟨(readReply_cases w.document).imp id ?_, rfl⟩
    rintro ⟨found, hfound, -, hreply⟩
    exact ⟨found, hfound, hreply⟩
  | head key => exact ⟨rfl, rfl⟩
  | completeMultipartUpload command => exact Or.inr ⟨_, rfl, rfl, rfl⟩
  | deleteObject key => rfl
  | putObject object => rfl
  | scan target => rfl
  | now => rfl

/-- Both actors complete the upload; neither names a version. -/
def calls : List FileCall :=
  [.completeDirectUpload { actor := ada, name := js "f" }, .completeDirectUpload { actor := root, name := js "f" }]

def scheduled (turns : List Nat) : List (FileCall × FileProgram Unit) × FileWorld × List FileStep :=
  Program.schedule reply (calls.map (fun call => (call, call.program platform))) uploaded turns

/-- Both read the pending file; the infected verdict is committed before the clean one. -/
def racing : List Nat := [1, 0, 0, 0, 0, 0, 1, 1, 1, 1, 0, 0]

/-- One after the other. -/
def inTurn : List Nat := List.replicate 8 0 ++ List.replicate 8 1

theorem run_scheduled {admitted : FileCall → Prop} (hcalls : ∀ call ∈ calls, admitted call) (turns : List Nat) :
    FileRun platform admitted uploaded (scheduled turns).1 (scheduled turns).2.1 (scheduled turns).2.2 := by
  have hstart : FileRun platform admitted uploaded [] uploaded [] := Run.nil
  exact Program.run_schedule exec_reply turns (Program.run_spawnAll calls hcalls hstart)

end TwoCompletions

instance (w : FileWorld) (action : FileAction) (reply : action.Reply) : Decidable (GoesOn w action reply) :=
  match action, reply with
  | .execute _ _ command, .ok () =>
    decidable_of_iff (command.command ∈ unversionedCommands → ¬ w.Rejected) ⟨fun h _ => h, fun h => h rfl⟩
  | .execute _ _ _, .error _ => isTrue (fun h => by cases h)
  | .readCommitted command, _ =>
    inferInstanceAs (Decidable (command = js "beginMultipartUploadCompletion" → ¬ w.Rejected))
  | .getDocument _, _ | .deleteDocument _ _ _, _ | .head _, _ | .completeMultipartUpload _, _
  | .deleteObject _, _ | .putObject _, _ | .scan _, _ | .now, _ => isTrue trivial

/-- One completion after the other: the second finds the file rejected, and stops. -/
theorem FileRun.keepsRejected_inTurn :
    (TwoCompletions.scheduled TwoCompletions.inTurn).2.1.Rejected ∧
      KeepsRejected TwoCompletions.uploaded (TwoCompletions.scheduled TwoCompletions.inTurn).2.1
        (TwoCompletions.scheduled TwoCompletions.inTurn).2.2 :=
  ⟨by decide +kernel,
    FileRun.keepsRejected (TwoCompletions.run_scheduled (fun _ h => h) TwoCompletions.inTurn) (by decide +kernel)⟩

/-- The caller names no version. -/
def FileCall.Unversioned : FileCall → Prop
  | .completeDirectUpload command => command.expectedVersion = none
  | .completeMultipartUpload command _ => command.expectedVersion = none
  | .delete command => command.expectedVersion = none
  | .upload _ => True

/-- Two completions of one direct upload, with different verdicts: the file whose scan failed becomes
available, and its object is deleted. -/
theorem FileRun.not_keepsRejected :
    ¬ ∀ (platform : FilePlatform) (tenantId : TenantId) (name : DocumentName) (init w : FileWorld)
        (threads : List (FileCall × FileProgram Unit)) (steps : List FileStep),
        FileRun platform (fun call => call.IsOn tenantId name ∧ call.Unversioned) init threads w steps →
        KeepsRejected init w steps := by
  intro h
  have hcalls : ∀ call ∈ TwoCompletions.calls, call.IsOn (js "acme") (js "f") ∧ call.Unversioned := by
    intro call hcall
    simp only [TwoCompletions.calls, List.mem_cons, List.not_mem_nil, or_false] at hcall
    rcases hcall with rfl | rfl <;> exact ⟨⟨rfl, rfl⟩, rfl⟩
  have hrun := h _ _ _ _ _ _ _ (TwoCompletions.run_scheduled hcalls TwoCompletions.racing)
  have hrejected : ∃ step ∈ (TwoCompletions.scheduled TwoCompletions.racing).2.2, step.after.Rejected := by
    decide +kernel
  have havailable : (TwoCompletions.scheduled TwoCompletions.racing).2.1.Available := by decide +kernel
  exact hrun.stays (Or.inr hrejected) havailable
