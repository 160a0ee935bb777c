import CfFrappe.Core.EventJson

set_option autoImplicit false

/-! # Who may do what

Three sources decide on an action on a document: the rules of the DocType for the roles of an actor (`can`),
the user permissions that narrow an actor down to some documents (`documentMatchesUserPermissions`), and the
shares of one document, which are a fold of its stream (`foldDocumentShares`). What an actor may see of a
document that it may read is decided field by field (`canReadField`).

A system manager passes every rule. User permissions only ever narrow: a DocType that no grant speaks of is
open, and a document that links to a restricted DocType has to link to one of the allowed names. Sorting by
locale is left out where the result is only searched.
-/

open Utf

/-! ## Roles -/

def systemManagerRole : JsString := js "System Manager"

def can (actor : Actor) (doctype : DocTypeDefinition) (action : PermissionAction)
    (document : Option DocumentSnapshot) : Bool :=
  actor.roles.contains systemManagerRole ||
    doctype.permissions.any (fun rule =>
      rule.roles.any (fun role => actor.roles.contains role) && rule.actions.contains action &&
        rule.condition.all (fun condition => condition { actor, action, document }))

/-! ## User permissions -/

structure UserPermissionGrant where
  targetDoctype : DocTypeName
  targetName : DocumentName
  applicableDoctypes : Option (List DocTypeName) := none
  deriving DecidableEq

def isGrantApplicableToDoctype (grant : UserPermissionGrant) (doctype : DocTypeName) : Bool :=
  grant.applicableDoctypes.all (fun doctypes => doctypes.contains doctype)

/-- The fields of a DocType that link to another one. -/
def linkFieldsTo (doctype : DocTypeDefinition) (target : DocTypeName) : List FieldDefinition :=
  doctype.fields.filter (fun field => field.type == .link && field.linkTo == some target)

def isGrantRelevantToDoctype (doctype : DocTypeDefinition) (grant : UserPermissionGrant) : Bool :=
  isGrantApplicableToDoctype grant doctype.name &&
    (doctype.name == grant.targetDoctype || !(linkFieldsTo doctype grant.targetDoctype).isEmpty)

def documentMatchesTargetRestriction (doctype : DocTypeDefinition) (document : DocumentSnapshot)
    (targetDoctype : DocTypeName) (allowedNames : List DocumentName) : Bool :=
  if doctype.name = targetDoctype then allowedNames.contains document.name
  else
    (linkFieldsTo doctype targetDoctype).isEmpty ||
      (linkFieldsTo doctype targetDoctype).any (fun field =>
        match Record.get document.data field.name with
        | some (.str value) => allowedNames.contains value
        | _ => false)

/-- Every DocType that relevant grants speak of allows the document. -/
def documentMatchesUserPermissions (doctype : DocTypeDefinition) (document : DocumentSnapshot)
    (grants : List UserPermissionGrant) : Bool :=
  let relevant := grants.filter (isGrantRelevantToDoctype doctype)
  (relevant.map (·.targetDoctype)).all (fun targetDoctype =>
    documentMatchesTargetRestriction doctype document targetDoctype
      ((relevant.filter (fun grant => grant.targetDoctype == targetDoctype)).map (·.targetName)))

/-! ## Shares -/

structure DocumentShareGrant where
  userId : JsString
  permissions : List DocumentSharePermission
  deriving DecidableEq

/-- `toLowerCase()`, as far as a comparison with an English word can see it. -/
def toLowerCaseAscii (text : JsString) : JsString := text.map (fun u => if 0x41 ≤ u ∧ u ≤ 0x5A then u + 0x20 else u)

def normalizeDocumentSharePermission (permission : JsString) : Option DocumentSharePermission :=
  let normalized := toLowerCaseAscii (Json.trim permission)
  if normalized = js "write" then some .update
  else [DocumentSharePermission.read, .update, .share].find? (fun known => known.toText == normalized)

/-- Each permission once, in the order of their names. -/
def uniqueSortedPermissions (permissions : List DocumentSharePermission) : List DocumentSharePermission :=
  [DocumentSharePermission.read, .share, .update].filter (fun permission => permissions.contains permission)

def normalizeDocumentSharePermissions (permissions : List JsString) : List DocumentSharePermission :=
  let normalized := uniqueSortedPermissions (permissions.filterMap normalizeDocumentSharePermission)
  if normalized.any (fun permission => permission ≠ .read) && !normalized.contains .read then
    uniqueSortedPermissions (.read :: normalized)
  else normalized

def normalizeDocumentShareUserId (userId : JsString) : JsString := Json.trim userId

def normalizeDocumentShareGrant (userId : JsString) (permissions : List JsString) : DocumentShareGrant :=
  { userId := normalizeDocumentShareUserId userId, permissions := normalizeDocumentSharePermissions permissions }

/-- The grants of a document by user, after one more event. -/
def applyDocumentShareEvent (grants : Record JsString DocumentShareGrant) (event : DomainEvent) :
    Record JsString DocumentShareGrant :=
  match event.payload with
  | .documentShared userId permissions =>
    let grant := normalizeDocumentShareGrant userId (permissions.map (·.toText))
    Record.set grants grant.userId grant
  | .documentShareRevoked userId => Record.without grants [normalizeDocumentShareUserId userId]
  | _ => grants

def foldDocumentShares (events : List DomainEvent) : List DocumentShareGrant :=
  ((sortBySequence events).foldl applyDocumentShareEvent []).map (·.2)

def documentSharePermissionsForActor (actor : Actor) (grants : List DocumentShareGrant) :
    List DocumentSharePermission :=
  uniqueSortedPermissions ((grants.filter (fun grant =>
    grant.userId == actor.id || some grant.userId == actor.email)).flatMap (·.permissions))

def documentShareAllows (permissions : List DocumentSharePermission) : PermissionAction → Bool
  | .read => permissions.contains .read
  | .update => permissions.contains .update
  | .share => permissions.contains .share
  | _ => false

/-! ## Access to a document -/

def canUseDocumentAction (actor : Actor) (doctype : DocTypeDefinition) (action : PermissionAction)
    (document : DocumentSnapshot) (sharedPermissions : List DocumentSharePermission) : Bool :=
  can actor doctype action (some document) || documentShareAllows sharedPermissions action

def planDocTypeActionAccess (actor : Actor) (doctype : DocTypeDefinition) (action : PermissionAction) :
    Except FrameworkError Unit :=
  ensure (can actor doctype action none)
    (.denied (js "Actor '" ++ actor.id ++ js "' cannot " ++ action.toText ++ js " " ++ doctype.name))

def planDocumentActionAccess (actor : Actor) (doctype : DocTypeDefinition) (action : PermissionAction)
    (document : DocumentSnapshot) (sharedPermissions : List DocumentSharePermission) (deniedAction : JsString) :
    Except FrameworkError Unit :=
  ensure (canUseDocumentAction actor doctype action document sharedPermissions)
    (.denied (js "Actor '" ++ actor.id ++ js "' cannot " ++ deniedAction ++ js " " ++ doctype.name ++ js "/" ++
      document.name))

/-! ## Access to a field

The rules of a field for the roles of an actor. A field without rules is everybody's.
-/

def fieldPermissionRuleMatchesActorAndAction (rule : FieldPermissionRule) (actor : Actor)
    (action : FieldPermissionAction) : Bool :=
  rule.actions.contains action && rule.roles.any (fun role => actor.roles.contains role)

def fieldPermissionRuleAllows (rule : FieldPermissionRule) (context : FieldPermissionContext) : Bool :=
  fieldPermissionRuleMatchesActorAndAction rule context.actor context.action &&
    rule.condition.all (fun condition => condition context)

def canAccessField (field : FieldDefinition) (context : FieldPermissionContext) : Bool :=
  context.actor.roles.contains systemManagerRole || field.permissions.isEmpty ||
    field.permissions.any (fun rule => fieldPermissionRuleAllows rule context)

def canReadField (field : FieldDefinition) (context : FieldPermissionContext) : Bool :=
  canAccessField field { context with action := .read }

def canWriteField (field : FieldDefinition) (context : FieldPermissionContext) : Bool :=
  (context.action == .create || context.action == .update) && canAccessField field context

/-- Whether an actor may know that a field exists: the conditions of its rules do not count. -/
def canFieldAppearInMetadata (actor : Actor) (action : FieldPermissionAction) (field : FieldDefinition) : Bool :=
  actor.roles.contains systemManagerRole || field.permissions.isEmpty ||
    field.permissions.any (fun rule => fieldPermissionRuleMatchesActorAndAction rule actor action)
