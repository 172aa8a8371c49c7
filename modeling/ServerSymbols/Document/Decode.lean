import ServerSymbols.Document.Basic
import ServerSymbols.Json.Record
import ServerSymbols.Json.Scan

set_option autoImplicit false

/-
Reading model documents.
-/
namespace ServerSymbols.Document

open Json

structure TargetDraft where
  target : Option String := none

def targetRecord : Record TargetDraft where
  title := "struct AstTarget"
  fields := [.of "target" true (·.target) (fun v d => { d with target := some v }) decodeString]

/-- A reference to a shape: a record with the one field `target`. -/
def decodeTarget (source : Source) : Decoder String := fun tree =>
  (targetRecord.read source {} tree).map fun draft => draft.target.getD ""

def decodeTraits : Decoder Traits :=
  decodeMap decodeValue

structure MemberDraft where
  target : Option String := none
  traits : Option Traits := none

def MemberDraft.close (draft : MemberDraft) : Member :=
  { target := draft.target.getD "", traits := draft.traits.getD [] }

def memberRecord : Record MemberDraft where
  title := "struct AstMember"
  fields := [
    .of "target" true (·.target) (fun v d => { d with target := some v }) decodeString,
    .of "traits" false (·.traits) (fun v d => { d with traits := some v }) decodeTraits]

def decodeMember (source : Source) : Decoder Member := fun tree =>
  (memberRecord.read source {} tree).map (·.close)

structure LifecycleDraft where
  create : Option (Option String) := none
  put : Option (Option String) := none
  read : Option (Option String) := none
  update : Option (Option String) := none
  delete : Option (Option String) := none
  list : Option (Option String) := none

def LifecycleDraft.close (draft : LifecycleDraft) : Lifecycle :=
  { create := draft.create.join
    put := draft.put.join
    read := draft.read.join
    update := draft.update.join
    delete := draft.delete.join
    list := draft.list.join }

/-- The lifecycle operations stand among the fields of their resource. -/
def lifecycleRecord : Record LifecycleDraft where
  title := "struct AstLifecycle"
  fields :=
    let target : Decoder (Option String) := decodeOption (decodeTarget .aside)
    [ .of "create" false (·.create) (fun v d => { d with create := some v }) target,
      .of "put" false (·.put) (fun v d => { d with put := some v }) target,
      .of "read" false (·.read) (fun v d => { d with read := some v }) target,
      .of "update" false (·.update) (fun v d => { d with update := some v }) target,
      .of "delete" false (·.delete) (fun v d => { d with delete := some v }) target,
      .of "list" false (·.list) (fun v d => { d with list := some v }) target ]

/-- Reads the lifecycle operations from the entries that were set aside. -/
def decodeLifecycle (aside : List (Key × Json.Tree)) : Except Error Lifecycle :=
  (lifecycleRecord.readEntries none aside {}).map (·.close)

structure ShapeDraft where
  type : Option String := none
  members : Option (List (String × Member)) := none
  member : Option (Option Member) := none
  key : Option (Option Member) := none
  value : Option (Option Member) := none
  input : Option (Option String) := none
  output : Option (Option String) := none
  errors : Option (List String) := none
  operations : Option (List String) := none
  resources : Option (List String) := none
  identifiers : Option (List (String × String)) := none
  collectionOperations : Option (List String) := none
  traits : Option Traits := none
  aside : List (Key × Json.Tree) := []

/-- All other fields are set aside, which needs them to be readable. -/
def shapeRecord (source : Source) : Record ShapeDraft where
  title := "struct AstShape"
  fields :=
    let member := decodeMember source
    let target := decodeTarget source
    [ .of "type" true (·.type) (fun v d => { d with type := some v }) decodeString,
      .of "members" false (·.members) (fun v d => { d with members := some v }) (decodeMap member),
      .of "member" false (·.member) (fun v d => { d with member := some v }) (decodeOption member),
      .of "key" false (·.key) (fun v d => { d with key := some v }) (decodeOption member),
      .of "value" false (·.value) (fun v d => { d with value := some v }) (decodeOption member),
      .of "input" false (·.input) (fun v d => { d with input := some v }) (decodeOption target),
      .of "output" false (·.output) (fun v d => { d with output := some v }) (decodeOption target),
      .of "errors" false (·.errors) (fun v d => { d with errors := some v }) (decodeList target),
      .of "operations" false (·.operations) (fun v d => { d with operations := some v })
        (decodeList target),
      .of "resources" false (·.resources) (fun v d => { d with resources := some v })
        (decodeList target),
      .of "identifiers" false (·.identifiers) (fun v d => { d with identifiers := some v })
        (decodeMap target),
      .of "collectionOperations" false (·.collectionOperations)
        (fun v d => { d with collectionOperations := some v }) (decodeList target),
      .of "traits" false (·.traits) (fun v d => { d with traits := some v }) decodeTraits ]
  unknown name tree draft :=
    (decodeValue tree).map fun _ => { draft with aside := draft.aside ++ [(.text name, tree)] }

def ShapeDraft.close (draft : ShapeDraft) (lifecycle : Lifecycle) : Shape :=
  { type := draft.type.getD ""
    members := draft.members.getD []
    member := draft.member.join
    key := draft.key.join
    value := draft.value.join
    input := draft.input.join
    output := draft.output.join
    errors := draft.errors.getD []
    operations := draft.operations.getD []
    resources := draft.resources.getD []
    identifiers := draft.identifiers.getD []
    lifecycle
    collectionOperations := draft.collectionOperations.getD []
    traits := draft.traits.getD [] }

/-- Reads a shape, which has to be an object. What was set aside is looked at last. -/
def decodeShape (source : Source) : Decoder Shape := fun tree => do
  let draft ← (shapeRecord source).readObject {} tree
  let lifecycle ← decodeLifecycle draft.aside
  .ok (draft.close lifecycle)

structure Draft where
  version : Option String := none
  shapes : Option (List (String × Shape)) := none

def Draft.close (draft : Draft) : Document :=
  { version := draft.version.getD "", shapes := draft.shapes.getD [] }

def record (source : Source) : Record Draft where
  title := "struct AstModel"
  fields := [
    .of "smithy" true (·.version) (fun v d => { d with version := some v }) decodeString,
    .of "shapes" false (·.shapes) (fun v d => { d with shapes := some v })
      (decodeMap (decodeShape source))]

def decode (source : Source) : Decoder Document := fun tree =>
  ((record source).read source {} tree).map (·.close)

/-- Reads the text of a document. -/
def ofText (text : String) : Except Error Document :=
  decodeDocument (decode .text) nestingLimit text

/-- Reads a document that was parsed before. -/
def ofValue (value : Value) : Except Error Document :=
  decode .value (.ofValue value)

end ServerSymbols.Document
