import ServerSymbols.Reachability
import ServerSymbols.Json.Record
import ServerSymbols.Json.Scan

set_option autoImplicit false

/-
The settings of one generation run, and their JSON form.
-/
namespace ServerSymbols

/-- Where the runtime libraries are and what they are called. -/
structure RuntimeConfig where
  cratePrefix : String := "aws"
  relativePath : Option String := none
deriving DecidableEq

/-- The module of the runtime's data types. -/
def RuntimeConfig.dataModule (r : RuntimeConfig) : String :=
  r.cratePrefix ++ "_smithy_types"

structure CodegenConfig where
  formatTimeoutSeconds : UInt32 := 20
  debugMode : Bool := false
  eventStreamAllowList : List String := []
  strategy : Strategy := .condensation
deriving DecidableEq

structure Settings where
  service : ShapeId
  moduleName : String
  moduleVersion : String
  moduleAuthors : List String := []
  moduleDescription : Option String := none
  moduleRepository : Option String := none
  runtime : RuntimeConfig := {}
  codegen : CodegenConfig := {}
  license : Option String := none
  examplesUri : Option String := none
  customization : Option (List (String × Json.Value)) := none

namespace Settings

open Json

/-- Settings that name a service and are otherwise the usual ones. -/
def forService (service : ShapeId) (moduleName : String) : Settings :=
  { service, moduleName, moduleVersion := "0.0.1" }

/-- A shape id in JSON is a string. -/
def decodeId : Decoder ShapeId := fun tree => do
  let text ← decodeString tree
  (ShapeId.parse text).mapError fun fault =>
    .data (.refused (ModelError.invalidIdMessage text fault))

structure RuntimeDraft where
  cratePrefix : Option String := none
  relativePath : Option (Option String) := none

def RuntimeDraft.close (draft : RuntimeDraft) : RuntimeConfig :=
  let usual : RuntimeConfig := {}
  { cratePrefix := draft.cratePrefix.getD usual.cratePrefix
    relativePath := draft.relativePath.getD usual.relativePath }

def runtimeRecord : Record RuntimeDraft where
  title := "struct RuntimeConfig"
  fields := [
    .of "cratePrefix" false (·.cratePrefix) (fun v d => { d with cratePrefix := some v })
      decodeString,
    .of "relativePath" false (·.relativePath) (fun v d => { d with relativePath := some v })
      (decodeOption decodeString)]

def decodeRuntime (source : Source) : Decoder RuntimeConfig := fun tree =>
  (runtimeRecord.read source {} tree).map (·.close)

structure CodegenDraft where
  formatTimeoutSeconds : Option UInt32 := none
  debugMode : Option Bool := none
  eventStreamAllowList : Option (List String) := none
  strategy : Option Strategy := none

def CodegenDraft.close (draft : CodegenDraft) : CodegenConfig :=
  let usual : CodegenConfig := {}
  { formatTimeoutSeconds := draft.formatTimeoutSeconds.getD usual.formatTimeoutSeconds
    debugMode := draft.debugMode.getD usual.debugMode
    eventStreamAllowList := draft.eventStreamAllowList.getD usual.eventStreamAllowList
    strategy := draft.strategy.getD usual.strategy }

def codegenRecord (source : Source) : Record CodegenDraft where
  title := "struct ServerCodegenConfig"
  fields := [
    .of "formatTimeoutSeconds" false (·.formatTimeoutSeconds)
      (fun v d => { d with formatTimeoutSeconds := some v }) decodeUInt32,
    .of "debugMode" false (·.debugMode) (fun v d => { d with debugMode := some v }) decodeBool,
    .of "eventStreamAllowList" false (·.eventStreamAllowList)
      (fun v d => { d with eventStreamAllowList := some v }) (decodeList decodeString),
    .of "reachability" false (·.strategy) (fun v d => { d with strategy := some v })
      (decodeChoice Strategy.choices source)]

def decodeCodegen (source : Source) : Decoder CodegenConfig := fun tree =>
  ((codegenRecord source).read source {} tree).map (·.close)

structure Draft where
  service : Option ShapeId := none
  moduleName : Option String := none
  moduleVersion : Option String := none
  moduleAuthors : Option (List String) := none
  moduleDescription : Option (Option String) := none
  moduleRepository : Option (Option String) := none
  runtime : Option RuntimeConfig := none
  codegen : Option CodegenConfig := none
  license : Option (Option String) := none
  examplesUri : Option (Option String) := none
  customization : Option (Option (List (String × Value))) := none

def record (source : Source) : Record Draft where
  title := "struct ServerRustSettings"
  fields :=
    let optionalText := decodeOption decodeString
    [ .of "service" true (·.service) (fun v d => { d with service := some v }) decodeId,
      .of "module" true (·.moduleName) (fun v d => { d with moduleName := some v }) decodeString,
      .of "moduleVersion" true (·.moduleVersion) (fun v d => { d with moduleVersion := some v })
        decodeString,
      .of "moduleAuthors" false (·.moduleAuthors) (fun v d => { d with moduleAuthors := some v })
        (decodeList decodeString),
      .of "moduleDescription" false (·.moduleDescription)
        (fun v d => { d with moduleDescription := some v }) optionalText,
      .of "moduleRepository" false (·.moduleRepository)
        (fun v d => { d with moduleRepository := some v }) optionalText,
      .of "runtimeConfig" false (·.runtime) (fun v d => { d with runtime := some v })
        (decodeRuntime source),
      .of "codegen" false (·.codegen) (fun v d => { d with codegen := some v })
        (decodeCodegen source),
      .of "license" false (·.license) (fun v d => { d with license := some v }) optionalText,
      .of "examplesUri" false (·.examplesUri) (fun v d => { d with examplesUri := some v })
        optionalText,
      .of "customizationConfig" false (·.customization)
        (fun v d => { d with customization := some v }) (decodeOption (decodeMap decodeValue)) ]

/-- A draft without a service gives no settings. -/
def Draft.close (draft : Draft) : Except Error Settings :=
  match draft.service with
  | none => .error (.data (.missingField "service"))
  | some service =>
    let usual := forService service (draft.moduleName.getD "")
    .ok {
      service
      moduleName := usual.moduleName
      moduleVersion := draft.moduleVersion.getD usual.moduleVersion
      moduleAuthors := draft.moduleAuthors.getD usual.moduleAuthors
      moduleDescription := draft.moduleDescription.getD usual.moduleDescription
      moduleRepository := draft.moduleRepository.getD usual.moduleRepository
      runtime := draft.runtime.getD usual.runtime
      codegen := draft.codegen.getD usual.codegen
      license := draft.license.getD usual.license
      examplesUri := draft.examplesUri.getD usual.examplesUri
      customization := draft.customization.getD usual.customization }

def decode (source : Source) : Decoder Settings := fun tree =>
  ((record source).read source {} tree).bind Draft.close

def ofText (text : String) : Except Error Settings :=
  decodeDocument (decode .text) nestingLimit text

def ofValue (value : Value) : Except Error Settings :=
  decode .value (.ofValue value)

def textOrNull : Option String → Value
  | some text => .str text
  | none => .null

def runtimeValue (r : RuntimeConfig) : Value :=
  .obj [("cratePrefix", .str r.cratePrefix), ("relativePath", textOrNull r.relativePath)]

def codegenValue (c : CodegenConfig) : Value :=
  .obj [
    ("formatTimeoutSeconds", .num (.int c.formatTimeoutSeconds.toNat)),
    ("debugMode", .bool c.debugMode),
    ("eventStreamAllowList", .arr (c.eventStreamAllowList.map .str)),
    ("reachability", .str c.strategy.name)]

/-- The JSON form. Every field is written, null if there is nothing. -/
def toValue (s : Settings) : Value :=
  .obj [
    ("service", .str s.service.text),
    ("module", .str s.moduleName),
    ("moduleVersion", .str s.moduleVersion),
    ("moduleAuthors", .arr (s.moduleAuthors.map .str)),
    ("moduleDescription", textOrNull s.moduleDescription),
    ("moduleRepository", textOrNull s.moduleRepository),
    ("runtimeConfig", runtimeValue s.runtime),
    ("codegen", codegenValue s.codegen),
    ("license", textOrNull s.license),
    ("examplesUri", textOrNull s.examplesUri),
    ("customizationConfig",
      match s.customization with
      | some entries => .obj entries
      | none => .null)]

end Settings

end ServerSymbols
