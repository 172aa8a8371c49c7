import ServerSymbols.Command.Run
import ServerSymbols.Proofs.Json.Record
import ServerSymbols.Proofs.Json.Value
import ServerSymbols.Proofs.ShapeId

set_option autoImplicit false

/-
Settings and their written form. What is written is read back, also without fields that have their
usual values: each of them tells the reader nothing that it would not assume.
-/
namespace ServerSymbols

open Json

/-! ### The written form -/

/-- The settings that are assumed where a field is left out. -/
def Settings.usual (s : Settings) : Settings :=
  .forService s.service s.moduleName

/-- The field need not be written. -/
def RuntimeConfig.Usual (r : RuntimeConfig) (field : String) : Prop :=
  let usual : RuntimeConfig := {}
  match field with
  | "cratePrefix" => r.cratePrefix = usual.cratePrefix
  | "relativePath" => r.relativePath = usual.relativePath
  | _ => False

/-- The field need not be written. -/
def CodegenConfig.Usual (c : CodegenConfig) (field : String) : Prop :=
  let usual : CodegenConfig := {}
  match field with
  | "formatTimeoutSeconds" => c.formatTimeoutSeconds = usual.formatTimeoutSeconds
  | "debugMode" => c.debugMode = usual.debugMode
  | "eventStreamAllowList" => c.eventStreamAllowList = usual.eventStreamAllowList
  | "reachability" => c.strategy = usual.strategy
  | _ => False

/-- The field need not be written. -/
def Settings.Usual (s : Settings) (field : String) : Prop :=
  match field with
  | "moduleAuthors" => s.moduleAuthors = s.usual.moduleAuthors
  | "moduleDescription" => s.moduleDescription = s.usual.moduleDescription
  | "moduleRepository" => s.moduleRepository = s.usual.moduleRepository
  | "runtimeConfig" => s.runtime = s.usual.runtime
  | "codegen" => s.codegen = s.usual.codegen
  | "license" => s.license = s.usual.license
  | "examplesUri" => s.examplesUri = s.usual.examplesUri
  | "customizationConfig" => s.customization = s.usual.customization
  | _ => False

namespace Settings

/-- The entries of an object. -/
def fields : Value → List (String × Value)
  | .obj entries => entries
  | _ => []

/-- The objects that settings may be written as: any of the fields with their usual values may be
left out, and any of those of the nested objects. -/
inductive Written (s : Settings) : Value → Prop where
  | obj {runtime codegen entries : List (String × Value)}
    (inRuntime : LeavesOut (fun entry => s.runtime.Usual entry.1) (fields (runtimeValue s.runtime))
      runtime)
    (inCodegen : LeavesOut (fun entry => s.codegen.Usual entry.1) (fields (codegenValue s.codegen))
      codegen)
    (outside : LeavesOut (fun entry => s.Usual entry.1)
      (put "codegen" (.obj codegen) (put "runtimeConfig" (.obj runtime) (fields s.toValue)))
      entries) :
    Written s (.obj entries)

/-- Settings that were read from a value, or that the arguments of a command lead to. -/
inductive Obtained (s : Settings) : Prop where
  | read {value : Value} (read : ofValue value = .ok s)
  | resolved {files : Command.Files} {args : Command.Arguments}
    (resolved : Command.resolveSettings files args = .ok s)

/-- What has gone through a reader can go through it again. -/
structure Readable (s : Settings) : Prop where
  service : ShapeId.parse s.service.text = .ok s.service
  customization : ∀ entries, s.customization = some entries → (Value.obj entries).DistinctKeys

/-! ### Parts -/

theorem decodeString_textOrNull (text : Option String) :
    decodeOption decodeString (.ofValue (textOrNull text)) = .ok text := by
  cases text <;> rfl

theorem decodeList_texts (texts : List String) :
    decodeList decodeString (.ofValue (.arr (texts.map .str))) = .ok texts := by
  have items : decodeItems decodeString none (Tree.ofValue.ofItems (texts.map .str)) =
      .ok texts := by
    induction texts with
    | nil => rfl
    | cons text rest ih =>
      rw [List.map_cons, Tree.ofValue.ofItems, decodeItems, ih]
      rfl
  exact items

theorem decodeUInt32_toNat (n : UInt32) :
    decodeUInt32 (.ofValue (.num (.int n.toNat))) = .ok n := by
  have bounds : (0 : Int) ≤ n.toNat ∧ (n.toNat : Int) < 0x100000000 := by
    have := n.toNat_lt
    omega
  rw [Tree.ofValue, decodeUInt32, if_pos bounds]
  simp

theorem decodeChoice_strategy (source : Source) (strategy : Strategy) :
    decodeChoice Strategy.choices source (.ofValue (.str strategy.name)) = .ok strategy := by
  cases strategy <;> rfl

theorem decodeId_text {id : ShapeId} (readable : ShapeId.parse id.text = .ok id) :
    decodeId (.ofValue (.str id.text)) = .ok id :=
  decodeId_eq_ok_iff.mpr ⟨rfl, ShapeId.parse_text_iff.mp readable⟩

theorem decodeMap_object {entries : List (String × Value)}
    (distinct : (Value.obj entries).DistinctKeys) :
    decodeMap decodeValue (.ofValue (.obj entries)) = .ok entries :=
  decodeMap_decodeValue_eq_ok.mpr (Tree.value_ofValue distinct)

/-! ### Nested objects -/

theorem orderly_runtimeRecord : runtimeRecord.Orderly Eq := by
  apply Record.Orderly.of_skip
  · simp only [List.forall_mem_cons, List.not_mem_nil, false_implies, implies_true, and_true]
    and_intros <;> exact RecordField.marks_of (by intros; rfl)
  · simp only [List.pairwise_cons, List.forall_mem_cons, List.not_mem_nil, false_implies,
      implies_true, and_true, List.Pairwise.nil]
    exact RecordField.apart_of (by intros; rfl) (by intros; rfl) (by intros; rfl)

theorem decodeRuntime_leavesOut (source : Source) {r : RuntimeConfig}
    {entries : List (String × Value)}
    (leaves : LeavesOut (fun entry => r.Usual entry.1) (fields (runtimeValue r)) entries) :
    decodeRuntime source (.ofValue (.obj entries)) = .ok r := by
  have full : runtimeRecord.readEntries none (Tree.ofValue.ofEntries (fields (runtimeValue r))) {} =
      .ok { cratePrefix := some r.cratePrefix, relativePath := some r.relativePath } := by
    refine Record.readEntries_eq_ok.mpr ⟨rfl, ?_, by simp [runtimeRecord, RecordField.of]⟩
    refine Record.readAll_of rfl rfl rfl ?_
    refine Record.readAll_of rfl rfl (decodeString_textOrNull r.relativePath) rfl
  have idle : ∀ entry ∈ fields (runtimeValue r), r.Usual entry.1 →
      runtimeRecord.Idle RuntimeDraft.close (.text entry.1, .ofValue entry.2) := by
    simp only [fields, runtimeValue, List.forall_mem_cons]
    refine ⟨fun usual => ?_, fun usual => ?_, fun _ mem => absurd mem List.not_mem_nil⟩
    · have usual : r.cratePrefix = ({} : RuntimeConfig).cratePrefix := usual
      exact Record.idle_of rfl rfl fun d unset => by simp [RuntimeDraft.close, unset, usual]
    · have usual : r.relativePath = ({} : RuntimeConfig).relativePath := usual
      exact Record.idle_of rfl (decodeString_textOrNull r.relativePath)
        fun d unset => by simp [RuntimeDraft.close, unset, usual]
  obtain ⟨draft, read, closed⟩ := orderly_runtimeRecord.readEntries_ofEntries full idle leaves
  exact Except.map_eq_ok.mpr ⟨draft, read, closed⟩

theorem orderly_codegenRecord (source : Source) : (codegenRecord source).Orderly Eq := by
  apply Record.Orderly.of_skip
  · simp only [List.forall_mem_cons, List.not_mem_nil, false_implies, implies_true, and_true]
    and_intros <;> exact RecordField.marks_of (by intros; rfl)
  · simp only [List.pairwise_cons, List.forall_mem_cons, List.not_mem_nil, false_implies,
      implies_true, and_true, List.Pairwise.nil]
    and_intros <;> exact RecordField.apart_of (by intros; rfl) (by intros; rfl) (by intros; rfl)

theorem decodeCodegen_leavesOut (source : Source) {c : CodegenConfig}
    {entries : List (String × Value)}
    (leaves : LeavesOut (fun entry => c.Usual entry.1) (fields (codegenValue c)) entries) :
    decodeCodegen source (.ofValue (.obj entries)) = .ok c := by
  have full : (codegenRecord source).readEntries none
      (Tree.ofValue.ofEntries (fields (codegenValue c))) {} = .ok {
        formatTimeoutSeconds := some c.formatTimeoutSeconds
        debugMode := some c.debugMode
        eventStreamAllowList := some c.eventStreamAllowList
        strategy := some c.strategy } := by
    refine Record.readEntries_eq_ok.mpr ⟨rfl, ?_, by simp [codegenRecord, RecordField.of]⟩
    refine Record.readAll_of rfl rfl (decodeUInt32_toNat c.formatTimeoutSeconds) ?_
    refine Record.readAll_of rfl rfl rfl ?_
    refine Record.readAll_of rfl rfl (decodeList_texts c.eventStreamAllowList) ?_
    exact Record.readAll_of rfl rfl (decodeChoice_strategy source c.strategy) rfl
  have idle : ∀ entry ∈ fields (codegenValue c), c.Usual entry.1 →
      (codegenRecord source).Idle CodegenDraft.close (.text entry.1, .ofValue entry.2) := by
    simp only [fields, codegenValue, List.forall_mem_cons]
    refine ⟨fun usual => ?_, fun usual => ?_, fun usual => ?_, fun usual => ?_,
      fun _ mem => absurd mem List.not_mem_nil⟩
    · have usual : c.formatTimeoutSeconds = ({} : CodegenConfig).formatTimeoutSeconds := usual
      exact Record.idle_of rfl (decodeUInt32_toNat c.formatTimeoutSeconds)
        fun d unset => by simp [CodegenDraft.close, unset, usual]
    · have usual : c.debugMode = ({} : CodegenConfig).debugMode := usual
      exact Record.idle_of rfl rfl fun d unset => by simp [CodegenDraft.close, unset, usual]
    · have usual : c.eventStreamAllowList = ({} : CodegenConfig).eventStreamAllowList := usual
      exact Record.idle_of rfl (decodeList_texts c.eventStreamAllowList)
        fun d unset => by simp [CodegenDraft.close, unset, usual]
    · have usual : c.strategy = ({} : CodegenConfig).strategy := usual
      exact Record.idle_of rfl (decodeChoice_strategy source c.strategy)
        fun d unset => by simp [CodegenDraft.close, unset, usual]
  obtain ⟨draft, read, closed⟩ :=
    (orderly_codegenRecord source).readEntries_ofEntries full idle leaves
  exact Except.map_eq_ok.mpr ⟨draft, read, closed⟩

/-! ### Settings -/

theorem orderly_record (source : Source) : (record source).Orderly Eq := by
  apply Record.Orderly.of_skip
  · simp only [List.forall_mem_cons, List.not_mem_nil, false_implies, implies_true, and_true]
    and_intros <;> exact RecordField.marks_of (by intros; rfl)
  · simp only [List.pairwise_cons, List.forall_mem_cons, List.not_mem_nil, false_implies,
      implies_true, and_true, List.Pairwise.nil]
    and_intros <;> exact RecordField.apart_of (by intros; rfl) (by intros; rfl) (by intros; rfl)

/-- The draft in which every field is set. -/
def Draft.ofSettings (s : Settings) : Draft where
  service := some s.service
  moduleName := some s.moduleName
  moduleVersion := some s.moduleVersion
  moduleAuthors := some s.moduleAuthors
  moduleDescription := some s.moduleDescription
  moduleRepository := some s.moduleRepository
  runtime := some s.runtime
  codegen := some s.codegen
  license := some s.license
  examplesUri := some s.examplesUri
  customization := some s.customization

section Nested

variable {s : Settings} {runtime codegen : Value}

theorem decodeOption_customization (readable : s.Readable) :
    decodeOption (decodeMap decodeValue) (.ofValue (match s.customization with
      | some entries => .obj entries
      | none => .null)) = .ok s.customization := by
  cases given : s.customization with
  | none => rfl
  | some entries =>
    have read := decodeMap_object (readable.customization entries given)
    exact Except.map_eq_ok.mpr ⟨entries, read, rfl⟩

theorem readEntries_toValue (readable : s.Readable)
    (readRuntime : decodeRuntime .value (.ofValue runtime) = .ok s.runtime)
    (readCodegen : decodeCodegen .value (.ofValue codegen) = .ok s.codegen) :
    (record .value).readEntries none (Tree.ofValue.ofEntries
      (put "codegen" codegen (put "runtimeConfig" runtime (fields s.toValue)))) {} =
      .ok (.ofSettings s) := by
  refine Record.readEntries_eq_ok.mpr ⟨rfl, ?_, by simp [record, RecordField.of, Draft.ofSettings]⟩
  refine Record.readAll_of rfl rfl (decodeId_text readable.service) ?_
  refine Record.readAll_of rfl rfl rfl ?_
  refine Record.readAll_of rfl rfl rfl ?_
  refine Record.readAll_of rfl rfl (decodeList_texts s.moduleAuthors) ?_
  refine Record.readAll_of rfl rfl (decodeString_textOrNull s.moduleDescription) ?_
  refine Record.readAll_of rfl rfl (decodeString_textOrNull s.moduleRepository) ?_
  refine Record.readAll_of rfl rfl readRuntime ?_
  refine Record.readAll_of rfl rfl readCodegen ?_
  refine Record.readAll_of rfl rfl (decodeString_textOrNull s.license) ?_
  refine Record.readAll_of rfl rfl (decodeString_textOrNull s.examplesUri) ?_
  exact Record.readAll_of rfl rfl (decodeOption_customization readable) rfl

theorem idle_of_usual (readable : s.Readable)
    (readRuntime : decodeRuntime .value (.ofValue runtime) = .ok s.runtime)
    (readCodegen : decodeCodegen .value (.ofValue codegen) = .ok s.codegen) :
    ∀ entry ∈ put "codegen" codegen (put "runtimeConfig" runtime (fields s.toValue)),
      s.Usual entry.1 → (record .value).Idle Draft.close (.text entry.1, .ofValue entry.2) := by
  refine List.forall_mem_cons.mpr ⟨fun usual => usual.elim, ?_⟩
  refine List.forall_mem_cons.mpr ⟨fun usual => usual.elim, ?_⟩
  refine List.forall_mem_cons.mpr ⟨fun usual => usual.elim, ?_⟩
  refine List.forall_mem_cons.mpr ⟨fun (usual : s.moduleAuthors = []) => ?_, ?_⟩
  · exact Record.idle_of rfl (decodeList_texts s.moduleAuthors)
      fun d unset => by simp [Draft.close, unset, usual, forService]
  refine List.forall_mem_cons.mpr ⟨fun (usual : s.moduleDescription = none) => ?_, ?_⟩
  · exact Record.idle_of rfl (decodeString_textOrNull s.moduleDescription)
      fun d unset => by simp [Draft.close, unset, usual, forService]
  refine List.forall_mem_cons.mpr ⟨fun (usual : s.moduleRepository = none) => ?_, ?_⟩
  · exact Record.idle_of rfl (decodeString_textOrNull s.moduleRepository)
      fun d unset => by simp [Draft.close, unset, usual, forService]
  refine List.forall_mem_cons.mpr ⟨fun (usual : s.runtime = {}) => ?_, ?_⟩
  · exact Record.idle_of rfl readRuntime
      fun d unset => by simp [Draft.close, unset, usual, forService]
  refine List.forall_mem_cons.mpr ⟨fun (usual : s.codegen = {}) => ?_, ?_⟩
  · exact Record.idle_of rfl readCodegen
      fun d unset => by simp [Draft.close, unset, usual, forService]
  refine List.forall_mem_cons.mpr ⟨fun (usual : s.license = none) => ?_, ?_⟩
  · exact Record.idle_of rfl (decodeString_textOrNull s.license)
      fun d unset => by simp [Draft.close, unset, usual, forService]
  refine List.forall_mem_cons.mpr ⟨fun (usual : s.examplesUri = none) => ?_, ?_⟩
  · exact Record.idle_of rfl (decodeString_textOrNull s.examplesUri)
      fun d unset => by simp [Draft.close, unset, usual, forService]
  refine List.forall_mem_cons.mpr ⟨fun (usual : s.customization = none) => ?_, ?_⟩
  · exact Record.idle_of rfl (decodeOption_customization readable)
      fun d unset => by simp [Draft.close, unset, usual, forService]
  · exact fun _ mem => absurd mem List.not_mem_nil

end Nested

theorem ofValue_of_written {s : Settings} {value : Value} (readable : s.Readable)
    (written : s.Written value) : ofValue value = .ok s := by
  obtain ⟨inRuntime, inCodegen, outside⟩ := written
  have readRuntime := decodeRuntime_leavesOut .value inRuntime
  have readCodegen := decodeCodegen_leavesOut .value inCodegen
  obtain ⟨draft, read, closed⟩ := (orderly_record .value).readEntries_ofEntries
    (readEntries_toValue readable readRuntime readCodegen)
    (idle_of_usual readable readRuntime readCodegen) outside
  exact Except.bind_eq_ok.mpr ⟨draft, read, closed⟩

/-- All fields may be written. -/
theorem written_toValue (s : Settings) : s.Written s.toValue :=
  .obj (.refl _ _) (.refl _ _) (.refl _ _)

/-! ### Where settings come from -/

theorem parse_of_decodeId {tree : Tree} {id : ShapeId} (read : decodeId tree = .ok id) :
    ShapeId.parse id.text = .ok id :=
  ShapeId.parse_text_iff.mpr (decodeId_eq_ok_iff.mp read).2

theorem decode_of_decodeOption {α : Type} {decode : Decoder α} {tree : Tree} {v : α}
    (read : decodeOption decode tree = .ok (some v)) : decode tree = .ok v := by
  unfold decodeOption at read
  split at read
  · cases read
  · obtain ⟨_, decoded, same⟩ := Except.map_eq_ok.mp read
    cases same
    exact decoded

theorem distinctKeys_of_decodeOption {tree : Tree} {entries : List (String × Value)}
    (read : decodeOption (decodeMap decodeValue) tree = .ok (some entries)) :
    (Value.obj entries).DistinctKeys := by
  exact Tree.distinctKeys_of_value (decodeMap_decodeValue_eq_ok.mp (decode_of_decodeOption read))

/-- Every part has gone through its reader. -/
structure Draft.Readable (d : Draft) : Prop where
  service : ∀ id, d.service = some id → ShapeId.parse id.text = .ok id
  customization : ∀ entries, d.customization = some (some entries) →
    (Value.obj entries).DistinctKeys

theorem Draft.readable_of_read {source : Source} {tree : Tree} {d : Draft}
    (read : (record source).read source {} tree = .ok d) : d.Readable := by
  refine Record.invariant_of_read ?_ ?_ ⟨by rintro _ ⟨⟩, by rintro _ ⟨⟩⟩ read
  · simp only [record, List.forall_mem_cons, List.not_mem_nil, false_implies, implies_true,
      and_true]
    refine ⟨?service, ?_, ?_, ?_, ?_, ?_, ?_, ?_, ?_, ?_, ?customization⟩ <;>
      intro tree d d' readable set <;>
      obtain ⟨value, decoded, rfl⟩ := RecordField.set_of_eq_ok.mp set
    case service =>
      refine ⟨fun id given => ?_, readable.customization⟩
      cases given
      exact parse_of_decodeId decoded
    case customization =>
      refine ⟨readable.service, fun entries given => ?_⟩
      cases given
      exact distinctKeys_of_decodeOption decoded
    all_goals exact ⟨readable.service, readable.customization⟩
  · intro name tree d d' readable passed
    obtain ⟨_, _, rfl⟩ := Except.map_eq_ok.mp passed
    exact readable

theorem readable_of_ofValue {s : Settings} {value : Value} (read : ofValue value = .ok s) :
    s.Readable := by
  obtain ⟨draft, read, closed⟩ := Except.bind_eq_ok.mp read
  have readable := Draft.readable_of_read read
  unfold Draft.close at closed
  split at closed
  · cases closed
  · next id given =>
    cases closed
    refine ⟨readable.service id given, fun entries given => readable.customization entries ?_⟩
    cases customization : draft.customization with
    | none =>
      rw [customization] at given
      cases given
    | some option =>
      rw [customization] at given
      exact congrArg some given

theorem parse_of_serviceArgument {args : Command.Arguments} {id : ShapeId}
    (given : Command.serviceArgument args = .ok (some id)) : ShapeId.parse id.text = .ok id := by
  unfold Command.serviceArgument at given
  split at given
  · cases given
  · obtain ⟨_, parsed, same⟩ := Except.map_eq_ok.mp given
    cases same
    exact ShapeId.parse_text_of_parse (Except.mapError_eq_ok.mp parsed)

theorem readable_of_resolveSettings {files : Command.Files} {args : Command.Arguments}
    {s : Settings} (resolved : Command.resolveSettings files args = .ok s) : s.Readable := by
  unfold Command.resolveSettings at resolved
  obtain ⟨argument, named, resolved⟩ := Except.bind_eq_ok.mp resolved
  -- the service may be replaced by that of the arguments; the strategy has no part in reading
  split at resolved
  · next argument _ _ path _ =>
    obtain ⟨loaded, load, resolved⟩ := Except.bind_eq_ok.mp resolved
    obtain ⟨_, _, load⟩ := Except.bind_eq_ok.mp load
    obtain ⟨value, _, load⟩ := Except.bind_eq_ok.mp load
    have readable := readable_of_ofValue (Except.mapError_eq_ok.mp load)
    cases resolved
    refine ⟨?_, readable.customization⟩
    cases argument with
    | none => exact readable.service
    | some id => exact parse_of_serviceArgument named
  · cases resolved
    exact ⟨parse_of_serviceArgument named, by rintro _ ⟨⟩⟩
  · cases resolved

theorem Obtained.readable {s : Settings} (obtained : s.Obtained) : s.Readable := by
  cases obtained with
  | read read => exact readable_of_ofValue read
  | resolved resolved => exact readable_of_resolveSettings resolved

/-! ### Reading back -/

theorem written_forService (id : ShapeId) (moduleName : String) :
    (forService id moduleName).Written (.obj [("service", .str id.text),
      ("module", .str moduleName), ("moduleVersion", .str "0.0.1")]) := by
  refine .obj (.refl _ _) (.refl _ _) ?_
  exact .keep _ <| .keep _ <| .keep _ <| .drop rfl <| .drop rfl <| .drop rfl <| .drop rfl <|
    .drop rfl <| .drop rfl <| .drop rfl <| .drop rfl .nil

/-- Settings that are written and read again are the same, with or without the fields that have
their usual values. So a service and the names of a module are enough for the usual settings. -/
theorem read_back :
    (∀ s : Settings, s.Obtained →
      ofValue s.toValue = .ok s ∧ ∀ value, s.Written value → ofValue value = .ok s) ∧
    ∀ (text : String) (id : ShapeId) (moduleName : String), ShapeId.parse text = .ok id →
      ofValue (.obj [("service", .str text), ("module", .str moduleName),
        ("moduleVersion", .str "0.0.1")]) = .ok (forService id moduleName) := by
  refine ⟨fun s obtained => ?_, fun text id moduleName parsed => ?_⟩
  · have readable := obtained.readable
    exact ⟨ofValue_of_written readable s.written_toValue,
      fun value written => ofValue_of_written readable written⟩
  · have readable : (forService id moduleName).Readable :=
      ⟨ShapeId.parse_text_of_parse parsed, by rintro _ ⟨⟩⟩
    rw [← ShapeId.text_of_parse parsed]
    exact ofValue_of_written readable (written_forService id moduleName)

/-- Settings with a nested object in part, and with free data. -/
theorem read_back_customized :
    let s : Settings := { forService ⟨"test", "Service"⟩ "test" with
      runtime := { relativePath := some "../runtime" }
      customization := some [("deny", .bool true)] }
    ofValue (.obj [("service", .str "test#Service"), ("module", .str "test"),
      ("moduleVersion", .str "0.0.1"),
      ("runtimeConfig", .obj [("relativePath", .str "../runtime")]),
      ("customizationConfig", .obj [("deny", .bool true)])]) = .ok s ∧
    ofValue s.toValue = .ok s ∧
    ShapeId.parse "test#Service" = .ok ⟨"test", "Service"⟩ ∧
    ofValue (.obj [("service", .str "test#Service"), ("module", .str "test"),
      ("moduleVersion", .str "0.0.1")]) = .ok (forService ⟨"test", "Service"⟩ "test") := by
  intro s
  have parsed : ShapeId.parse "test#Service" = .ok ⟨"test", "Service"⟩ := rfl
  have service : decodeId (.str "test#Service") = .ok ⟨"test", "Service"⟩ := by
    simp only [decodeId, decodeString, parsed, bind, Except.bind, Except.mapError]
  have runtime : decodeRuntime .value (.obj [(.text "relativePath", .str "../runtime")] none) =
      .ok { relativePath := some "../runtime" } := rfl
  have customization : decodeOption (decodeMap decodeValue)
      (.obj [(.text "deny", .bool true)] none) = .ok (some [("deny", .bool true)]) := rfl
  have read : ofValue (.obj [("service", .str "test#Service"), ("module", .str "test"),
      ("moduleVersion", .str "0.0.1"),
      ("runtimeConfig", .obj [("relativePath", .str "../runtime")]),
      ("customizationConfig", .obj [("deny", .bool true)])]) = .ok s := by
    simp [ofValue, decode, Tree.ofValue, Tree.ofValue.ofEntries, Record.read, Record.readObject,
      Record.readEntries, record, RecordField.of, Key.decode, Key.read, bind, Except.bind,
      Except.map, Except.mapError, requireFields, finish, decodeString, service, runtime,
      customization, Draft.close, forService, s]
  exact ⟨read, (read_back.1 s (.read read)).1, parsed, read_back.2 _ _ "test" parsed⟩

end Settings

end ServerSymbols
