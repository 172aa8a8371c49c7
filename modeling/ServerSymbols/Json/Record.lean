import ServerSymbols.Json.Decode

set_option autoImplicit false

/-
Reading records. A record is written as an object, or as an array with its fields in declaration
order. A field may be left out if it is not required; unknown fields are passed over.
-/
namespace ServerSymbols.Json

/-- A field of a record that is being read into a draft of type `σ`. -/
structure RecordField (σ : Type) where
  name : String
  required : Bool
  isSet : σ → Bool
  set : Tree → σ → Except Error σ

/-- A field that is kept in the draft as an option. -/
def RecordField.of {σ α : Type} (name : String) (required : Bool) (get : σ → Option α)
    (put : α → σ → σ) (decode : Decoder α) : RecordField σ :=
  { name, required
    isSet := fun draft => (get draft).isSome
    set := fun tree draft => (decode tree).map fun value => put value draft }

structure Record (σ : Type) where
  /-- The name of the record in error messages. -/
  title : String
  fields : List (RecordField σ)
  /-- What is done with the value of an unknown field. -/
  unknown : String → Tree → σ → Except Error σ := fun _ tree draft =>
    (skip tree).map fun _ => draft

/-- The first required field that is not set is reported. -/
def requireFields {σ : Type} (fields : List (RecordField σ)) (draft : σ) : Except Error σ :=
  match fields.find? fun field => field.required && !field.isSet draft with
  | some field => .error (.data (.missingField field.name))
  | none => .ok draft

def Record.readEntries {σ : Type} (record : Record σ) (ending : Option Fault) :
    List (Key × Tree) → σ → Except Error σ
  | [], draft => do
    finish ending
    requireFields record.fields draft
  | (key, item) :: rest, draft => do
    let name ← key.decode
    match record.fields.find? (·.name == name) with
    | some field =>
      if field.isSet draft then .error (.data (.duplicateField name))
      else
        let draft ← field.set item draft
        record.readEntries ending rest draft
    | none =>
      let draft ← record.unknown name item draft
      record.readEntries ending rest draft

def countElements (count : Nat) : String :=
  if count = 1 then "1 element" else toString count ++ " elements"

/-- The report of an array with more items than the record has fields. -/
def tooManyItems (source : Source) (fields length : Nat) : Error :=
  match source with
  | .text => .fault .malformed
  | .value => .data (.wrongLength length "fewer elements in array")
  | .aside => .data (.wrongLength length (countElements fields ++ " in sequence"))

/-- Reads the fields from the items of an array. The items of an array that ends with a fault are
not too few. -/
def Record.readItems {σ : Type} (record : Record σ) (source : Source) (length : Nat)
    (ending : Option Fault) : List (RecordField σ) → List Tree → σ → Except Error σ
  | [], [], draft => (finish ending).map fun _ => draft
  | [], _ :: _, _ => .error (tooManyItems source record.fields.length length)
  | field :: fields, [], draft => do
    finish ending
    if field.required then
      .error (.data (.wrongLength length
        (record.title ++ " with " ++ countElements record.fields.length)))
    else record.readItems source length ending fields [] draft
  | field :: fields, item :: rest, draft => do
    let draft ← field.set item draft
    record.readItems source length ending fields rest draft

/-- Reads a record from an object. -/
def Record.readObject {σ : Type} (record : Record σ) (start : σ) : Decoder σ
  | .obj entries ending => record.readEntries ending entries start
  | tree => wrongType record.title tree

/-- Reads a record from an object or an array. -/
def Record.read {σ : Type} (record : Record σ) (source : Source) (start : σ) : Decoder σ
  | .arr items ending => record.readItems source items.length ending record.fields items start
  | tree => record.readObject start tree

/-- An alternative named by a string, or by the only key of an object whose value is null. -/
def decodeChoice {α : Type} (choices : List (String × α)) (source : Source) : Decoder α :=
  let choose (name : String) : Except Error α :=
    match choices.lookup name with
    | some choice => .ok choice
    | none => .error (.data (.unknownVariant name (choices.map (·.1))))
  let keyed (key : Key) (item : Tree) : Except Error α := do
    let choice ← choose (← key.decode)
    decodeNull item
    .ok choice
  fun tree =>
    match tree, source with
    | .str name, _ => choose name
    | .obj entries ending, .text =>
      match entries with
      | [] => .error (.fault (ending.getD .malformed))
      | (key, item) :: rest => do
        let choice ← keyed key item
        if rest.isEmpty then finish ending else .error (.fault .malformed)
        .ok choice
    | .obj [(key, item)] _, _ => keyed key item
    | .obj _ _, _ => .error (.data .notSingleKey)
    | .unreadable .nothing fault _, _ => .error (.fault fault)
    | .unreadable .quote fault _, _ => .error (.fault fault)
    | _, .text => .error (.fault .malformed)
    | tree, _ => wrongType "string or map" tree

end ServerSymbols.Json
