import ServerSymbols.Json.Tree

set_option autoImplicit false

/-
Reading typed data from a tree. A reader takes the parts of a document in their order and reports
the first problem it meets.
-/
namespace ServerSymbols.Json

/-- Where a tree comes from. It decides only what is said of arrays with too many items, and of
alternatives that are neither strings nor objects with one key. -/
inductive Source where
  /-- The text of a document. -/
  | text
  /-- A value that was read before. -/
  | value
  /-- A part of a document that was set aside until its surroundings were read. -/
  | aside
deriving DecidableEq

/-- A reader of one type of data. -/
abbrev Decoder (α : Type) := Tree → Except Error α

def wrongType {α : Type} (expected : String) : Decoder α := fun tree =>
  match tree.seen with
  | .ok seen => .error (.data (.wrongType seen expected))
  | .error fault => .error (.fault fault)

/-- What comes after the last part of a container. -/
def finish : Option Fault → Except Error Unit
  | none => .ok ()
  | some fault => .error (.fault fault)

def skip (tree : Tree) : Except Error Unit :=
  finish tree.skipFault

def Key.decode (key : Key) : Except Error String :=
  key.read.mapError .fault

def decodeString : Decoder String
  | .str s => .ok s
  | tree => wrongType "a string" tree

def decodeBool : Decoder Bool
  | .bool b => .ok b
  | tree => wrongType "a boolean" tree

/-- A whole number from 0 to 2³² - 1. -/
def decodeUInt32 : Decoder UInt32
  | .num (.int i) =>
    if 0 ≤ i ∧ i < 0x100000000 then .ok (UInt32.ofNat i.toNat)
    else .error (.data (.outOfRange i "u32"))
  | tree => wrongType "u32" tree

def decodeNull : Decoder Unit
  | .null => .ok ()
  | tree => wrongType "unit" tree

/-- Null, or data of the given type. -/
def decodeOption {α : Type} (decode : Decoder α) : Decoder (Option α)
  | .null => .ok none
  | tree => (decode tree).map some

def decodeItems {α : Type} (decode : Decoder α) (ending : Option Fault) :
    List Tree → Except Error (List α)
  | [] => (finish ending).map fun _ => []
  | item :: rest => do
    let first ← decode item
    let others ← decodeItems decode ending rest
    .ok (first :: others)

def decodeList {α : Type} (decode : Decoder α) : Decoder (List α)
  | .arr items ending => decodeItems decode ending items
  | tree => wrongType "a sequence" tree

def decodeEntries {α : Type} (decode : Decoder α) (ending : Option Fault) :
    List (Key × Tree) → List (String × α) → Except Error (List (String × α))
  | [], done => (finish ending).map fun _ => done
  | (key, item) :: rest, done => do
    let name ← key.decode
    let value ← decode item
    decodeEntries decode ending rest (put name value done)

/-- An object with any keys. Of entries with one key the last counts, at the place of the first. -/
def decodeMap {α : Type} (decode : Decoder α) : Decoder (List (String × α))
  | .obj entries ending => decodeEntries decode ending entries []
  | tree => wrongType "a map" tree

def decodeValue : Decoder Value := fun tree =>
  tree.value.mapError .fault

end ServerSymbols.Json
