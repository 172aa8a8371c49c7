set_option autoImplicit false

/-
JSON values. Objects keep the order of their entries; whole numbers of 64 bits are kept apart from
floating-point numbers.
-/
namespace ServerSymbols.Json

inductive Number where
  | int (value : Int)
  | float (value : Float)

inductive Value where
  | null
  | bool (value : Bool)
  | num (value : Number)
  | str (value : String)
  | arr (items : List Value)
  | obj (entries : List (String × Value))

instance : Inhabited Value := ⟨.null⟩

/-- Sets a key: at its old place if the key is there, at the end otherwise. -/
def put {α : Type} (key : String) (value : α) : List (String × α) → List (String × α)
  | [] => [(key, value)]
  | entry :: rest =>
    if entry.1 = key then (key, value) :: rest else entry :: put key value rest

/-- The entry of an object; other values have none. -/
def Value.get? (key : String) : Value → Option Value
  | .obj entries => entries.lookup key
  | _ => none

def Value.asString? : Value → Option String
  | .str s => some s
  | _ => none

def Value.asArray? : Value → Option (List Value)
  | .arr items => some items
  | _ => none

def Value.asInt? : Value → Option Int
  | .num (.int i) => some i
  | _ => none

/-- A whole number from 0 to 2⁶⁴ - 1. -/
def Value.asUInt64? (v : Value) : Option UInt64 :=
  v.asInt?.bind fun i =>
    if 0 ≤ i ∧ i < 0x10000000000000000 then some (UInt64.ofNat i.toNat) else none

/-- A whole number from -2³¹ to 2³¹ - 1. -/
def Value.asInt32? (v : Value) : Option Int32 :=
  v.asInt?.bind fun i =>
    if -0x80000000 ≤ i ∧ i < 0x80000000 then some (Int32.ofInt i) else none

def floatOfInt (i : Int) : Float :=
  let size := Float.ofScientific i.natAbs false 0
  if i < 0 then -size else size

/-- Any number, rounded to a double. -/
def Value.asFloat? : Value → Option Float
  | .num (.int i) => some (floatOfInt i)
  | .num (.float x) => some x
  | _ => none

end ServerSymbols.Json
