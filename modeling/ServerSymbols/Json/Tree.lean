import ServerSymbols.Json.Error

set_option autoImplicit false

/-
A JSON document as far as its text can be read. A place that cannot be read keeps its fault, so
that a reader which never comes there is not disturbed by it, and a reader which only skips the
place may pass where a full reading fails.
-/
namespace ServerSymbols.Json

/-- What an unreadable value starts with. -/
inductive Start where
  /-- No value starts here. -/
  | nothing
  | quote
  | bracket
  | word
deriving DecidableEq

/-- The key of an object's entry. -/
inductive Key where
  | text (key : String)
  /-- A string with a fault in it, or no string; `skip` is the fault that even skipping meets. -/
  | unreadable (fault : Fault) (skip : Option Fault)

inductive Tree where
  | null
  | bool (value : Bool)
  | num (value : Number)
  | str (value : String)
  /-- After its items an array ends properly or with a fault. -/
  | arr (items : List Tree) (ending : Option Fault)
  | obj (entries : List (Key × Tree)) (ending : Option Fault)
  /-- A value with a fault in it; `skip` is the fault that even skipping meets. -/
  | unreadable (start : Start) (fault : Fault) (skip : Option Fault)

instance : Inhabited Tree := ⟨.null⟩

def Key.skipFault : Key → Option Fault
  | .text _ => none
  | .unreadable _ skip => skip

def Key.read : Key → Except Fault String
  | .text key => .ok key
  | .unreadable fault _ => .error fault

/-- The first fault met when the value is passed over. -/
def Tree.skipFault : Tree → Option Fault
  | .arr items ending => skipItems items ending
  | .obj entries ending => skipEntries entries ending
  | .unreadable _ _ skip => skip
  | _ => none
where
  skipItems : List Tree → Option Fault → Option Fault
    | [], ending => ending
    | item :: rest, ending => item.skipFault <|> skipItems rest ending
  skipEntries : List (Key × Tree) → Option Fault → Option Fault
    | [], ending => ending
    | (key, item) :: rest, ending => key.skipFault <|> item.skipFault <|> skipEntries rest ending

/-- The value, if all of it can be read. Of entries with one key the last counts, at the place of
the first. -/
def Tree.value : Tree → Except Fault Value
  | .null => .ok .null
  | .bool b => .ok (.bool b)
  | .num n => .ok (.num n)
  | .str s => .ok (.str s)
  | .arr items ending => (readItems items ending).map .arr
  | .obj entries ending => (readEntries entries ending []).map .obj
  | .unreadable _ fault _ => .error fault
where
  readItems : List Tree → Option Fault → Except Fault (List Value)
    | [], none => .ok []
    | [], some fault => .error fault
    | item :: rest, ending =>
      item.value.bind fun first => (readItems rest ending).map (first :: ·)
  readEntries : List (Key × Tree) → Option Fault → List (String × Value) →
      Except Fault (List (String × Value))
    | [], none, done => .ok done
    | [], some fault, _ => .error fault
    | (key, item) :: rest, ending, done =>
      key.read.bind fun name => item.value.bind fun value =>
        readEntries rest ending (put name value done)

/-- A value is a tree without faults. -/
def Tree.ofValue : Value → Tree
  | .null => .null
  | .bool b => .bool b
  | .num n => .num n
  | .str s => .str s
  | .arr items => .arr (ofItems items) none
  | .obj entries => .obj (ofEntries entries) none
where
  ofItems : List Value → List Tree
    | [] => []
    | item :: rest => ofValue item :: ofItems rest
  ofEntries : List (String × Value) → List (Key × Tree)
    | [] => []
    | (key, item) :: rest => (.text key, ofValue item) :: ofEntries rest

/-- What a reader that expected something else reports. -/
def Tree.seen : Tree → Except Fault Seen
  | .null => .ok .null
  | .bool b => .ok (.bool b)
  | .num n => .ok (.num n)
  | .str s => .ok (.str s)
  | .arr _ _ => .ok .seq
  | .obj _ _ => .ok .map
  | .unreadable _ fault _ => .error fault

end ServerSymbols.Json
