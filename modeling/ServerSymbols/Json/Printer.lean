import ServerSymbols.Json.Error

set_option autoImplicit false

/-
Writing JSON, on one line or indented.
-/
namespace ServerSymbols.Json

/-- `\u00` and two lower-case hexadecimal digits. -/
def controlEscape (c : Char) : List Char :=
  ['\\', 'u', '0', '0', Nat.digitChar (c.toNat / 16), Nat.digitChar (c.toNat % 16)]

def escapeChar (c : Char) : List Char :=
  match c with
  | '"' => ['\\', '"']
  | '\\' => ['\\', '\\']
  | '\x08' => ['\\', 'b']
  | '\x0c' => ['\\', 'f']
  | '\n' => ['\\', 'n']
  | '\r' => ['\\', 'r']
  | '\t' => ['\\', 't']
  | c => if c.toNat < 32 then controlEscape c else [c]

def quoteText (text : String) : String :=
  String.ofList ('"' :: text.toList.flatMap escapeChar ++ ['"'])

def Value.compact : Value → String
  | .null => "null"
  | .bool b => if b then "true" else "false"
  | .num n => n.text
  | .str s => quoteText s
  | .arr items => "[" ++ ",".intercalate (itemTexts items) ++ "]"
  | .obj entries => "\x7b" ++ ",".intercalate (entryTexts entries) ++ "\x7d"
where
  itemTexts : List Value → List String
    | [] => []
    | item :: rest => item.compact :: itemTexts rest
  entryTexts : List (String × Value) → List String
    | [] => []
    | (key, item) :: rest => (quoteText key ++ ":" ++ item.compact) :: entryTexts rest

def indentation (depth : Nat) : String :=
  String.ofList (List.replicate (2 * depth) ' ')

/-- Lines between brackets, each indented one step further than the brackets. -/
def block (opening closing : String) (depth : Nat) (lines : List String) : String :=
  if lines.isEmpty then opening ++ closing
  else
    opening ++ "\n" ++ ",\n".intercalate (lines.map (indentation (depth + 1) ++ ·)) ++
      "\n" ++ indentation depth ++ closing

/-- One item or entry on a line, indented by two spaces for each level. -/
def Value.pretty (depth : Nat) : Value → String
  | .null => "null"
  | .bool b => if b then "true" else "false"
  | .num n => n.text
  | .str s => quoteText s
  | .arr items => block "[" "]" depth (itemLines (depth + 1) items)
  | .obj entries => block "\x7b" "\x7d" depth (entryLines (depth + 1) entries)
where
  itemLines (depth : Nat) : List Value → List String
    | [] => []
    | item :: rest => item.pretty depth :: itemLines depth rest
  entryLines (depth : Nat) : List (String × Value) → List String
    | [] => []
    | (key, item) :: rest => (quoteText key ++ ": " ++ item.pretty depth) :: entryLines depth rest

end ServerSymbols.Json
