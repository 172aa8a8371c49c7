import ServerSymbols.Table.Row

set_option autoImplicit false

/-
The symbol table as text: aligned columns, with colors on request.
-/
namespace ServerSymbols.Table

inductive Color where
  | bold
  | yellow
  | cyan

def Color.code : Color → String
  | bold => "1"
  | yellow => "33"
  | cyan => "36"

/-- The escape sequence that sets the color. -/
def Color.set (color : Color) : List Char :=
  ('\x1b' :: '[' :: color.code.toList) ++ ['m']

/-- The escape sequence that ends all colors. -/
def reset : List Char := ['\x1b', '[', '0', 'm']

/-- Sets the color again after every reset in the text. -/
def keepColor (set : List Char) : List Char → List Char
  | '\x1b' :: '[' :: '0' :: 'm' :: rest => reset ++ set ++ keepColor set rest
  | c :: rest => c :: keepColor set rest
  | [] => []

/-- The text in the color, and no color behind it. -/
def Color.paint (color : Color) (text : String) : String :=
  String.ofList (color.set ++ keepColor color.set text.toList ++ reset)

structure Line where
  cells : List String
  /-- The color of each cell, if it has one. -/
  colors : List (Option Color)

def header : Line where
  cells := ["SHAPE", "KIND", "TYPE", "NAMESPACE"]
  colors := [some .bold, some .bold, some .bold, some .bold]

/-- Kind and type stand out in the rows of unconstrained symbols. -/
def Row.line (row : Row) : Line where
  cells := [row.shape, row.kind, row.type, row.space.getD "-"]
  colors :=
    if row.unconstrained then [none, some .yellow, some .cyan, none] else [none, none, none, none]

/-- Of each column, the size of its largest cell in bytes. -/
def widths (lines : List Line) : List Nat :=
  lines.foldl (fun widths line => List.zipWith max widths (line.cells.map (·.utf8ByteSize)))
    [0, 0, 0, 0]

/-- Fills a cell up to a number of characters, and leaves two more blank. -/
def pad (width : Nat) (cell : String) : String :=
  cell ++ String.ofList (List.replicate (width - cell.length + 2) ' ')

/-- The last cell of a line is not padded. -/
def padded : List Nat → List String → List String
  | width :: widths, cell :: next :: cells => pad width cell :: padded widths (next :: cells)
  | _, cells => cells

def painted (color : Bool) (cell : String) (wanted : Option Color) : String :=
  match color, wanted with
  | true, some wanted => wanted.paint cell
  | _, _ => cell

def Line.render (color : Bool) (widths : List Nat) (line : Line) : String :=
  String.join (List.zipWith (painted color) (padded widths line.cells) line.colors) ++ "\n"

/-- The header and one line for each row. -/
def render (color : Bool) (rows : List Row) : String :=
  let lines := header :: rows.map Row.line
  String.join (lines.map (Line.render color (widths lines)))

end ServerSymbols.Table
