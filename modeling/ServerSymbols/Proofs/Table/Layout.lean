import ServerSymbols.Table.Layout
import Mathlib.Data.List.Forall2

set_option autoImplicit false

/-
The symbol table as text. A column is as wide as the bytes of its largest cell, so no cell has more
characters than its column, whatever it is written in; padded to this number of characters, the
cells of a column start at the same place in all lines. Colors stand around padded cells and do not
move them.
-/
namespace ServerSymbols.Table

/-! ### Widths of columns -/

/-- No text has more characters than bytes. -/
theorem length_le_utf8ByteSize (text : String) : text.length ≤ text.utf8ByteSize := by
  have bound (chars : List Char) : chars.length ≤ (String.ofList chars).utf8ByteSize := by
    induction chars with
    | nil => exact Nat.zero_le _
    | cons c chars ih =>
      have positive := c.utf8Size_pos
      have split : String.ofList (c :: chars) = String.singleton c ++ String.ofList chars := by
        rw [String.singleton_eq_ofList, ← String.ofList_append, List.singleton_append]
      rw [split, String.utf8ByteSize_append, String.utf8ByteSize_singleton, List.length_cons]
      omega
  simpa only [String.ofList_toList, String.length_toList] using bound text.toList

/-- Every cell has room in its column. -/
def Fits (widths : List Nat) (cells : List String) : Prop :=
  List.Forall₂ (fun width cell => cell.utf8ByteSize ≤ width) widths cells

/-- The widths after one more line. -/
def widen (widths : List Nat) (line : Line) : List Nat :=
  List.zipWith max widths (line.cells.map (·.utf8ByteSize))

section Widen

variable {widths : List Nat} {line : Line} (sized : line.cells.length = widths.length)

include sized

theorem length_widen : (widen widths line).length = widths.length := by
  rw [widen, List.length_zipWith, List.length_map, sized, Nat.min_self]

theorem fits_widen : Fits (widen widths line) line.cells := by
  obtain ⟨cells, colors⟩ := line
  induction widths generalizing cells with
  | nil =>
    rw [List.length_eq_zero_iff.mp sized]
    exact List.Forall₂.nil
  | cons width widths ih =>
    cases cells with
    | nil => cases sized
    | cons cell cells =>
      exact List.Forall₂.cons (Nat.le_max_right _ _) (ih cells (Nat.succ.inj sized))

/-- Wider columns have room for what they had room for. -/
theorem Fits.after_widen {cells : List String} (fits : Fits widths cells) :
    Fits (widen widths line) cells := by
  obtain ⟨others, colors⟩ := line
  induction fits generalizing others with
  | nil => exact List.Forall₂.nil
  | cons room rest ih =>
    cases others with
    | nil => cases sized
    | cons other others =>
      refine List.Forall₂.cons ?_ (ih others (Nat.succ.inj sized))
      exact Nat.le_trans room (Nat.le_max_left _ _)

end Widen

theorem Fits.foldl_widen {lines : List Line} {widths : List Nat} {cells : List String}
    (sized : ∀ line ∈ lines, line.cells.length = widths.length) (fits : Fits widths cells) :
    Fits (lines.foldl widen widths) cells := by
  induction lines generalizing widths with
  | nil => exact fits
  | cons line lines ih =>
    obtain ⟨first, others⟩ := List.forall_mem_cons.mp sized
    rw [← length_widen first] at others
    exact ih others (fits.after_widen first)

theorem fits_foldl_widen {lines : List Line} {widths : List Nat}
    (sized : ∀ line ∈ lines, line.cells.length = widths.length) {line : Line}
    (mem : line ∈ lines) : Fits (lines.foldl widen widths) line.cells := by
  induction lines generalizing widths with
  | nil => cases mem
  | cons first lines ih =>
    obtain ⟨sizedFirst, others⟩ := List.forall_mem_cons.mp sized
    rw [← length_widen sizedFirst] at others
    rw [List.foldl_cons]
    rcases List.mem_cons.mp mem with rfl | later
    · exact (fits_widen sizedFirst).foldl_widen others
    · exact ih others later

/-- The columns of a table have room for the cells of all lines. -/
theorem fits_widths {lines : List Line} (sized : ∀ line ∈ lines, line.cells.length = 4)
    {line : Line} (mem : line ∈ lines) : Fits (widths lines) line.cells :=
  fits_foldl_widen sized mem

/-! ### Where cells start -/

/-- The line shows the cells at the offsets: behind each cell are two blanks or more up to the next
one, and the last cell ends the line. -/
inductive Shows (line : List Char) : List Nat → List String → Prop where
  | last {start : Nat} {cell : String} (ends : line.drop start = cell.toList) :
      Shows line [start] [cell]
  | next {start blanks : Nat} {offsets : List Nat} {cell : String} {cells : List String}
      (apart : 2 ≤ blanks)
      (goesOn : line.drop start = cell.toList ++ List.replicate blanks ' ' ++
        line.drop (start + cell.length + blanks))
      (behind : Shows line ((start + cell.length + blanks) :: offsets) cells) :
      Shows line (start :: (start + cell.length + blanks) :: offsets) (cell :: cells)

/-- The offsets of columns of these widths. -/
def offsets (start : Nat) : List Nat → List Nat
  | [] => []
  | width :: widths => start :: offsets (start + width + 2) widths

theorem toList_join_padded (width : Nat) (widths : List Nat) (cell next : String)
    (cells : List String) :
    (String.join (padded (width :: widths) (cell :: next :: cells))).toList =
      cell.toList ++ List.replicate (width - cell.length + 2) ' ' ++
        (String.join (padded widths (next :: cells))).toList := by
  rw [padded, pad, String.join_cons, String.toList_append, String.toList_append,
    String.toList_ofList]

theorem shows_padded {widths : List Nat} {cells : List String} (fits : Fits widths cells)
    (nonempty : cells ≠ []) (front : List Char) :
    Shows (front ++ (String.join (padded widths cells)).toList) (offsets front.length widths)
      cells := by
  induction fits generalizing front with
  | nil => contradiction
  | @cons width cell widths cells room rest ih =>
    cases rest with
    | nil =>
      refine Shows.last ?_
      have alone : padded [width] [cell] = [cell] := rfl
      rw [List.drop_left, alone, String.join_cons, String.join_nil, String.append_empty]
    | @cons nextWidth next widths cells nextRoom rest =>
      have chars := length_le_utf8ByteSize cell
      let blanks := width - cell.length + 2
      have following : front.length + width + 2 = front.length + cell.length + blanks := by
        omega
      -- The other cells are behind this one and its blanks.
      have behind := ih (List.cons_ne_nil _ _) (front ++ cell.toList ++ List.replicate blanks ' ')
      have reached : (front ++ cell.toList ++ List.replicate blanks ' ').length =
          front.length + cell.length + blanks := by
        rw [List.length_append, List.length_append, List.length_replicate, String.length_toList]
      rw [reached] at behind
      rw [toList_join_padded, offsets, following, ← List.append_assoc, ← List.append_assoc]
      refine Shows.next (Nat.le_add_left 2 _) ?_ behind
      rw [← reached, List.drop_left, List.append_assoc, List.append_assoc, List.drop_left,
        ← List.append_assoc]

/-! ### Cells between blanks -/

theorem length_padded (widths : List Nat) (cells : List String) :
    (padded widths cells).length = cells.length := by
  fun_induction padded widths cells with
  | case1 width widths cell next cells ih =>
    rw [List.length_cons, ih, ← List.length_cons]
  | case2 => rfl

/-- Padding adds blanks only. -/
theorem not_mem_padded {c : Char} (visible : c ≠ ' ') (widths : List Nat) {cells : List String}
    (absent : ∀ cell ∈ cells, c ∉ cell.toList) : ∀ cell ∈ padded widths cells, c ∉ cell.toList := by
  fun_induction padded widths cells with
  | case1 width widths cell next cells ih =>
    obtain ⟨first, others⟩ := List.forall_mem_cons.mp absent
    refine List.forall_mem_cons.mpr ⟨?_, ih others⟩
    rw [pad, String.toList_append, String.toList_ofList, List.mem_append]
    rintro (inside | blank)
    · exact first inside
    · exact visible (List.eq_of_mem_replicate blank)
  | case2 => exact absent

/-! ### Lines without color -/

theorem zipWith_painted_false {cells : List String} {colors : List (Option Color)}
    (enough : cells.length ≤ colors.length) :
    List.zipWith (painted false) cells colors = cells := by
  induction cells generalizing colors with
  | nil => rfl
  | cons cell cells ih =>
    cases colors with
    | nil => cases enough
    | cons wanted colors =>
      rw [List.zipWith_cons_cons, ih (Nat.le_of_succ_le_succ enough)]
      rfl

theorem Line.toList_render_false {line : Line} (enough : line.cells.length ≤ line.colors.length)
    (widths : List Nat) : (line.render false widths).toList =
      (String.join (padded widths line.cells)).toList ++ ['\n'] := by
  have colored : (padded widths line.cells).length ≤ line.colors.length := by
    rwa [length_padded]
  rw [Line.render, zipWith_painted_false colored, String.toList_append]
  rfl

/-! ### Escape sequences -/

/-- The text without its escape sequences, each of which goes from an escape character and a bracket
to the next character that can end it. The flag says that the text starts inside of one. -/
def withoutEscapes : Bool → List Char → List Char
  | false, '\x1b' :: '[' :: rest => withoutEscapes true rest
  | false, c :: rest => c :: withoutEscapes false rest
  | true, c :: rest => withoutEscapes (c < '@' || '~' < c) rest
  | _, [] => []

theorem withoutEscapes_append {text : List Char} (plain : '\x1b' ∉ text) (rest : List Char) :
    withoutEscapes false (text ++ rest) = text ++ withoutEscapes false rest := by
  induction text with
  | nil => rfl
  | cons c text ih =>
    obtain ⟨other, plain⟩ := List.ne_and_not_mem_of_not_mem_cons plain
    rw [List.cons_append, List.cons_append, ← ih plain, withoutEscapes]
    intro _ same _
    exact other same.symm

theorem withoutEscapes_set (color : Color) (rest : List Char) :
    withoutEscapes false (color.set ++ rest) = withoutEscapes false rest := by
  cases color <;> rfl

theorem withoutEscapes_reset (rest : List Char) :
    withoutEscapes false (reset ++ rest) = withoutEscapes false rest :=
  rfl

theorem keepColor_of_plain {text : List Char} (plain : '\x1b' ∉ text) (set : List Char) :
    keepColor set text = text := by
  induction text with
  | nil => rfl
  | cons c text ih =>
    obtain ⟨other, plain⟩ := List.ne_and_not_mem_of_not_mem_cons plain
    rw [keepColor, ih plain]
    intro _ same _
    exact other same.symm

theorem withoutEscapes_painted {cell : String} (plain : '\x1b' ∉ cell.toList)
    (wanted : Option Color) (rest : List Char) :
    withoutEscapes false ((painted true cell wanted).toList ++ rest) =
      cell.toList ++ withoutEscapes false rest := by
  cases wanted with
  | none => exact withoutEscapes_append plain rest
  | some color =>
    rw [painted, Color.paint, String.toList_ofList, keepColor_of_plain plain, List.append_assoc,
      List.append_assoc, withoutEscapes_set, withoutEscapes_append plain, withoutEscapes_reset]

theorem withoutEscapes_cells {cells : List String} (plain : ∀ cell ∈ cells, '\x1b' ∉ cell.toList)
    (colors : List (Option Color)) (rest : List Char) :
    withoutEscapes false ((String.join (List.zipWith (painted true) cells colors)).toList ++ rest) =
      (String.join (List.zipWith (painted false) cells colors)).toList ++
        withoutEscapes false rest := by
  induction cells generalizing colors with
  | nil => rfl
  | cons cell cells ih =>
    cases colors with
    | nil => rfl
    | cons wanted colors =>
      obtain ⟨first, others⟩ := List.forall_mem_cons.mp plain
      rw [List.zipWith_cons_cons, String.join_cons, String.toList_append, List.append_assoc,
        withoutEscapes_painted first, ih others, List.zipWith_cons_cons, String.join_cons,
        String.toList_append, List.append_assoc]
      rfl

theorem withoutEscapes_lines {lines : List Line}
    (plain : ∀ line ∈ lines, ∀ cell ∈ line.cells, '\x1b' ∉ cell.toList) (widths : List Nat) :
    withoutEscapes false (String.join (lines.map (Line.render true widths))).toList =
      (String.join (lines.map (Line.render false widths))).toList := by
  induction lines with
  | nil => rfl
  | cons line lines ih =>
    obtain ⟨first, others⟩ := List.forall_mem_cons.mp plain
    have cells := not_mem_padded (by decide) widths first
    rw [List.map_cons, String.join_cons, String.toList_append, Line.render, String.toList_append,
      List.append_assoc, withoutEscapes_cells cells, withoutEscapes_append (by decide), ih others,
      List.map_cons, String.join_cons, String.toList_append, Line.render, String.toList_append,
      List.append_assoc]

/-! ### The table -/

/-- The lines of the table, the header first. -/
def linesOf (rows : List Row) : List Line :=
  header :: rows.map Row.line

theorem sized_of_mem {rows : List Row} {line : Line} (mem : line ∈ linesOf rows) :
    line.cells.length = 4 ∧ line.colors.length = 4 := by
  rcases List.mem_cons.mp mem with rfl | mem
  · exact ⟨rfl, rfl⟩
  · obtain ⟨row, -, rfl⟩ := List.mem_map.mp mem
    refine ⟨rfl, ?_⟩
    rw [Row.line]
    split <;> rfl

theorem not_mem_linesOf {c : Char} (absent : ∀ cell ∈ header.cells, c ∉ cell.toList)
    {rows : List Row} (absentRows : ∀ row ∈ rows, ∀ cell ∈ row.line.cells, c ∉ cell.toList) :
    ∀ line ∈ linesOf rows, ∀ cell ∈ line.cells, c ∉ cell.toList :=
  List.forall_mem_cons.mpr ⟨absent, List.forall_mem_map.mpr absentRows⟩

theorem toList_render_false (rows : List Row) :
    (render false rows).toList =
      ((linesOf rows).map fun line => (String.join (padded (widths (linesOf rows))
        line.cells)).toList).flatMap (· ++ ['\n']) := by
  rw [render, String.toList_join, List.flatMap_map, List.flatMap_map]
  refine List.flatMap_congr fun line mem => ?_
  have sized := sized_of_mem mem
  exact Line.toList_render_false (by omega) _

/-- Without color, the table is one line for the header and one for each row, and all lines show
their cells at the same offsets. With color, it is the same text with escape sequences in it. -/
theorem render_aligned (rows : List Row) :
    ((∀ row ∈ rows, ∀ cell ∈ row.line.cells, '\n' ∉ cell.toList) →
      ∃ (offsets : List Nat) (lines : List (List Char)),
        (render false rows).toList = lines.flatMap (· ++ ['\n']) ∧ (∀ line ∈ lines, '\n' ∉ line) ∧
          List.Forall₂ (fun cells line => Shows line (0 :: offsets) cells)
            (header.cells :: rows.map (·.line.cells)) lines) ∧
      ((∀ row ∈ rows, ∀ cell ∈ row.line.cells, '\x1b' ∉ cell.toList) →
        withoutEscapes false (render true rows).toList = (render false rows).toList) := by
  constructor
  · intro unbroken
    have fits {line : Line} (mem : line ∈ linesOf rows) :
        Fits (widths (linesOf rows)) line.cells :=
      fits_widths (fun line mem => (sized_of_mem mem).1) mem
    obtain ⟨width, others, -, -, columns⟩ :=
      List.forall₂_cons_right_iff.mp (fits (List.mem_cons_self ..))
    refine ⟨offsets (width + 2) others, _, toList_render_false rows, ?_, ?_⟩
    · refine List.forall_mem_map.mpr fun line mem => ?_
      have cells := not_mem_linesOf (by decide) unbroken line mem
      rw [String.toList_join, List.mem_flatMap]
      rintro ⟨cell, among, inside⟩
      exact not_mem_padded (by decide) _ cells cell among inside
    · have cells : header.cells :: rows.map (·.line.cells) = (linesOf rows).map (·.cells) := by
        rw [linesOf, List.map_cons, List.map_map]
        rfl
      rw [cells, List.forall₂_map_left_iff, List.forall₂_map_right_iff, List.forall₂_same]
      intro line mem
      have nonempty : line.cells ≠ [] :=
        List.ne_nil_of_length_pos (by rw [(sized_of_mem mem).1]; decide)
      have first : 0 :: offsets (width + 2) others = offsets 0 (widths (linesOf rows)) := by
        rw [columns, offsets, Nat.zero_add]
      rw [first]
      exact shows_padded (fits mem) nonempty []
  · intro plain
    exact withoutEscapes_lines (not_mem_linesOf (by decide) plain) _

/-- A checked row and an unchecked one, in letters of one to four bytes. -/
theorem render_aligned_mixed :
    let checked : Row := {
      shape := "harbör#船", shapeType := "structure", kind := "domain", type := "crate::船"
      space := none, unconstrained := false, recursive := false, wraps := none }
    let unchecked : Row := {
      shape := "log#Entry", shapeType := "list", kind := "wrapper", type := "Vec<🚢>"
      space := some "crate::log", unconstrained := true, recursive := false, wraps := none }
    let rows := [checked, unchecked]
    (∀ row ∈ rows, ∀ cell ∈ row.line.cells, '\n' ∉ cell.toList) ∧
      (∀ row ∈ rows, ∀ cell ∈ row.line.cells, '\x1b' ∉ cell.toList) ∧
      (∃ (offsets : List Nat) (lines : List (List Char)),
        (render false rows).toList = lines.flatMap (· ++ ['\n']) ∧ (∀ line ∈ lines, '\n' ∉ line) ∧
          List.Forall₂ (fun cells line => Shows line (0 :: offsets) cells)
            (header.cells :: rows.map (·.line.cells)) lines) ∧
      withoutEscapes false (render true rows).toList = (render false rows).toList := by
  intro checked unchecked rows
  have unbroken : ∀ row ∈ rows, ∀ cell ∈ row.line.cells, '\n' ∉ cell.toList := by decide
  have plain : ∀ row ∈ rows, ∀ cell ∈ row.line.cells, '\x1b' ∉ cell.toList := by decide
  exact ⟨unbroken, plain, (render_aligned rows).1 unbroken, (render_aligned rows).2 plain⟩

end ServerSymbols.Table
