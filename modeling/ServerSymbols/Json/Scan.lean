import ServerSymbols.Json.Tree
import ServerSymbols.Json.Quote
import ServerSymbols.Json.Numeral

set_option autoImplicit false

/-
From JSON text to a tree. Scanning goes on behind a fault as long as a reader that skips could.
-/
namespace ServerSymbols.Json

def isBlank (c : Char) : Bool :=
  c == ' ' || c == '\n' || c == '\t' || c == '\r'

def skipBlanks (cs : List Char) : List Char :=
  cs.dropWhile isBlank

/-- What was scanned, and the text behind it if scanning can go on there. -/
structure Scanned (α : Type) where
  got : α
  rest : Option (List Char)

/-- A place where reading and skipping both stop. -/
def stop (start : Start) (fault : Fault) : Scanned Tree :=
  ⟨.unreadable start fault (some fault), none⟩

/-- The fault of finding this text where something else has to follow. -/
def faultBefore : List Char → Fault
  | [] => .truncated
  | _ => .malformed

/-- The rest of a word whose first letter was seen. -/
def scanWord (value : Tree) : List Char → List Char → Scanned Tree
  | [], cs => ⟨value, some cs⟩
  | _ :: _, [] => stop .word .truncated
  | w :: word, c :: cs => if w = c then scanWord value word cs else stop .word .malformed

def scanString (cs : List Char) : Scanned Tree :=
  let quote := Quote.scan cs
  let tree :=
    match quote.read with
    | .ok text => .str text
    | .error fault => .unreadable .quote fault quote.skipFault
  ⟨tree, quote.rest.toOption⟩

def scanKey (cs : List Char) : Scanned Key :=
  let quote := Quote.scan cs
  let key :=
    match quote.read with
    | .ok text => .text text
    | .error fault => .unreadable fault quote.skipFault
  ⟨key, quote.rest.toOption⟩

def scanNumber (cs : List Char) : Scanned Tree :=
  match Numeral.scan cs with
  | .error cut => ⟨.unreadable .word cut.fault (some cut.skip), none⟩
  | .ok (numeral, rest) =>
    match numeral.number? with
    | some number => ⟨.num number, some rest⟩
    | none => ⟨.unreadable .word .malformed none, some rest⟩

/-- A value that is neither array nor object. -/
def scanScalar : List Char → Scanned Tree
  | [] => stop .nothing .truncated
  | c :: rest =>
    if c = '"' then scanString rest
    else if c = 't' then scanWord (.bool true) ['r', 'u', 'e'] rest
    else if c = 'f' then scanWord (.bool false) ['a', 'l', 's', 'e'] rest
    else if c = 'n' then scanWord .null ['u', 'l', 'l'] rest
    else if c = '-' || c.isDigit then scanNumber (c :: rest)
    else stop .nothing .malformed

/-- A container that may not be entered because it is nested too deep, but may be skipped. -/
def limitNesting (room : Nat) (scanned : Scanned Tree) : Scanned Tree :=
  if room = 0 then ⟨.unreadable .bracket .malformed scanned.got.skipFault, scanned.rest⟩ else scanned

mutual

/-- Scans one value, in which at most `room` containers may stand inside one another. Every step
of the recursion uses up a character, so fuel beyond the length of the text is never used up. -/
def scanValue (fuel room : Nat) (cs : List Char) : Scanned Tree :=
  match fuel with
  | 0 => stop .nothing .malformed
  | fuel + 1 =>
    match skipBlanks cs with
    | '[' :: rest =>
      match skipBlanks rest with
      | ']' :: rest => limitNesting room ⟨.arr [] none, some rest⟩
      | [] => limitNesting room ⟨.arr [] (some .truncated), none⟩
      | rest =>
        let inner := scanItems fuel (room - 1) rest
        limitNesting room ⟨.arr inner.got.1 inner.got.2, inner.rest⟩
    | '\x7b' :: rest =>
      match skipBlanks rest with
      | '\x7d' :: rest => limitNesting room ⟨.obj [] none, some rest⟩
      | [] => limitNesting room ⟨.obj [] (some .truncated), none⟩
      | rest =>
        let inner := scanEntries fuel (room - 1) rest
        limitNesting room ⟨.obj inner.got.1 inner.got.2, inner.rest⟩
    | cs => scanScalar cs

/-- Scans the items of an array up to its closing bracket; behind a comma an item has to come. -/
def scanItems (fuel room : Nat) (cs : List Char) : Scanned (List Tree × Option Fault) :=
  match fuel with
  | 0 => ⟨([], some .malformed), none⟩
  | fuel + 1 =>
    let item := scanValue fuel room cs
    match item.rest.map skipBlanks with
    | none => ⟨([item.got], none), none⟩
    | some (',' :: rest) =>
      let others := scanItems fuel room rest
      ⟨(item.got :: others.got.1, others.got.2), others.rest⟩
    | some (']' :: rest) => ⟨([item.got], none), some rest⟩
    | some rest => ⟨([item.got], some (faultBefore rest)), none⟩

/-- Scans the entries of an object up to its closing brace; behind a comma a key has to come. -/
def scanEntries (fuel room : Nat) (cs : List Char) :
    Scanned (List (Key × Tree) × Option Fault) :=
  match fuel with
  | 0 => ⟨([], some .malformed), none⟩
  | fuel + 1 =>
    match skipBlanks cs with
    | '"' :: rest =>
      let key := scanKey rest
      let item :=
        match key.rest.map skipBlanks with
        | none => stop .nothing .malformed
        | some (':' :: rest) => scanValue fuel room rest
        | some rest => stop .nothing (faultBefore rest)
      match item.rest.map skipBlanks with
      | none => ⟨([(key.got, item.got)], none), none⟩
      | some (',' :: rest) =>
        let others := scanEntries fuel room rest
        ⟨((key.got, item.got) :: others.got.1, others.got.2), others.rest⟩
      | some ('\x7d' :: rest) => ⟨([(key.got, item.got)], none), some rest⟩
      | some rest => ⟨([(key.got, item.got)], some (faultBefore rest)), none⟩
    | cs => ⟨([(.unreadable (faultBefore cs) (some (faultBefore cs)), .null)], none), none⟩

end

/-- How many arrays and objects may stand inside one another in a document. -/
def nestingLimit : Nat := 127

/-- The first value of a text, and what follows it. -/
def scan (limit : Nat) (text : String) : Scanned Tree :=
  let cs := text.toList
  scanValue (2 * cs.length + 2) limit cs

/-- Reads a whole document: one value, and nothing but blanks behind it. -/
def decodeDocument {α : Type} (decode : Tree → Except Error α) (limit : Nat) (text : String) :
    Except Error α := do
  let scanned := scan limit text
  let result ← decode scanned.got
  match scanned.rest.map skipBlanks with
  | some [] => .ok result
  | _ => .error (.fault .malformed)

end ServerSymbols.Json
