import ServerSymbols.Json.Error

set_option autoImplicit false

/-
Strings in JSON text. A string is first cut into units: characters and the numbers given by
`\u` escapes. That much is checked even of a string that is only skipped. Reading it also pairs
the surrogates among the numbers.
-/
namespace ServerSymbols.Json

inductive TextUnit where
  | char (c : Char)
  | code (number : Nat)

/-- A string from behind its opening quote: the units before its end or its first fault, and the
text behind its closing quote. -/
structure Quote where
  units : List TextUnit
  rest : Except Fault (List Char)

def Quote.push (unit : TextUnit) (quote : Quote) : Quote :=
  { quote with units := unit :: quote.units }

def hexDigit? (c : Char) : Option Nat :=
  if '0' ≤ c ∧ c ≤ '9' then some (c.toNat - '0'.toNat)
  else if 'a' ≤ c ∧ c ≤ 'f' then some (c.toNat - 'a'.toNat + 10)
  else if 'A' ≤ c ∧ c ≤ 'F' then some (c.toNat - 'A'.toNat + 10)
  else none

def hexNumber? (digits : List Char) : Option Nat :=
  digits.foldl (fun number c => number.bind fun n => (hexDigit? c).map (16 * n + ·)) (some 0)

/-- The character that a backslash and this character stand for. -/
def escaped? : Char → Option Char
  | '"' => some '"'
  | '\\' => some '\\'
  | '/' => some '/'
  | 'b' => some '\x08'
  | 'f' => some '\x0c'
  | 'n' => some '\n'
  | 'r' => some '\r'
  | 't' => some '\t'
  | _ => none

/-- The fault of an escape with fewer than four characters behind it: it is cut off if the text
has not even four bytes left. -/
def shortEscape (rest : List Char) : Fault :=
  if (String.ofList rest).utf8ByteSize < 4 then .truncated else .malformed

/-- Cuts a string from behind its opening quote. -/
def Quote.scan : List Char → Quote
  | [] => ⟨[], .error .truncated⟩
  | c :: rest =>
    if c = '"' then ⟨[], .ok rest⟩
    else if c = '\\' then
      match rest with
      | [] => ⟨[], .error .truncated⟩
      | e :: rest =>
        if e = 'u' then
          match rest with
          | c₁ :: c₂ :: c₃ :: c₄ :: rest =>
            match hexNumber? [c₁, c₂, c₃, c₄] with
            | some number => (scan rest).push (.code number)
            | none => ⟨[], .error .malformed⟩
          | short => ⟨[], .error (shortEscape short)⟩
        else
          match escaped? e with
          | some c => (scan rest).push (.char c)
          | none => ⟨[], .error .malformed⟩
    else if c.toNat < 32 then ⟨[], .error .malformed⟩
    else (scan rest).push (.char c)

def isHighSurrogate (number : Nat) : Bool :=
  0xD800 ≤ number && number ≤ 0xDBFF

def isLowSurrogate (number : Nat) : Bool :=
  0xDC00 ≤ number && number ≤ 0xDFFF

def joinSurrogates (high low : Nat) : Char :=
  Char.ofNat (0x10000 + (high - 0xD800) * 0x400 + (low - 0xDC00))

/-- The characters of the units, given the fault that cuts the units off, if any. A high surrogate
has to be followed by a low one, and a low one has to follow a high one. -/
def joinUnits (cut : Option Fault) : List TextUnit → Except Fault (List Char)
  | [] =>
    match cut with
    | none => .ok []
    | some fault => .error fault
  | .char c :: rest => (joinUnits cut rest).map (c :: ·)
  | .code number :: rest =>
    if isHighSurrogate number then
      match rest with
      | .code low :: rest =>
        if isLowSurrogate low then (joinUnits cut rest).map (joinSurrogates number low :: ·)
        else .error .malformed
      | .char _ :: _ => .error .malformed
      | [] => .error (cut.getD .malformed)
    else if isLowSurrogate number then .error .malformed
    else (joinUnits cut rest).map (Char.ofNat number :: ·)

/-- The fault that skipping the string meets. -/
def Quote.skipFault (quote : Quote) : Option Fault :=
  match quote.rest with
  | .ok _ => none
  | .error fault => some fault

/-- The text of the string. -/
def Quote.read (quote : Quote) : Except Fault String :=
  (joinUnits quote.skipFault quote.units).map String.ofList

end ServerSymbols.Json
