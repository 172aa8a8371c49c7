import ServerSymbols.Json.Error

set_option autoImplicit false

/-
Numbers in JSON text.
-/
namespace ServerSymbols.Json

/-- The parts of a number as written. -/
structure Numeral where
  negative : Bool
  whole : List Char
  fraction : Option (List Char)
  exponent : Option Int

def decimalNat (digits : List Char) : Nat :=
  digits.foldl (fun n c => 10 * n + (c.toNat - '0'.toNat)) 0

/-- The double nearest to `digits * 10 ^ power`; none if it is beyond all doubles. -/
def nearestFloat? (digits : Nat) (power : Int) : Option Float :=
  let size := (Nat.toDigits 10 digits).length + power
  if digits = 0 ∨ size < -400 then some 0
  else if 400 < size then none
  else
    let x := if power < 0 then Float.ofScientific digits true power.natAbs
      else Float.ofScientific digits false power.natAbs
    if x.isInf then none else some x

/-- A number without fraction and exponent is whole if it fits into 64 bits, with or without sign;
minus zero is not whole. None if the number is beyond all doubles. -/
def Numeral.number? (n : Numeral) : Option Number :=
  let fraction := n.fraction.getD []
  let digits := decimalNat (n.whole ++ fraction)
  let power := n.exponent.getD 0 - fraction.length
  let plain := n.fraction.isNone && n.exponent.isNone
  if plain && !n.negative && digits < 0x10000000000000000 then some (.int digits)
  else if plain && n.negative && 0 < digits && digits ≤ 0x8000000000000000 then some (.int (-digits))
  else (nearestFloat? digits power).map fun x => .float (if n.negative then -x else x)

/-- A number cut short: reading it meets the end of the text, skipping it takes it for malformed. -/
structure Numeral.Cut where
  fault : Fault
  skip : Fault

def Numeral.Cut.before : List Char → Numeral.Cut
  | [] => ⟨.truncated, .malformed⟩
  | _ => ⟨.malformed, .malformed⟩

/-- One or more digits. -/
def scanDigits (cs : List Char) : Except Numeral.Cut (List Char × List Char) :=
  match cs.takeWhile Char.isDigit with
  | [] => .error (.before cs)
  | digits => .ok (digits, cs.dropWhile Char.isDigit)

/-- Digits of which the first is zero only if it is the only one. -/
def scanWhole (cs : List Char) : Except Numeral.Cut (List Char × List Char) :=
  (scanDigits cs).bind fun (digits, rest) =>
    match digits with
    | '0' :: _ :: _ => .error ⟨.malformed, .malformed⟩
    | _ => .ok (digits, rest)

def scanFraction : List Char → Except Numeral.Cut (Option (List Char) × List Char)
  | '.' :: cs => (scanDigits cs).map fun (digits, rest) => (some digits, rest)
  | cs => .ok (none, cs)

def scanSign : List Char → Bool × List Char
  | '-' :: cs => (true, cs)
  | '+' :: cs => (false, cs)
  | cs => (false, cs)

def scanExponent (cs : List Char) : Except Numeral.Cut (Option Int × List Char) :=
  match cs with
  | [] => .ok (none, [])
  | c :: rest =>
    if c = 'e' ∨ c = 'E' then
      let (negative, rest) := scanSign rest
      (scanDigits rest).map fun (digits, rest) =>
        (some (if negative then -decimalNat digits else decimalNat digits), rest)
    else .ok (none, cs)

/-- Scans a number, which starts with a minus sign or a digit. -/
def Numeral.scan (cs : List Char) : Except Numeral.Cut (Numeral × List Char) :=
  let (negative, cs) :=
    match cs with
    | '-' :: rest => (true, rest)
    | cs => (false, cs)
  (scanWhole cs).bind fun (whole, cs) =>
    (scanFraction cs).bind fun (fraction, cs) =>
      (scanExponent cs).map fun (exponent, cs) => (⟨negative, whole, fraction, exponent⟩, cs)

end ServerSymbols.Json
