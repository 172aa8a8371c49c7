set_option autoImplicit false

/-
The shortest decimal that reads back as a given binary number. All arithmetic is exact: a binary
number is a fraction, and so are the two ends of the interval of reals that round to it.
-/
namespace ServerSymbols.Decimal

/-- The reals between `low / unit` and `high / unit`, which round to `value / unit`. The ends
belong to the interval when `closed` holds. -/
structure Rounding where
  low : Nat
  value : Nat
  high : Nat
  unit : Nat
  closed : Bool

/-- Whether the point `x / unit` rounds to the value. -/
def Rounding.holds (r : Rounding) (x : Nat) : Bool :=
  if r.closed then r.low ≤ x && x ≤ r.high else r.low < x && x < r.high

/-- Writes the same interval in multiples of `10 ^ place`, so that the points of that grid are the
multiples of the new unit. -/
def Rounding.inPlaces (r : Rounding) (place : Int) : Rounding :=
  let scale := Nat.pow 10 (-place).toNat
  { r with
    low := r.low * scale
    value := r.value * scale
    high := r.high * scale
    unit := r.unit * Nat.pow 10 place.toNat }

/-- Which of two grid points at the same distance is taken. -/
inductive Tie where
  | up
  | even
deriving DecidableEq

/-- The grid point next to the value that rounds to it; the nearer one if both do. -/
def Rounding.gridPoint? (r : Rounding) (tie : Tie) : Option Nat :=
  let below := r.value / r.unit
  let lower := below * r.unit
  let upper := lower + r.unit
  match r.holds lower, r.holds upper with
  | false, false => none
  | true, false => some below
  | false, true => some (below + 1)
  | true, true =>
    match compare (r.value - lower) (upper - r.value) with
    | .lt => some below
    | .gt => some (below + 1)
    | .eq =>
      match tie with
      | .up => some (below + 1)
      | .even => some (if below % 2 = 0 then below else below + 1)

/-- The power of ten of the value's first decimal digit. -/
def Rounding.leadingPlace (r : Rounding) : Int :=
  if r.unit ≤ r.value then (Nat.toDigits 10 (r.value / r.unit)).length - 1
  else -(Nat.toDigits 10 ((r.unit - 1) / r.value)).length

/-- The decimal `0.d₁d₂… * 10 ^ point`. -/
structure Digits where
  digits : List Char
  point : Int

/-- The decimal `n * 10 ^ place` without trailing zeros. -/
def Digits.ofGrid (n : Nat) (place : Int) : Digits :=
  let all := Nat.toDigits 10 n
  ⟨(all.reverse.dropWhile (· == '0')).reverse, all.length + place⟩

/-- Tries one digit, two digits, and so on, up to seventeen, which are always enough. -/
def Rounding.shortest (r : Rounding) (tie : Tie) : Digits :=
  let place (count : Nat) : Int := r.leadingPlace - count
  let found := (List.range 17).findSome? fun count =>
    ((r.inPlaces (place count)).gridPoint? tie).map (Digits.ofGrid · (place count))
  found.getD ⟨[], 0⟩

/-- The interval of a positive double with the given significand and exponent fields. Just above a
power of two the doubles below are twice as dense as those above. -/
def Rounding.ofFields (fraction exponent : Nat) : Rounding :=
  let mantissa := if exponent = 0 then fraction else fraction + 0x10000000000000
  let power : Int := if exponent = 0 then -1076 else exponent - 1077
  let scale := Nat.pow 2 power.toNat
  let gap := if fraction = 0 && 1 < exponent then 1 else 2
  { low := (4 * mantissa - gap) * scale
    value := 4 * mantissa * scale
    high := (4 * mantissa + 2) * scale
    unit := Nat.pow 2 (-power).toNat
    closed := mantissa % 2 = 0 }

end ServerSymbols.Decimal
