import ServerSymbols.Decimal.Shortest

set_option autoImplicit false

/-
Texts of floating-point numbers. A style says where positional digits end and the exponent form
begins; the digits are always the fewest that read back as the same number.
-/
namespace ServerSymbols.Decimal

/-- How to write a number. Positional digits are used while the decimal point stands between
`lowest` and `highest` places after the first digit. -/
structure Style where
  lowest : Int
  highest : Int
  tie : Tie
  /-- Whether a plus sign stands before an exponent that is not negative. -/
  plus : Bool

/-- The exponent with its sign. -/
def exponentText (plus : Bool) (power : Int) : List Char :=
  if plus && 0 ≤ power then '+' :: (toString power).toList else (toString power).toList

/-- `d.ddd` times a power of ten. -/
def exponentForm (plus : Bool) (digits : List Char) (power : Int) : List Char :=
  let fraction :=
    match digits.drop 1 with
    | [] => []
    | rest => '.' :: rest
  digits.take 1 ++ fraction ++ 'e' :: exponentText plus power

/-- Digits around the decimal point, with at least one on either side. -/
def positional (digits : List Char) (point : Int) : List Char :=
  if point ≤ 0 then
    '0' :: '.' :: List.replicate (-point).toNat '0' ++ digits
  else
    let whole := digits.take point.toNat
    let fraction := digits.drop point.toNat
    whole ++ List.replicate (point.toNat - whole.length) '0' ++
      '.' :: (if fraction.isEmpty then ['0'] else fraction)

def Style.digits (style : Style) (d : Digits) : List Char :=
  if style.lowest ≤ d.point && d.point ≤ style.highest then positional d.digits d.point
  else exponentForm style.plus d.digits (d.point - 1)

/-- The double with the given bits: a sign bit, eleven bits of exponent, 52 bits of fraction. -/
def Style.bits (style : Style) (bits : Nat) : List Char :=
  let fraction := bits % 0x10000000000000
  let exponent := bits / 0x10000000000000 % 0x800
  let sign := if 0x8000000000000000 ≤ bits then ['-'] else []
  if exponent = 0x7ff then
    if fraction = 0 then sign ++ ['i', 'n', 'f'] else ['N', 'a', 'N']
  else if fraction = 0 && exponent = 0 then sign ++ ['0', '.', '0']
  else sign ++ style.digits ((Rounding.ofFields fraction exponent).shortest style.tie)

def Style.text (style : Style) (x : Float) : String :=
  String.ofList (style.bits x.toBits.toNat)

end ServerSymbols.Decimal
