import ServerSymbols.Text.Quoted
import ServerSymbols.Decimal.Style

set_option autoImplicit false

/-
Constraint traits: what restricts the values of a shape or of a member.
-/
namespace ServerSymbols

inductive Constraint where
  /-- The member has to be present. -/
  | required
  /-- Bounds on the length of a string or blob or on the size of a collection. -/
  | length (min max : Option UInt64)
  /-- The string has to match a regular expression. -/
  | pattern (text : String)
  /-- Bounds on a number. -/
  | range (min max : Option Float)
  /-- The string is one of these. -/
  | enum (values : List String)
  /-- The integer is one of these. -/
  | intEnum (values : List Int32)
  /-- The items of a list are distinct. -/
  | uniqueItems

namespace Constraint

/-- The id of the trait that a constraint is read from. -/
def traitId : Constraint → String
  | required => "smithy.api#required"
  | length _ _ => "smithy.api#length"
  | pattern _ => "smithy.api#pattern"
  | range _ _ => "smithy.api#range"
  | enum _ => "smithy.api#enum"
  | intEnum _ => "smithy.api#enumValue"
  | uniqueItems => "smithy.api#uniqueItems"

/-- Bounds are positional from 10⁻⁴ up to but not including 10¹⁶, ties go up, and only negative
exponents have a sign. -/
def boundStyle : Decimal.Style := ⟨-3, 16, .up, false⟩

def bound {α : Type} (text : α → String) : Option α → String
  | none => "None"
  | some value => "Some(" ++ text value ++ ")"

def bounds {α : Type} (name : String) (text : α → String) (min max : Option α) : String :=
  "@" ++ name ++ "(min: " ++ bound text min ++ ", max: " ++ bound text max ++ ")"

def display : Constraint → String
  | required => "@required"
  | length min max => bounds "length" (fun n => toString n.toNat) min max
  | pattern text => "@pattern(" ++ Text.quoted text ++ ")"
  | range min max => bounds "range" boundStyle.text min max
  | enum values => "@enum(" ++ toString values.length ++ " values)"
  | intEnum values => "@intEnum(" ++ toString values.length ++ " values)"
  | uniqueItems => "@uniqueItems"

end Constraint

end ServerSymbols
