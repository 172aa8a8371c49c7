import ServerSymbols.Json.Value
import ServerSymbols.Text.Quoted
import ServerSymbols.Decimal.Style

set_option autoImplicit false

/-
Why a JSON text or value is refused: the text breaks the grammar, or it ends too early, or it
holds well-formed data of the wrong form.
-/
namespace ServerSymbols.Json

/-- A fault of the text itself. -/
inductive Fault where
  | malformed
  | truncated
deriving DecidableEq

/-- What stands in the document where something else was expected. -/
inductive Seen where
  | null
  | bool (value : Bool)
  | num (value : Number)
  | str (value : String)
  | seq
  | map

inductive DataError where
  | wrongType (seen : Seen) (expected : String)
  | outOfRange (value : Int) (expected : String)
  | notSingleKey
  | wrongLength (length : Nat) (expected : String)
  | missingField (name : String)
  | duplicateField (name : String)
  | unknownVariant (name : String) (choices : List String)
  | refused (reason : String)

inductive Error where
  | fault (fault : Fault)
  | data (error : DataError)

/-- Numbers in JSON are positional from 10⁻⁵ up to but not including 10¹⁶, ties go to the even
digit, and exponents always have a sign. -/
def numberStyle : Decimal.Style := ⟨-4, 16, .even, true⟩

def Number.text : Number → String
  | .int i => toString i
  | .float x => numberStyle.text x

def Seen.describe : Seen → String
  | .null => "null"
  | .bool b => "boolean `" ++ (if b then "true" else "false") ++ "`"
  | .num (.int i) => "integer `" ++ (Number.int i).text ++ "`"
  | .num (.float x) => "floating point `" ++ (Number.float x).text ++ "`"
  | .str s => "string " ++ Text.quoted s
  | .seq => "sequence"
  | .map => "map"

def orList (names : List String) : String :=
  " or ".intercalate (names.map fun name => "`" ++ name ++ "`")

def DataError.message : DataError → String
  | .wrongType seen expected => "invalid type: " ++ seen.describe ++ ", expected " ++ expected
  | .outOfRange value expected =>
    "invalid value: " ++ (Seen.num (.int value)).describe ++ ", expected " ++ expected
  | .notSingleKey => "invalid value: map, expected map with a single key"
  | .wrongLength length expected =>
    "invalid length " ++ toString length ++ ", expected " ++ expected
  | .missingField name => "missing field `" ++ name ++ "`"
  | .duplicateField name => "duplicate field `" ++ name ++ "`"
  | .unknownVariant name choices =>
    "unknown variant `" ++ name ++ "`, expected " ++ orList choices
  | .refused reason => reason

def Error.message : Error → String
  | .fault .malformed => "malformed text"
  | .fault .truncated => "the text ends too early"
  | .data error => error.message

end ServerSymbols.Json
