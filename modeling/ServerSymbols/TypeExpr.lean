set_option autoImplicit false

/-
Types of the generated code.
-/
namespace ServerSymbols

inductive TypeExpr where
  | string
  | bool
  /-- A signed integer of so many bits. -/
  | int (bits : UInt8)
  | float (bits : UInt8)
  | vec (item : TypeExpr)
  | map (key value : TypeExpr)
  /-- A type that is defined in generated code or in a runtime library. -/
  | named (name : String) (space : Option String)
deriving DecidableEq

namespace TypeExpr

/-- The name of the outermost type. -/
def name : TypeExpr → String
  | string => "String"
  | bool => "bool"
  | int bits => "i" ++ toString bits.toNat
  | float bits => "f" ++ toString bits.toNat
  | vec _ => "Vec"
  | map _ _ => "HashMap"
  | named name _ => name

/-- The module of the outermost type. Built-in types have none. -/
def space : TypeExpr → Option String
  | string => some "std::string"
  | bool | int _ | float _ => none
  | vec _ => some "std::vec"
  | map _ _ => some "std::collections"
  | named _ space => space

/-- The name of the outermost type, behind its module if `full` is set. -/
def head (full : Bool) (type : TypeExpr) : String :=
  match full, type.space with
  | true, some space => space ++ "::" ++ type.name
  | _, _ => type.name

/-- The type as it is written in code. -/
def render (full : Bool) : TypeExpr → String
  | vec item => (vec item).head full ++ "<" ++ item.render full ++ ">"
  | map key value =>
    (map key value).head full ++ "<" ++ key.render full ++ ", " ++ value.render full ++ ">"
  | type => type.head full

end TypeExpr

end ServerSymbols
