import ServerSymbols.TypeExpr
import ServerSymbols.Model.Error

set_option autoImplicit false

/-
Symbols: the types that stand for shapes in generated code.
-/
namespace ServerSymbols

/-- What a symbol stands for. -/
inductive SymbolKind where
  /-- A type that holds valid data. -/
  | domain
  /-- A generated type that holds the data of a collection or union before it is checked. -/
  | wrapper
  /-- The builder of a structure, which checks its data when it is finished. -/
  | builder
  /-- A raw value that is not checked yet. -/
  | raw
deriving DecidableEq

namespace SymbolKind

def all : List SymbolKind := [domain, wrapper, builder, raw]

def name : SymbolKind → String
  | domain => "domain"
  | wrapper => "unconstrained-wrapper"
  | builder => "deferred-builder"
  | raw => "unvalidated"

def ofName? (name : String) : Option SymbolKind :=
  all.find? (·.name == name)

/-- Symbols for data that is not checked yet. -/
def isUnconstrained (kind : SymbolKind) : Bool :=
  kind ≠ domain

end SymbolKind

structure Symbol where
  type : TypeExpr
  kind : SymbolKind := .domain
  /-- The file of the generated library that defines the type, if it does. -/
  file : Option String := none
deriving DecidableEq

namespace Symbol

def withKind (s : Symbol) (kind : SymbolKind) : Symbol :=
  { s with kind }

/-- Cuts a path at its double colons. `part` holds the part that is being collected, last
character first. -/
def splitPath (part : List Char) : List Char → List (List Char)
  | ':' :: ':' :: rest => part.reverse :: splitPath [] rest
  | c :: rest => splitPath (c :: part) rest
  | [] => [part.reverse]

/-- The module path below the root of the generated library; empty for other types. -/
def modulePath (s : Symbol) : List String :=
  match s.type.space with
  | none => []
  | some space =>
    match splitPath [] space.toList with
    | root :: rest => if root = "crate".toList then rest.map String.ofList else []
    | [] => []

end Symbol

/-- Why a shape has no symbol. -/
inductive SymbolError where
  /-- The shape is not part of what is generated. -/
  | unknownShape (id : ShapeId)
  /-- Shapes of this type have no symbol. -/
  | unhandledType (shape : ShapeId) (type : ShapeType)
  /-- Marking constrained shapes did not end within its limit of passes. -/
  | unsettled (passes shapes : Nat)
  | model (error : ModelError)

namespace SymbolError

/-- A shape that the model does not know is not part of what is generated. -/
def ofModel : ModelError → SymbolError
  | .unknownShape id => .unknownShape id
  | error => .model error

def message : SymbolError → String
  | unknownShape id => "shape '" ++ id.text ++ "' is not part of the service closure"
  | unhandledType shape type =>
    "shape '" ++ shape.text ++ "' of kind " ++ type.name ++
      " can reach a constrained shape, but " ++ type.name ++
      " shapes have no unconstrained representation"
  | unsettled passes shapes =>
    "reachability analysis did not converge after " ++ toString passes ++ " passes over " ++
      toString shapes ++ " shapes"
  | model error => error.message

end SymbolError

end ServerSymbols
