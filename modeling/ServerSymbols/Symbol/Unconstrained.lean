import ServerSymbols.Symbol.Base

set_option autoImplicit false

/-
The symbols of shapes that reach a constrained shape: the types that hold their data until it is
checked. The members of a shape do not matter here.
-/
namespace ServerSymbols.BaseSymbols

/-- A type that is generated for one collection or union, in a module of its own. -/
def wrapperSymbol (id : ShapeId) : Symbol where
  type := .named (Identifier.pascalCase id.name ++ "Unconstrained")
    ("crate::unconstrained::" ++ Identifier.snakeCase id.name ++ "_unconstrained")
  kind := .wrapper
  file := "src/unconstrained.rs"

/-- The builder in the module that every structure has. -/
def builderSymbol (id : ShapeId) : Symbol where
  type := .named "Builder" (modelModule ++ "::" ++ Identifier.snakeCase id.name)
  kind := .builder
  file := modelFile

/-- Simple shapes keep their own type, which can hold any value; an enum is held as its text. -/
def unconstrainedSymbol (b : BaseSymbols) (shape : Shape) : Except SymbolError Symbol :=
  match shape.kind with
  | .list _ | .set _ | .map _ _ | .union _ => .ok (wrapperSymbol shape.id)
  | .struct _ => .ok (builderSymbol shape.id)
  | .enum _ => .ok { type := .string, kind := .raw }
  | .primitive _ | .intEnum _ => (b.symbol shape.id).map (·.withKind .raw)
  | .operation _ _ _ | .resource _ _ _ | .service _ _ =>
    .error (.unhandledType shape.id shape.type)

end ServerSymbols.BaseSymbols
