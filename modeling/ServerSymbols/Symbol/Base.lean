import ServerSymbols.Settings

set_option autoImplicit false

/-
The symbols of shapes, constraints left aside: the types that hold valid data.
-/
namespace ServerSymbols

/-- What the symbols of a model depend on. -/
structure BaseSymbols where
  model : Model
  runtime : RuntimeConfig

/-- The module of the generated library that defines the types of shapes. -/
def modelModule : String := "crate::model"

def modelFile : String := "src/model.rs"

namespace BaseSymbols

def primitiveType (runtime : RuntimeConfig) : Primitive → TypeExpr
  | .boolean => .bool
  | .string => .string
  | .byte => .int 8
  | .short => .int 16
  | .integer => .int 32
  | .long => .int 64
  | .float => .float 32
  | .double => .float 64
  | .blob => .named "Blob" runtime.dataModule
  | .timestamp => .named "DateTime" runtime.dataModule
  | .document => .named "Document" runtime.dataModule
  | .bigInteger => .named "BigInteger" runtime.dataModule
  | .bigDecimal => .named "BigDecimal" runtime.dataModule

/-- The symbol of a type that the generated library defines under the shape's name. -/
def definedSymbol (id : ShapeId) (space file : String) : Symbol :=
  { type := .named (Identifier.pascalCase id.name) space, file }

/-- The symbol of a shape, given the types of the shapes that it holds if it is a collection. -/
def shapeSymbol (runtime : RuntimeConfig) (shape : Shape)
    (typeOf : ShapeId → Except SymbolError TypeExpr) : Except SymbolError Symbol := do
  match shape.kind with
  | .struct _ | .union _ | .enum _ => .ok (definedSymbol shape.id modelModule modelFile)
  | .list member | .set member => do
    let item ← typeOf member.target
    .ok { type := .vec item }
  | .map key value => do
    let keyType ← typeOf key.target
    let valueType ← typeOf value.target
    .ok { type := .map keyType valueType }
  | .primitive kind => .ok { type := primitiveType runtime kind }
  | .intEnum _ => .ok { type := primitiveType runtime .integer }
  | .operation _ _ _ => .ok (definedSymbol shape.id "crate::operation" "src/operation.rs")
  | .service _ _ => .ok (definedSymbol shape.id "crate" "src/lib.rs")
  | .resource _ _ _ => .error (.unhandledType shape.id shape.type)

/-- The symbol of a shape in which fewer than `depth` collections stand inside one another. -/
def symbolWithin (b : BaseSymbols) : Nat → ShapeId → Except SymbolError Symbol
  | 0, id => .error (.unknownShape id)
  | depth + 1, id =>
    match b.model.get? id with
    | none => .error (.unknownShape id)
    | some shape =>
      shapeSymbol b.runtime shape fun target => (b.symbolWithin depth target).map (·.type)

/-- The symbol of a shape. No collection contains itself, so one more than the number of
collections is depth enough. -/
def symbol (b : BaseSymbols) (id : ShapeId) : Except SymbolError Symbol :=
  b.symbolWithin (b.model.shapes.countP (·.isCollection) + 1) id

end BaseSymbols

end ServerSymbols
