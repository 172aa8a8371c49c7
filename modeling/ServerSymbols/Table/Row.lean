import ServerSymbols.Context
import ServerSymbols.Json.Value

set_option autoImplicit false

/-
The symbol table of a run: one row for each data shape of the service.
-/
namespace ServerSymbols.Table

structure Row where
  shape : String
  shapeType : String
  kind : String
  type : String
  space : Option String
  unconstrained : Bool
  /-- The shape contains itself through members. -/
  recursive : Bool
  /-- What the unconstrained type of a collection holds. -/
  wraps : Option String

/-- The JSON form; nothing is written for a shape that wraps nothing. -/
def Row.toValue (row : Row) : Json.Value :=
  let wraps :=
    match row.wraps with
    | some type => [("wraps", Json.Value.str type)]
    | none => []
  .obj ([
    ("shape", .str row.shape),
    ("shape_type", .str row.shapeType),
    ("kind", .str row.kind),
    ("type", .str row.type),
    ("namespace", Settings.textOrNull row.space),
    ("unconstrained", .bool row.unconstrained),
    ("recursive", .bool row.recursive)] ++ wraps)

/-- Why a table cannot be made. -/
inductive RowError where
  | symbol (error : SymbolError)
  /-- The shape of a row has no symbol. -/
  | unresolved (id : ShapeId) (error : SymbolError)

/-- The row of a shape, unless it is not wanted. -/
def row? (resolver : Resolver) (result : Reachability) (onlyUnconstrained : Bool) (shape : Shape) :
    Query RowError (Option Row) := do
  let symbol ← (resolver.symbol shape.id).mapError (.unresolved shape.id)
  let unconstrained := symbol.kind.isUnconstrained
  if onlyUnconstrained && !unconstrained then return none
  let wrapped ← (resolver.wrappedType shape.id).mapError .symbol
  return some {
    shape := shape.id.text
    shapeType := shape.type.name
    kind := symbol.kind.name
    type := symbol.type.render false
    space := symbol.type.space
    unconstrained
    recursive := (result.cycleOf? shape.id).isSome
    wraps := wrapped.map (·.render true) }

/-- The rows of the shapes with these ids; shapes that describe no data have none. -/
def rowsOf (context : Context) (result : Reachability) (onlyUnconstrained : Bool) :
    List ShapeId → Query RowError (List Row)
  | [] => return []
  | id :: rest => do
    let shape ← Query.ofExcept ((context.resolver.expectShape id).mapError .symbol)
    let first ←
      if shape.isData then row? context.resolver result onlyUnconstrained shape else pure none
    let others ← rowsOf context result onlyUnconstrained rest
    return first.toList ++ others

/-- The rows of a run in the order of the closure. -/
def rows (context : Context) (onlyUnconstrained : Bool) : Query RowError (List Row) := do
  let result ← context.analysis.result.mapError .symbol
  rowsOf context result onlyUnconstrained result.closure.ids

end ServerSymbols.Table
