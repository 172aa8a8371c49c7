import ServerSymbols.Table.Row
import ServerSymbols.Proofs.Symbol.Resolver

set_option autoImplicit false

/-
The rows of a run, said without a cache.
-/
namespace ServerSymbols

open Query

namespace Table

/-- The row of a shape, resolved afresh. -/
def plainRow? (resolver : Resolver) (result : Reachability) (onlyUnconstrained : Bool)
    (shape : Shape) : Except RowError (Option Row) := do
  let symbol ← (resolver.plainSymbol shape.id).mapError (.unresolved shape.id)
  let unconstrained := symbol.kind.isUnconstrained
  if onlyUnconstrained && !unconstrained then return none
  let wrapped ← (resolver.plainWrapped shape.id).mapError .symbol
  return some {
    shape := shape.id.text
    shapeType := shape.type.name
    kind := symbol.kind.name
    type := symbol.type.render false
    space := symbol.type.space
    unconstrained
    recursive := (result.cycleOf? shape.id).isSome
    wraps := wrapped.map (·.render true) }

/-- The rows of the shapes with these ids, resolved afresh. -/
def plainRowsOf (context : Context) (result : Reachability) (onlyUnconstrained : Bool) :
    List ShapeId → Except RowError (List Row)
  | [] => .ok []
  | id :: rest => do
    let shape ← (context.resolver.expectShape id).mapError .symbol
    let first ←
      if shape.isData then plainRow? context.resolver result onlyUnconstrained shape else pure none
    let others ← plainRowsOf context result onlyUnconstrained rest
    return first.toList ++ others

/-- The rows of a run, resolved afresh. -/
def plainRows (context : Context) (onlyUnconstrained : Bool) : Except RowError (List Row) := do
  let result ← context.analysis.compute.mapError .symbol
  plainRowsOf context result onlyUnconstrained result.closure.ids

section Keeps

variable {context : Context} {ok : Cache → Prop}

theorem gives_row? (keeps : context.resolver.Keeps ok) (result : Reachability)
    (onlyUnconstrained : Bool) (shape : Shape) :
    Gives ok (row? context.resolver result onlyUnconstrained shape)
      (plainRow? context.resolver result onlyUnconstrained shape) := by
  refine ((keeps.gives_symbol shape.id).mapError _).bind fun symbol _ => ?_
  dsimp only
  split
  · exact gives_pure none
  · exact ((keeps.gives_wrappedType shape.id).mapError _).bind fun wrapped _ => gives_pure _

theorem gives_rowsOf (keeps : context.resolver.Keeps ok) (result : Reachability)
    (onlyUnconstrained : Bool) (ids : List ShapeId) :
    Gives ok (rowsOf context result onlyUnconstrained ids)
      (plainRowsOf context result onlyUnconstrained ids) := by
  induction ids with
  | nil => exact gives_pure []
  | cons id rest ih =>
    refine (gives_ofExcept _).bind fun shape _ => ?_
    have joined (first : Option Row) : Gives ok
        (do return first.toList ++ (← rowsOf context result onlyUnconstrained rest))
        (do return first.toList ++ (← plainRowsOf context result onlyUnconstrained rest)) :=
      ih.bind fun others _ => gives_pure _
    dsimp only
    split
    · exact (gives_row? keeps result onlyUnconstrained shape).bind fun first _ => joined first
    · exact joined none

theorem gives_rows_of_keeps (keeps : context.resolver.Keeps ok) (onlyUnconstrained : Bool) :
    Gives ok (rows context onlyUnconstrained) (plainRows context onlyUnconstrained) :=
  (keeps.gives_result.mapError _).bind fun result _ =>
    gives_rowsOf keeps result onlyUnconstrained result.closure.ids

end Keeps

theorem gives_rows (context : Context) (onlyUnconstrained : Bool) :
    Gives context.resolver.Sound (rows context onlyUnconstrained)
      (plainRows context onlyUnconstrained) :=
  gives_rows_of_keeps context.resolver.keeps_sound onlyUnconstrained

end Table

end ServerSymbols
