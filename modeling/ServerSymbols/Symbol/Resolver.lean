import ServerSymbols.Symbol.Unconstrained

set_option autoImplicit false

/-
Symbols with regard to constraints. What was found out once is kept for the rest of the run.
-/
namespace ServerSymbols

/-- What a run has found out so far. -/
structure Cache where
  reachability : Option Reachability := none
  symbols : List (ShapeId × Symbol) := []

/-- Whether the analysis was made. -/
def Cache.isComputed (cache : Cache) : Bool :=
  cache.reachability.isSome

/-- A question that may use and fill the cache. What it found out stays even if it fails. -/
abbrev Query (ε α : Type) := ExceptT ε (StateM Cache) α

namespace Query

variable {ε α : Type}

def ofExcept (result : Except ε α) : Query ε α :=
  ExceptT.mk (pure result)

def mapError {ε' : Type} (f : ε → ε') (query : Query ε α) : Query ε' α :=
  ExceptT.mk (do return (← query.run).mapError f)

/-- The answer, and the cache behind it. -/
def answer (query : Query ε α) (cache : Cache) : Except ε α × Cache :=
  query.run.run cache

end Query

namespace Analysis

/-- The result of the analysis, which is made when it is first needed. A failure is not kept. -/
def result (a : Analysis) : Query SymbolError Reachability := do
  match (← get).reachability with
  | some found => return found
  | none =>
    let found ← Query.ofExcept a.compute
    modify ({ · with reachability := some found })
    return found

/-- Whether a shape of the service reaches a constrained one. -/
def reaches (a : Analysis) (id : ShapeId) : Query SymbolError Bool := do
  match (← a.result).reaches? id with
  | some answer => return answer
  | none => throw (.unknownShape id)

end Analysis

/-- Answers which symbol stands for a shape. -/
structure Resolver where
  analysis : Analysis
  base : BaseSymbols

namespace Resolver

def expectShape (r : Resolver) (id : ShapeId) : Except SymbolError Shape :=
  match r.base.model.get? id with
  | some shape => .ok shape
  | none => .error (.unknownShape id)

/-- Shapes that reach a constrained shape have their unconstrained symbol, all others have their
base symbol. -/
def resolve (r : Resolver) (id : ShapeId) : Query SymbolError Symbol := do
  if ← r.analysis.reaches id then
    let shape ← Query.ofExcept (r.expectShape id)
    Query.ofExcept (r.base.unconstrainedSymbol shape)
  else Query.ofExcept (r.base.symbol id)

/-- The symbol of a shape; a symbol once resolved is kept. -/
def symbol (r : Resolver) (id : ShapeId) : Query SymbolError Symbol := do
  match (← get).symbols.lookup id with
  | some found => return found
  | none =>
    let found ← r.resolve id
    modify fun cache => { cache with symbols := (id, found) :: cache.symbols }
    return found

/-- What the unconstrained type of a collection holds: the types that the symbols of its members'
targets have. Shapes without such a type hold nothing. -/
def wrappedType (r : Resolver) (id : ShapeId) : Query SymbolError (Option TypeExpr) := do
  if !(← r.analysis.reaches id) then return none
  let shape ← Query.ofExcept (r.expectShape id)
  match shape.kind with
  | .list member | .set member =>
    let item ← r.symbol member.target
    return some (.vec item.type)
  | .map key value =>
    let keySymbol ← r.symbol key.target
    let valueSymbol ← r.symbol value.target
    return some (.map keySymbol.type valueSymbol.type)
  | _ => return none

end Resolver

end ServerSymbols
