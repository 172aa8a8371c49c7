import ServerSymbols.Model.Closure
import ServerSymbols.Digraph.Component
import ServerSymbols.Digraph.Mark
import ServerSymbols.Symbol.Basic

set_option autoImplicit false

/-
Which shapes of a closure reach a constrained shape: those that are constrained themselves and
those with a member whose target reaches one.
-/
namespace ServerSymbols

/-- How the shapes that reach a constrained shape are found. -/
inductive Strategy where
  /-- Component by component. -/
  | condensation
  /-- By passes over all shapes until nothing changes. -/
  | fixpoint
deriving DecidableEq

namespace Strategy

def name : Strategy → String
  | condensation => "condensation"
  | fixpoint => "fixpoint"

def choices : List (String × Strategy) :=
  [(condensation.name, condensation), (fixpoint.name, fixpoint)]

end Strategy

namespace Closure

/-- The indices of the shapes that a data shape's members refer to. -/
def memberEdges (m : Model) (c : Closure) (id : ShapeId) : List (Fin c.size) :=
  match m.get? id with
  | some shape => if shape.isData then shape.targets.filterMap c.indexOf? else []
  | none => []

/-- The n-th node is the n-th shape; edges are the members of data shapes, and the seeds are the
constrained shapes. -/
def memberGraph (m : Model) (c : Closure) : SeededGraph c.size where
  edges := Vector.ofFn fun i => memberEdges m c (c.get i)
  seeds := Vector.ofFn fun i => (m.get? (c.get i)).any Shape.isConstrained

end Closure

/-- What is known about the shapes of a closure. -/
structure Reachability where
  closure : Closure
  marks : Vector Bool closure.size
  /-- The groups of shapes that contain themselves through members. -/
  cycles : List (List ShapeId)
  strategy : Strategy
  passes : Nat

namespace Digraph

variable {n : Nat}

/-- Whether a component has a path from one of its nodes back to that node. -/
def isCyclic (g : Digraph n) (component : List (Fin n)) : Bool :=
  1 < component.length || component.any fun v => (g.next v).contains v

end Digraph

namespace SeededGraph

variable {n : Nat}

/-- The marks that spread from the seeds in at most `limit` passes, with the number of passes that
were made; an error if these passes do not suffice. -/
def settle (g : SeededGraph n) (limit : Nat) : Except SymbolError (Vector Bool n × Nat) :=
  match g.spread limit with
  | some result => .ok result
  | none => .error (.unsettled limit n)

/-- The nodes with a path to a seed, and the number of passes that were made to find them. -/
def reaching (g : SeededGraph n) (strategy : Strategy) (components : List (List (Fin n))) :
    Except SymbolError (Vector Bool n × Nat) :=
  match strategy with
  | .condensation => .ok (g.markComponents components, 1)
  | .fixpoint => g.settle (passLimit n)

end SeededGraph

namespace Reachability

def compute (m : Model) (closure : Closure) (strategy : Strategy) :
    Except SymbolError Reachability := do
  if let some id := closure.ids.find? (!m.contains ·) then .error (.unknownShape id)
  let graph := closure.memberGraph m
  let components := graph.components
  let (marks, passes) ← graph.reaching strategy components
  .ok {
    closure, marks, strategy, passes
    cycles := (components.filter graph.isCyclic).map (·.map closure.get) }

/-- Whether a shape of the closure reaches a constrained one. -/
def reaches? (r : Reachability) (id : ShapeId) : Option Bool :=
  (r.closure.indexOf? id).map r.marks.get

/-- The shapes that reach a constrained one, in the order of the closure. -/
def reachable (r : Reachability) : List ShapeId :=
  ((List.finRange r.closure.size).filter r.marks.get).map r.closure.get

def reachableCount (r : Reachability) : Nat :=
  r.marks.countP id

/-- The group that the shape belongs to, if it contains itself through members. -/
def cycleOf? (r : Reachability) (id : ShapeId) : Option (List ShapeId) :=
  r.cycles.find? (id ∈ ·)

end Reachability

/-- What is to be analysed: everything that a service leads to. -/
structure Analysis where
  model : Model
  service : ShapeId
  strategy : Strategy

/-- Analyses the closure of the service. -/
def Analysis.compute (a : Analysis) : Except SymbolError Reachability := do
  let closure ← (a.model.serviceClosure a.service).mapError .ofModel
  Reachability.compute a.model closure a.strategy

end ServerSymbols
