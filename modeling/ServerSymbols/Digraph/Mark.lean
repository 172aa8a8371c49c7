import ServerSymbols.Digraph.Basic

set_option autoImplicit false

/-
Which nodes have a path to a seed. One way marks whole components in the order in which a search
completes them; the other goes over all nodes until nothing changes.
-/
namespace ServerSymbols

/-- A graph with some nodes singled out. -/
structure SeededGraph (n : Nat) extends Digraph n where
  seeds : Vector Bool n

namespace SeededGraph

variable {n : Nat}

def mark (marks : Vector Bool n) (v : Fin n) : Vector Bool n :=
  marks.set v true v.isLt

/-- Whether an edge leads from the node to a marked one. -/
def leadsToMark (g : SeededGraph n) (marks : Vector Bool n) (v : Fin n) : Bool :=
  (g.next v).any marks.get

/-- Marks all of a component if one of its nodes is a seed or has an edge to a marked node. -/
def markComponent (g : SeededGraph n) (marks : Vector Bool n) (component : List (Fin n)) :
    Vector Bool n :=
  if component.any fun v => g.seeds.get v || g.leadsToMark marks v then component.foldl mark marks
  else marks

/-- Every component has to come after those that its edges lead to. -/
def markComponents (g : SeededGraph n) (components : List (List (Fin n))) : Vector Bool n :=
  components.foldl g.markComponent (Vector.replicate n false)

def markNode (g : SeededGraph n) (marks : Vector Bool n) (v : Fin n) : Vector Bool n :=
  if !marks.get v && g.leadsToMark marks v then mark marks v else marks

/-- Goes once over all nodes in ascending order; a new mark counts at once. -/
def pass (g : SeededGraph n) (marks : Vector Bool n) : Vector Bool n :=
  (List.finRange n).foldl g.markNode marks

/-- Makes at most `limit` passes and stops after the first that changes nothing. The result comes
with the number of passes made; there is none if every pass changed something. -/
def saturate (g : SeededGraph n) : Nat → Vector Bool n → Option (Vector Bool n × Nat)
  | 0, _ => none
  | limit + 1, marks =>
    let marked := g.pass marks
    if marked = marks then some (marked, 1)
    else (g.saturate limit marked).map fun (marks, passes) => (marks, passes + 1)

/-- The marks that spread from the seeds in at most `limit` passes. -/
def spread (g : SeededGraph n) (limit : Nat) : Option (Vector Bool n × Nat) :=
  g.saturate limit g.seeds

end SeededGraph

/-- Enough passes for this many nodes: each but the last marks a new node. -/
def passLimit (nodes : Nat) : Nat :=
  nodes + 1

/-- The limit as a word of 64 bits; where it does not fit, the largest word. -/
def passLimit64 (nodes : UInt64) : UInt64 :=
  UInt64.ofNat (Nat.min (passLimit nodes.toNat) 0xffffffffffffffff)

end ServerSymbols
