import ServerSymbols.Digraph.Basic

set_option autoImplicit false

/-
Strongly connected components, by one depth-first search that keeps its path in a list.
-/
namespace ServerSymbols.Digraph

variable {n : Nat}

/-- The state of the search for components. -/
structure Search (n : Nat) where
  /-- When a node was first visited. -/
  index : Vector (Option Nat) n
  /-- The earliest index known to be in the node's component. -/
  low : Vector Nat n
  /-- The visited nodes whose component is not complete, the last one first. -/
  stack : List (Fin n)
  /-- The index of the next new node. -/
  count : Nat
  /-- The complete components, the last one first. -/
  done : List (List (Fin n))
  path : List (Visit n)

namespace Search

def start (n : Nat) : Search n where
  index := Vector.replicate n none
  low := Vector.replicate n 0
  stack := []
  count := 0
  done := []
  path := []

def isNew (s : Search n) (v : Fin n) : Bool :=
  (s.index.get v).isNone

/-- Enters a new node. -/
def visit (g : Digraph n) (s : Search n) (v : Fin n) : Search n :=
  { s with
    index := s.index.set v (some s.count) v.isLt
    low := s.low.set v s.count v.isLt
    stack := v :: s.stack
    count := s.count + 1
    path := ⟨v, g.next v⟩ :: s.path }

def lower (s : Search n) (v : Fin n) (bound : Nat) : Search n :=
  { s with low := s.low.set v (Nat.min (s.low.get v) bound) v.isLt }

/-- Follows an edge to a node that was visited before. -/
def meet (s : Search n) (v w : Fin n) : Search n :=
  match s.index.get w with
  | some index => if s.stack.contains w then s.lower v index else s
  | none => s

/-- Takes the nodes down to `v` from the stack as one component in ascending order. -/
def complete (s : Search n) (v : Fin n) : Search n :=
  let component := v :: s.stack.takeWhile (· != v)
  { s with
    stack := (s.stack.dropWhile (· != v)).drop 1
    done := component.mergeSort (· ≤ ·) :: s.done }

/-- Leaves a node whose edges are all followed; `path` is the path behind it. -/
def leave (s : Search n) (v : Fin n) (path : List (Visit n)) : Search n :=
  let left : Search n :=
    match path with
    | [] => s
    | parent :: _ => s.lower parent.node (s.low.get v)
  let s : Search n := { left with path }
  if s.index.get v = some (s.low.get v) then s.complete v else s

@[simp] theorem index_lower (s : Search n) (v : Fin n) (bound : Nat) :
    (s.lower v bound).index = s.index := rfl

@[simp] theorem path_lower (s : Search n) (v : Fin n) (bound : Nat) :
    (s.lower v bound).path = s.path := rfl

@[simp] theorem index_meet (s : Search n) (v w : Fin n) : (s.meet v w).index = s.index := by
  unfold meet; split
  · split <;> rfl
  · rfl

@[simp] theorem path_meet (s : Search n) (v w : Fin n) : (s.meet v w).path = s.path := by
  unfold meet; split
  · split <;> rfl
  · rfl

@[simp] theorem index_leave (s : Search n) (v : Fin n) (path : List (Visit n)) :
    (s.leave v path).index = s.index := by
  unfold leave complete; cases path <;> simp only [] <;> split <;> rfl

@[simp] theorem path_leave (s : Search n) (v : Fin n) (path : List (Visit n)) :
    (s.leave v path).path = path := by
  unfold leave complete; cases path <;> simp only [] <;> split <;> rfl

/-- One step: an edge of the path's last node is followed, or that node is left. -/
def step? (g : Digraph n) (s : Search n) : Option (Search n) :=
  match s.path with
  | [] => none
  | ⟨v, []⟩ :: rest => some (s.leave v rest)
  | ⟨v, w :: todo⟩ :: rest =>
    let s : Search n := { s with path := ⟨v, todo⟩ :: rest }
    some (if s.isNew w then s.visit g w else s.meet v w)

/-- A step visits a new node, or leaves fewer steps pending. -/
theorem step?_decreases {g : Digraph n} {s s' : Search n} (h : s.step? g = some s') :
    Prod.Lex (· < ·) (· < ·) (s'.index.countP Option.isNone, pending s'.path)
      (s.index.countP Option.isNone, pending s.path) := by
  unfold step? at h
  split at h
  · contradiction
  · next v rest path =>
    cases h
    rw [index_leave, path_leave, path]
    exact Prod.Lex.right _ (by simp)
  · next v w todo rest path =>
    simp only [Option.some.injEq] at h
    subst h
    split
    · next fresh => exact Prod.Lex.left _ _ (countP_set_lt Option.isNone s.index w _ fresh rfl)
    · rw [index_meet, path_meet, path]
      exact Prod.Lex.right _ (by simp)

/-- Follows the path until it is used up. -/
def run (g : Digraph n) (s : Search n) : Search n :=
  match _step : s.step? g with
  | none => s
  | some s' => run g s'
termination_by (s.index.countP Option.isNone, pending s.path)
decreasing_by exact step?_decreases _step

/-- Searches from a node unless it was visited before. -/
def root (g : Digraph n) (s : Search n) (v : Fin n) : Search n :=
  if s.isNew v then (s.visit g v).run g else s

end Search

/-- The strongly connected components, each in ascending order. A component comes after those
that its edges lead to. -/
def components (g : Digraph n) : List (List (Fin n)) :=
  ((List.finRange n).foldl (Search.root g) (Search.start n)).done.reverse

end ServerSymbols.Digraph
