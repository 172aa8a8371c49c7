import ServerSymbols.Proofs.Digraph.Complete
import Mathlib

set_option autoImplicit false

/-
The search for components as a recursive function, without a path. The search that keeps its path in
a list does what the recursion does: to follow the edges of the last node of a path and to leave it
is one call of the recursion, and what is before it on the path waits for the call to end.
-/
namespace ServerSymbols.Digraph

variable {n : Nat} {g : Digraph n}

/-- The state of the recursive search for components. -/
structure Recursion (n : Nat) where
  /-- When a node was first visited. -/
  index : Vector (Option Nat) n
  /-- The earliest index known to be in the node's component. -/
  low : Vector Nat n
  /-- The visited nodes whose component is not complete, the last one first. -/
  stack : List (Fin n)
  count : Nat
  /-- The complete components in their order, each as it was taken from the stack. -/
  components : List (List (Fin n))

namespace Recursion

def start (n : Nat) : Recursion n where
  index := Vector.replicate n none
  low := Vector.replicate n 0
  stack := []
  count := 0
  components := []

def isNew (s : Recursion n) (v : Fin n) : Bool :=
  (s.index.get v).isNone

def visit (s : Recursion n) (v : Fin n) : Recursion n :=
  { s with
    index := s.index.set v (some s.count) v.isLt
    low := s.low.set v s.count v.isLt
    stack := v :: s.stack
    count := s.count + 1 }

def lower (s : Recursion n) (v : Fin n) (bound : Nat) : Recursion n :=
  { s with low := s.low.set v (min (s.low.get v) bound) v.isLt }

/-- Takes account of an edge to a node that was visited before. -/
def meet (s : Recursion n) (v w : Fin n) : Recursion n :=
  if s.stack.contains w then s.lower v ((s.index.get w).getD 0) else s

/-- Takes nodes from the stack until `v` is taken. -/
def pop (s : Recursion n) (v : Fin n) : Recursion n :=
  { s with
    stack := (s.stack.dropWhile (· != v)).drop 1
    components := s.components ++ [s.stack.takeWhile (· != v) ++ [v]] }

/-- Completes the component of a node that leads to no earlier node of the stack. -/
def finish (s : Recursion n) (v : Fin n) : Recursion n :=
  if s.index.get v = some (s.low.get v) then s.pop v else s

/-- How many nodes are still to be visited. -/
def remaining (s : Recursion n) : Nat :=
  s.index.countP Option.isNone

@[simp] theorem remaining_lower (s : Recursion n) (v : Fin n) (bound : Nat) :
    (s.lower v bound).remaining = s.remaining := rfl

@[simp] theorem remaining_meet (s : Recursion n) (v w : Fin n) :
    (s.meet v w).remaining = s.remaining := by
  unfold meet
  split <;> rfl

@[simp] theorem remaining_finish (s : Recursion n) (v : Fin n) :
    (s.finish v).remaining = s.remaining := by
  unfold finish
  split <;> rfl

theorem remaining_visit_lt {s : Recursion n} {v : Fin n} (new : s.isNew v = true) :
    (s.visit v).remaining < s.remaining :=
  countP_set_lt Option.isNone s.index v _ new rfl

theorem remaining_back_lt {s inner : Recursion n} {v w : Fin n} {bound : Nat}
    (new : s.isNew w = true) (within : inner.remaining ≤ (s.visit w).remaining) :
    ((inner.finish w).lower v bound).remaining < s.remaining := by
  have fewer := remaining_visit_lt new
  simp
  omega

/-- Follows these edges of the node `v`. A new node is visited, its own edges are followed, and it
is finished, before `v` learns how far back it leads. Of any other node only the index counts, and
only if the node is on the stack. -/
def follow (g : Digraph n) (s : Recursion n) (v : Fin n) :
    List (Fin n) → { after : Recursion n // after.remaining ≤ s.remaining }
  | [] => ⟨s, Nat.le_refl _⟩
  | w :: todo =>
    if _new : s.isNew w = true then
      let inner := follow g (s.visit w) w (g.next w)
      let left := inner.val.finish w
      let rest := follow g (left.lower v (left.low.get w)) v todo
      ⟨rest.val, rest.property.trans (remaining_back_lt _new inner.property).le⟩
    else
      let rest := follow g (s.meet v w) v todo
      ⟨rest.val, rest.property.trans (remaining_meet s v w).le⟩
termination_by todo => (s.remaining, todo.length)
decreasing_by
  · exact Prod.Lex.left _ _ (remaining_visit_lt _new)
  · exact Prod.Lex.left _ _ (remaining_back_lt _new inner.property)
  · rw [remaining_meet]
    apply Prod.Lex.right
    simp

/-- Visits a node, unless it was visited before, and all that is still to be found from it. -/
def root (g : Digraph n) (s : Recursion n) (v : Fin n) : Recursion n :=
  if s.isNew v then (follow g (s.visit v) v (g.next v)).val.finish v else s

end Recursion

/-- The strongly connected components as the recursive search takes them from its stack. -/
def recursiveComponents (g : Digraph n) : List (List (Fin n)) :=
  ((List.finRange n).foldl (Recursion.root g) (Recursion.start n)).components

namespace Recursion

/-! ### The path as a list -/

section Path

variable {s : Recursion n} {v w : Fin n} {todo : List (Fin n)} {path rest : List (Visit n)}

/-- The state of the search with this path. -/
def withPath (s : Recursion n) (path : List (Visit n)) : Search n where
  index := s.index
  low := s.low
  stack := s.stack
  count := s.count
  done := (s.components.map (·.mergeSort (· ≤ ·))).reverse
  path := path

/-- Sorting forgets the order in which nodes were taken from the stack. -/
theorem mergeSort_eq_of_perm {xs ys : List (Fin n)} (perm : xs.Perm ys) :
    xs.mergeSort (· ≤ ·) = ys.mergeSort (· ≤ ·) := by
  apply List.Perm.eq_of_pairwise' (r := (· ≤ ·))
  · exact List.pairwise_mergeSort' (· ≤ ·) xs
  · exact List.pairwise_mergeSort' (· ≤ ·) ys
  · exact (List.mergeSort_perm xs _).trans (perm.trans (List.mergeSort_perm ys _).symm)

theorem withPath_complete (s : Recursion n) (v : Fin n) (path : List (Visit n)) :
    (s.withPath path).complete v = (s.pop v).withPath path := by
  have same : (v :: s.stack.takeWhile (· != v)).mergeSort (· ≤ ·) =
      (s.stack.takeWhile (· != v) ++ [v]).mergeSort (· ≤ ·) :=
    mergeSort_eq_of_perm (List.perm_append_singleton v _).symm
  simp [Search.complete, withPath, pop, same]

theorem withPath_finish (s : Recursion n) (v : Fin n) (path : List (Visit n)) :
    (if s.index.get v = some (s.low.get v) then (s.withPath path).complete v
      else s.withPath path) = (s.finish v).withPath path := by
  unfold finish
  by_cases root : s.index.get v = some (s.low.get v)
  · rw [if_pos root, if_pos root, withPath_complete]
  · rw [if_neg root, if_neg root]

theorem withPath_meet (met : s.isNew w = false) (path : List (Visit n)) :
    (s.withPath path).meet v w = (s.meet v w).withPath path := by
  obtain ⟨index, known⟩ : ∃ index, s.index.get w = some index := by
    simpa [isNew, Option.isNone_eq_false_iff, Option.isSome_iff_exists] using met
  have found : (s.withPath path).index.get w = some index := known
  unfold Search.meet meet
  rw [found, known]
  by_cases onStack : s.stack.contains w = true
  · rw [if_pos onStack]
    exact if_pos onStack
  · rw [if_neg onStack]
    exact if_neg onStack

theorem withPath_leave_nil (s : Recursion n) (v : Fin n) (path : List (Visit n)) :
    (s.withPath path).leave v [] = (s.finish v).withPath [] := by
  rw [Search.leave_eq]
  exact withPath_finish s v []

theorem low_finish (s : Recursion n) (v : Fin n) : (s.finish v).low = s.low := by
  unfold finish
  split <;> rfl

/-- What a node knows stays the same when its parent learns it, even if it is its own parent. -/
theorem low_lower_low (s : Recursion n) (v w : Fin n) :
    (s.lower v (s.low.get w)).low.get w = s.low.get w := by
  rw [lower, get_set]
  split
  · next same => simp [same]
  · rfl

theorem finish_lower (s : Recursion n) (v w : Fin n) :
    (s.lower v (s.low.get w)).finish w = (s.finish w).lower v (s.low.get w) := by
  have root_iff : (s.lower v (s.low.get w)).index.get w =
      some ((s.lower v (s.low.get w)).low.get w) ↔ s.index.get w = some (s.low.get w) := by
    rw [low_lower_low]
    exact Iff.rfl
  unfold finish
  by_cases root : s.index.get w = some (s.low.get w)
  · rw [if_pos root, if_pos (root_iff.mpr root)]
    rfl
  · rw [if_neg root, if_neg (root_iff.not.mpr root)]

/-- A parent learns what its child knows before the child is finished; the recursion finishes the
child first. -/
theorem withPath_leave_cons (s : Recursion n) (w : Fin n) (path : List (Visit n))
    (parent : Visit n) :
    (s.withPath path).leave w (parent :: rest) =
      ((s.finish w).lower parent.node ((s.finish w).low.get w)).withPath (parent :: rest) := by
  rw [Search.leave_eq, low_finish, ← finish_lower]
  exact withPath_finish (s.lower parent.node (s.low.get w)) w (parent :: rest)

/-- To leave a node means to go back to the path behind it, wherever the search is. -/
theorem leave_withPath (s : Recursion n) (v : Fin n) (path path' : List (Visit n)) :
    (s.withPath path').leave v rest = (s.withPath path).leave v rest := by
  cases rest with
  | nil => rw [withPath_leave_nil, withPath_leave_nil]
  | cons parent rest => rw [withPath_leave_cons, withPath_leave_cons]

theorem run_of_step {s s' : Search n} (step : s.step? g = some s') : s.run g = s'.run g := by
  rw [Search.run]
  split
  · next stop =>
    rw [step] at stop
    cases stop
  · next other same =>
    rw [step] at same
    cases same
    rfl

/-- Following edges and leaving the node, with the path in a list, is what the recursion does. -/
theorem run_withPath (path : List (Visit n)) :
    (s.withPath (⟨v, todo⟩ :: rest)).run g =
      (((follow g s v todo).val.withPath path).leave v rest).run g := by
  fun_induction follow g s v todo generalizing rest path with
  | case1 s v => rw [run_of_step rfl, leave_withPath _ _ path]
  | case2 s v w todo new inner left later ihInner ihLater =>
    have step : (s.withPath (⟨v, w :: todo⟩ :: rest)).step? g =
        some ((s.visit w).withPath (⟨w, g.next w⟩ :: ⟨v, todo⟩ :: rest)) := by
      simp only [Search.step?, withPath]
      exact congrArg some (if_pos new)
    rw [run_of_step step, ihInner [], withPath_leave_cons]
    exact ihLater path
  | case3 s v w todo old later =>
    rename_i ih
    have met : s.isNew w = false := Bool.eq_false_iff.mpr old
    have step : (s.withPath (⟨v, w :: todo⟩ :: rest)).step? g =
        some ((s.meet v w).withPath (⟨v, todo⟩ :: rest)) := by
      rw [← withPath_meet met]
      simp only [Search.step?, withPath]
      exact congrArg some (if_neg old)
    rw [run_of_step step]
    exact ih path

theorem root_withPath (s : Recursion n) (v : Fin n) :
    (s.withPath []).root g v = (s.root g v).withPath [] := by
  unfold Search.root root
  by_cases new : s.isNew v = true
  · have visited : (s.withPath []).visit g v = (s.visit v).withPath [⟨v, g.next v⟩] := rfl
    rw [if_pos new, visited, run_withPath [], withPath_leave_nil, Search.run]
    exact if_pos new
  · rw [if_neg new]
    exact if_neg new

theorem foldl_root_withPath (s : Recursion n) (nodes : List (Fin n)) :
    nodes.foldl (Search.root g) (s.withPath []) = (nodes.foldl (root g) s).withPath [] := by
  induction nodes generalizing s with
  | nil => rfl
  | cons v nodes ih => rw [List.foldl_cons, root_withPath, ih, List.foldl_cons]

end Path

end Recursion

/-- The components are those of the recursive search in the same order, but for the order inside
each of them. -/
theorem components_eq_recursive (g : Digraph n) :
    g.components = g.recursiveComponents.map (·.mergeSort (· ≤ ·)) := by
  have searched := Recursion.foldl_root_withPath (g := g) (Recursion.start n) (List.finRange n)
  have start : (Recursion.start n).withPath [] = Search.start n := rfl
  rw [start] at searched
  rw [components, searched]
  exact List.reverse_reverse _

end ServerSymbols.Digraph
