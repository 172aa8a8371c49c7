set_option autoImplicit false

/-
Finite directed graphs, and the state that depth-first searches share.
-/
namespace ServerSymbols

theorem get_eq_getElem {α : Type} {n : Nat} (xs : Vector α n) (i : Fin n) :
    xs.get i = getElem xs i.val i.isLt := rfl

/-- A directed graph on the nodes `0 … n - 1`. The edges of a node have an order, and an edge may
occur more than once. -/
structure Digraph (n : Nat) where
  edges : Vector (List (Fin n)) n

namespace Digraph

variable {n : Nat}

/-- The targets of the edges that leave a node. -/
def next (g : Digraph n) (v : Fin n) : List (Fin n) :=
  g.edges.get v

def ofFn (next : Fin n → List (Fin n)) : Digraph n :=
  ⟨Vector.ofFn next⟩

@[simp] theorem next_ofFn (next : Fin n → List (Fin n)) (v : Fin n) :
    (ofFn next).next v = next v := by
  simp [Digraph.next, ofFn, get_eq_getElem]

/-- A node on the path of a search, with the edges that are still to be followed. -/
structure Visit (n : Nat) where
  node : Fin n
  todo : List (Fin n)

/-- The steps that a search needs for this path if it meets no new node. -/
def pending : List (Visit n) → Nat
  | [] => 0
  | visit :: path => visit.todo.length + 1 + pending path

@[simp] theorem pending_cons (visit : Visit n) (path : List (Visit n)) :
    pending (visit :: path) = visit.todo.length + 1 + pending path := rfl

end Digraph

/-- Setting an entry from one that counts to one that does not lowers the count. -/
theorem countP_set_lt {α : Type} {n : Nat} (p : α → Bool) (xs : Vector α n) (i : Fin n) (x : α)
    (old : p (xs.get i) = true) (new : p x = false) :
    (xs.set i x i.isLt).countP p < xs.countP p := by
  rw [get_eq_getElem] at old
  have pos : 0 < xs.countP p :=
    Vector.countP_pos_iff.mpr ⟨_, Vector.getElem_mem i.isLt, old⟩
  rw [Vector.countP_set i.isLt]
  simp only [old, new, ite_true, Bool.false_eq_true, ite_false, Nat.add_zero]
  omega

end ServerSymbols
