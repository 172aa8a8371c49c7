import ServerSymbols.Digraph.Mark
import Mathlib.Logic.Relation
import Mathlib.Data.List.Nodup

set_option autoImplicit false

/-
Paths of a directed graph, what one write changes in a vector, and where a list holds an entry.
-/
namespace ServerSymbols

theorem get_set {α : Type} {n : Nat} (xs : Vector α n) (i j : Fin n) (x : α) :
    (xs.set i x i.isLt).get j = if j = i then x else xs.get j := by
  simp only [get_eq_getElem, Vector.getElem_set, Fin.ext_iff, eq_comm]

@[simp] theorem get_replicate {α : Type} {n : Nat} (x : α) (i : Fin n) :
    (Vector.replicate n x).get i = x := by
  simp only [get_eq_getElem, Vector.getElem_replicate]

theorem ext_get {α : Type} {n : Nat} {xs ys : Vector α n} (same : ∀ i, xs.get i = ys.get i) :
    xs = ys :=
  Vector.ext fun i bound => same ⟨i, bound⟩

theorem append_cons_of_mem {α : Type} [BEq α] [LawfulBEq α] {xs : List α} {x : α}
    (mem : x ∈ xs) :
    xs = xs.takeWhile (· != x) ++ x :: (xs.dropWhile (· != x)).drop 1 := by
  induction xs with
  | nil => cases mem
  | cons y ys ih =>
    by_cases same : y = x
    · simp [same]
    · have later : x ∈ ys := (List.mem_cons.mp mem).resolve_left fun eq => same eq.symm
      have skip : (y != x) = true := by simp [same]
      simp only [List.takeWhile_cons, List.dropWhile_cons, skip, ↓reduceIte, List.cons_append]
      rw [← ih later]

/-- In a list whose entries are related one to the next, only the last may be related to none. -/
theorem exists_rel_of_mem_dropLast {α : Type} {R : α → α → Prop} {xs : List α} {x : α}
    (chain : xs.IsChain R) (mem : x ∈ xs.dropLast) : ∃ y, R x y := by
  induction xs with
  | nil => cases mem
  | cons first rest ih =>
    cases rest with
    | nil => cases mem
    | cons second rest =>
      obtain ⟨related, onward⟩ := List.isChain_cons_cons.mp chain
      rcases List.mem_cons.mp mem with rfl | later
      · exact ⟨second, related⟩
      · exact ih onward later

namespace Digraph

variable {n : Nat}

def Edge (g : Digraph n) (v w : Fin n) : Prop :=
  w ∈ g.next v

/-- A path of zero or more edges. -/
def Reaches (g : Digraph n) : Fin n → Fin n → Prop :=
  Relation.ReflTransGen g.Edge

theorem Reaches.refl {g : Digraph n} (v : Fin n) : g.Reaches v v :=
  Relation.ReflTransGen.refl

theorem Reaches.trans {g : Digraph n} {u v w : Fin n} (first : g.Reaches u v)
    (second : g.Reaches v w) : g.Reaches u w :=
  Relation.ReflTransGen.trans first second

theorem Reaches.edge {g : Digraph n} {v w : Fin n} (edge : w ∈ g.next v) : g.Reaches v w :=
  Relation.ReflTransGen.single edge

/-- A set of nodes that no edge leaves holds all that its nodes reach. -/
theorem Reaches.closed {g : Digraph n} {P : Fin n → Prop} {v w : Fin n} (path : g.Reaches v w)
    (closed : ∀ u, P u → ∀ t ∈ g.next u, P t) (start : P v) : P w := by
  induction path with
  | refl => exact start
  | tail _ edge ih => exact closed _ ih _ edge

end Digraph

end ServerSymbols
