import ServerSymbols.Proofs.Digraph.Path
import ServerSymbols.Model.Closure
import Mathlib

set_option autoImplicit false

/-
The recursive depth-first search of a directed graph, which tries the nodes in ascending order and
the edges of a node in their order. It says when each node is first visited and when it is finished.
-/
namespace ServerSymbols.Digraph

variable {n : Nat} {g : Digraph n} {v : Fin n}

/-- The nodes that a search has visited and those that it has finished, each in the order in which
this happened. -/
structure Tour (n : Nat) where
  visited : List (Fin n)
  finished : List (Fin n)

namespace Tour

def visit (t : Tour n) (v : Fin n) : Tour n :=
  { t with visited := t.visited ++ [v] }

def finish (t : Tour n) (v : Fin n) : Tour n :=
  { t with finished := t.finished ++ [v] }

@[simp] theorem visited_visit (t : Tour n) (v : Fin n) :
    (t.visit v).visited = t.visited ++ [v] := rfl

@[simp] theorem finished_visit (t : Tour n) (v : Fin n) : (t.visit v).finished = t.finished := rfl

@[simp] theorem visited_finish (t : Tour n) (v : Fin n) : (t.finish v).visited = t.visited := rfl

@[simp] theorem finished_finish (t : Tour n) (v : Fin n) :
    (t.finish v).finished = t.finished ++ [v] := rfl

/-- How many nodes are still to be visited. -/
def remaining (t : Tour n) : Nat :=
  (List.finRange n).countP (· ∉ t.visited)

theorem remaining_visit_lt {t : Tour n} (fresh : v ∉ t.visited) :
    (t.visit v).remaining < t.remaining := by
  apply countP_lt_of_imp (x := v)
  · simp
    tauto
  · exact List.mem_finRange v
  · simp
  · simpa using fresh

theorem remaining_le {t u : Tour n} (more : t.visited ⊆ u.visited) :
    u.remaining ≤ t.remaining := by
  apply List.countP_mono_left
  simp only [decide_eq_true_eq]
  exact fun x _ fresh old => fresh (more old)

end Tour

/-- Searches from these nodes, one after the other. A node that was visited before is passed over;
any other is visited, then all of its edges are followed, and then it is finished. -/
def search (g : Digraph n) (t : Tour n) :
    List (Fin n) → { after : Tour n // t.visited <+: after.visited }
  | [] => ⟨t, List.prefix_rfl⟩
  | v :: nodes =>
    if _fresh : v ∈ t.visited then g.search t nodes
    else
      let inner := g.search (t.visit v) (g.next v)
      let rest := g.search (inner.val.finish v) nodes
      ⟨rest.val, ((List.prefix_append _ [v]).trans inner.property).trans rest.property⟩
termination_by nodes => (t.remaining, nodes.length)
decreasing_by
  · apply Prod.Lex.right; simp
  · apply Prod.Lex.left; exact Tour.remaining_visit_lt _fresh
  · apply Prod.Lex.left
    have more := Tour.remaining_le (t := t.visit v) (u := inner.val.finish v) inner.property.subset
    exact Nat.lt_of_le_of_lt more (Tour.remaining_visit_lt _fresh)

/-- The search from all nodes. -/
def tour (g : Digraph n) : Tour n :=
  (g.search ⟨[], []⟩ (List.finRange n)).val

section Search

variable {t : Tour n} {nodes : List (Fin n)}

theorem search_of_visited (old : v ∈ t.visited) :
    (g.search t (v :: nodes)).val = (g.search t nodes).val := by
  rw [search, dif_pos old]

theorem search_of_fresh (fresh : v ∉ t.visited) :
    (g.search t (v :: nodes)).val =
      (g.search ((g.search (t.visit v) (g.next v)).val.finish v) nodes).val := by
  rw [search, dif_neg fresh]

/-- A search visits each node at most once, and all that it is asked for. -/
theorem visited_search (distinct : t.visited.Nodup) :
    (g.search t nodes).val.visited.Nodup ∧ nodes ⊆ (g.search t nodes).val.visited := by
  fun_induction search g t nodes with
  | case1 t => exact ⟨distinct, List.nil_subset _⟩
  | case2 t v nodes old ih =>
    obtain ⟨once, all⟩ := ih distinct
    exact ⟨once, List.cons_subset.mpr ⟨(g.search t nodes).property.subset old, all⟩⟩
  | case3 t v nodes fresh inner rest ihInner ihRest =>
    have entered : (t.visit v).visited.Nodup := by
      rw [Tour.visited_visit, ← List.concat_eq_append]
      exact distinct.concat fresh
    obtain ⟨once, all⟩ := ihRest (ihInner entered).1
    have here : v ∈ inner.val.visited := inner.property.subset (by simp)
    exact ⟨once, List.cons_subset.mpr ⟨rest.property.subset here, all⟩⟩

/-- Between its start and its end, a search finishes the nodes that it visits. -/
theorem finished_search :
    ∃ more, (g.search t nodes).val.visited = t.visited ++ more ∧
      (g.search t nodes).val.finished.Perm (t.finished ++ more) := by
  fun_induction search g t nodes with
  | case1 t => exact ⟨[], by simp, by simp⟩
  | case2 t v nodes old ih => exact ih
  | case3 t v nodes fresh inner rest ihInner ihRest =>
    obtain ⟨within, visited, finished⟩ := ihInner
    obtain ⟨later, visited', finished'⟩ := ihRest
    refine ⟨v :: within ++ later, ?_, ?_⟩
    · show rest.val.visited = _
      rw [visited', Tour.visited_finish, visited, Tour.visited_visit]
      simp
    · show rest.val.finished.Perm _
      refine finished'.trans ?_
      rw [Tour.finished_finish, ← List.append_assoc]
      apply List.Perm.append_right
      apply (finished.append_right [v]).trans
      rw [Tour.finished_visit, List.append_assoc]
      apply List.Perm.append_left
      exact List.perm_append_singleton v within

end Search

theorem nodup_visited_tour (g : Digraph n) : g.tour.visited.Nodup :=
  (visited_search List.nodup_nil).1

/-- The search visits every node once and finishes every node once. -/
theorem count_tour (g : Digraph n) (v : Fin n) :
    g.tour.visited.count v = 1 ∧ g.tour.finished.count v = 1 := by
  have all : v ∈ g.tour.visited := (visited_search List.nodup_nil).2 (List.mem_finRange v)
  have once := List.count_eq_one_of_mem (nodup_visited_tour g) all
  obtain ⟨more, visited, finished⟩ :
      ∃ more, g.tour.visited = [] ++ more ∧ g.tour.finished.Perm ([] ++ more) := finished_search
  refine ⟨once, ?_⟩
  rw [finished.count_eq v, ← visited]
  exact once

end ServerSymbols.Digraph
