import ServerSymbols.Proofs.Digraph.DepthFirst
import ServerSymbols.Proofs.Digraph.Recursion

set_option autoImplicit false

/-
The order of the components. A component is complete when the depth-first search finishes the node
of it that it visited first, so components come in the order in which these nodes are finished.
-/
namespace ServerSymbols.Digraph

variable {n : Nat} {g : Digraph n}

/-- Of some nodes that a list has in this order, it has the first one first. -/
theorem find?_of_sublist {visited later : List (Fin n)} {v : Fin n} (distinct : visited.Nodup)
    (order : (v :: later).Sublist visited) {component : List (Fin n)}
    (mem_iff : ∀ x, x ∈ component ↔ x ∈ v :: later) :
    visited.find? (· ∈ component) = some v := by
  induction visited with
  | nil => cases order
  | cons x visited ih =>
    rw [List.nodup_cons] at distinct
    cases order with
    | cons _ order =>
      have outside : x ∉ component := fun mem => distinct.1 (order.subset ((mem_iff x).mp mem))
      rw [List.find?_cons_of_neg (by simpa using outside)]
      exact ih distinct.2 order
    | cons_cons _ order =>
      have inside : v ∈ component := (mem_iff v).mpr List.mem_cons_self
      exact List.find?_cons_of_pos (by simpa using inside)

/-- What the recursive search for components has in common with the depth-first search: it has
visited the same nodes, those on its stack in the same order, and the first nodes of its components
are finished in the order of the components. -/
structure Tracks (s : Recursion n) (t : Tour n) : Prop where
  visited_iff : ∀ v, s.isNew v = false ↔ v ∈ t.visited
  distinct : t.visited.Nodup
  stack : s.stack.reverse.Sublist t.visited
  firsts : ∃ firsts, List.Forall₂
      (fun component first => t.visited.find? (· ∈ component) = some first) s.components firsts ∧
    firsts.Sublist t.finished

theorem tracks_start (n : Nat) : Tracks (Recursion.start n) ⟨[], []⟩ where
  visited_iff v := by simp [Recursion.start, Recursion.isNew]
  distinct := List.nodup_nil
  stack := List.Sublist.refl []
  firsts := ⟨[], List.Forall₂.nil, List.Sublist.refl []⟩

namespace Tracks

variable {s : Recursion n} {t : Tour n} {v w : Fin n}

theorem new_iff (tracks : Tracks s t) : s.isNew v = true ↔ v ∉ t.visited := by
  rw [← tracks.visited_iff, Bool.not_eq_false]

theorem visit (tracks : Tracks s t) (new : s.isNew v = true) : Tracks (s.visit v) (t.visit v) where
  visited_iff w := by
    have before := tracks.visited_iff w
    by_cases same : w = v
    · simp [same, Recursion.isNew, Recursion.visit, get_set]
    · have kept : (s.visit v).isNew w = s.isNew w := by
        simp [Recursion.isNew, Recursion.visit, get_set, same]
      simp [kept, before, same]
  distinct := by
    rw [Tour.visited_visit, ← List.concat_eq_append]
    exact tracks.distinct.concat (tracks.new_iff.mp new)
  stack := by
    show (v :: s.stack).reverse.Sublist (t.visited ++ [v])
    rw [List.reverse_cons]
    exact tracks.stack.append (List.Sublist.refl [v])
  firsts := by
    obtain ⟨firsts, each, order⟩ := tracks.firsts
    refine ⟨firsts, each.imp fun component first found => ?_, order⟩
    rw [Tour.visited_visit, List.find?_append, found]
    rfl

theorem lower (tracks : Tracks s t) (v : Fin n) (bound : Nat) : Tracks (s.lower v bound) t :=
  ⟨tracks.visited_iff, tracks.distinct, tracks.stack, tracks.firsts⟩

theorem meet (tracks : Tracks s t) (v w : Fin n) : Tracks (s.meet v w) t := by
  unfold Recursion.meet
  split
  · exact tracks.lower v _
  · exact tracks

/-- The nodes that are taken from the stack down to `v` were visited after `v`. -/
theorem finish (tracks : Tracks s t) (mem : v ∈ s.stack) : Tracks (s.finish v) (t.finish v) := by
  obtain ⟨firsts, each, order⟩ := tracks.firsts
  unfold Recursion.finish
  split
  · have parts := append_cons_of_mem mem
    have stack := tracks.stack
    rw [parts, List.reverse_append, List.reverse_cons, List.append_assoc] at stack
    refine ⟨tracks.visited_iff, tracks.distinct, ?_, firsts ++ [v], ?_, ?_⟩
    · exact (List.sublist_append_left _ _).trans stack
    · apply List.rel_append each
      refine List.Forall₂.cons ?_ List.Forall₂.nil
      apply find?_of_sublist tracks.distinct ((List.sublist_append_right _ _).trans stack)
      intro x
      simp [or_comm]
    · exact order.append (List.Sublist.refl [v])
  · refine ⟨tracks.visited_iff, tracks.distinct, tracks.stack, firsts, each, ?_⟩
    exact order.trans (List.sublist_append_left _ [v])

end Tracks

section Follow

variable {s : Recursion n} {t : Tour n} {v : Fin n} {todo : List (Fin n)}

/-- Taking nodes down to some `v` leaves all that is below one `v`. -/
theorem suffix_dropWhile (above below : List (Fin n)) (v : Fin n) :
    below <:+ ((above ++ v :: below).dropWhile (· != v)).drop 1 := by
  induction above with
  | nil => simp
  | cons x above ih =>
    by_cases same : x = v
    · simp only [same, List.cons_append, bne_self_eq_false, Bool.false_eq_true,
        not_false_eq_true, List.dropWhile_cons_of_neg, List.drop_succ_cons, List.drop_zero]
      exact (List.suffix_cons v below).trans (List.suffix_append above _)
    · simpa [same] using ih

theorem suffix_finish {below : List (Fin n)} (suffix : (v :: below) <:+ s.stack) :
    below <:+ (s.finish v).stack := by
  unfold Recursion.finish
  split
  · obtain ⟨above, same⟩ := suffix
    show below <:+ (s.stack.dropWhile (· != v)).drop 1
    rw [← same]
    exact suffix_dropWhile above below v
  · exact (List.suffix_cons v below).trans suffix

/-- Following edges leaves what was on the stack before. -/
theorem suffix_follow (g : Digraph n) (s : Recursion n) (v : Fin n) (todo : List (Fin n)) :
    s.stack <:+ (Recursion.follow g s v todo).val.stack := by
  fun_induction Recursion.follow g s v todo with
  | case1 s v => exact List.suffix_refl _
  | case2 s v w todo new inner left later ihInner ihLater =>
    have finished : s.stack <:+ left.stack := suffix_finish ihInner
    exact finished.trans ihLater
  | case3 s v w todo old later =>
    rename_i ih
    have same : (s.meet v w).stack = s.stack := by
      unfold Recursion.meet
      split <;> rfl
    rw [same] at ih
    exact ih

theorem Tracks.follow (tracks : Tracks s t) (v : Fin n) (todo : List (Fin n)) :
    Tracks (Recursion.follow g s v todo).val (g.search t todo).val := by
  fun_induction Recursion.follow g s v todo generalizing t with
  | case1 s v =>
    rw [search]
    exact tracks
  | case2 s v w todo new inner left later ihInner ihLater =>
    rw [search_of_fresh (tracks.new_iff.mp new)]
    have onStack : w ∈ inner.val.stack :=
      (suffix_follow g (s.visit w) w (g.next w)).subset List.mem_cons_self
    exact ihLater (((ihInner (tracks.visit new)).finish onStack).lower v _)
  | case3 s v w todo old later =>
    rename_i ih
    have visited : w ∈ t.visited := (tracks.visited_iff w).mp (Bool.eq_false_iff.mpr old)
    rw [search_of_visited visited]
    exact ih (tracks.meet v w)

/-- A search from a list of roots is one depth-first search from these nodes. -/
theorem Tracks.roots (tracks : Tracks s t) (nodes : List (Fin n)) :
    Tracks (nodes.foldl (Recursion.root g) s) (g.search t nodes).val := by
  induction nodes generalizing s t with
  | nil =>
    rw [search]
    exact tracks
  | cons v nodes ih =>
    rw [List.foldl_cons, Recursion.root]
    by_cases new : s.isNew v = true
    · rw [if_pos new, search_of_fresh (tracks.new_iff.mp new)]
      apply ih
      apply ((tracks.visit new).follow v (g.next v)).finish
      exact (suffix_follow g (s.visit v) v (g.next v)).subset List.mem_cons_self
    · rw [if_neg new, search_of_visited (by simpa [tracks.new_iff] using new)]
      exact ih tracks

end Follow

theorem tracks_tour (g : Digraph n) :
    Tracks ((List.finRange n).foldl (Recursion.root g) (Recursion.start n)) g.tour :=
  (tracks_start n).roots (List.finRange n)

/-- Nodes that a list has in some order have their places in this order. -/
theorem pairwise_idxOf {nodes part : List (Fin n)} (distinct : nodes.Nodup)
    (order : part.Sublist nodes) :
    part.Pairwise fun v w => nodes.idxOf v < nodes.idxOf w := by
  refine List.Pairwise.sublist order (List.pairwise_iff_getElem.mpr fun i j _ _ before => ?_)
  rw [distinct.idxOf_getElem, distinct.idxOf_getElem]
  exact before

/-- The search with an explicit path finds the components of the recursive search, in the same order
and each of them sorted. They come in the order in which a depth-first search, which visits and
finishes every node once, finishes the node of each that it visits first. -/
theorem components_finish_order (g : Digraph n) :
    g.components = g.recursiveComponents.map (·.mergeSort (· ≤ ·)) ∧
      (∀ v, g.tour.visited.count v = 1 ∧ g.tour.finished.count v = 1) ∧
      ∃ first : Fin g.components.length → Fin n,
        (∀ i, g.tour.visited.find? (· ∈ g.components.get i) = some (first i)) ∧
        ∀ i j, i < j ↔ g.tour.finished.idxOf (first i) < g.tour.finished.idxOf (first j) := by
  obtain ⟨firsts, each, order⟩ := (tracks_tour g).firsts
  have sorted := components_eq_recursive g
  have each : List.Forall₂
      (fun component first => g.tour.visited.find? (· ∈ component) = some first)
      g.components firsts := by
    rw [sorted, List.forall₂_map_left_iff]
    simpa [recursiveComponents] using each
  have length := each.length_eq
  have distinct : g.tour.finished.Nodup :=
    List.nodup_iff_count_eq_one.mpr fun v _ => (count_tour g v).2
  have before : ∀ i j : Fin g.components.length, i < j →
      g.tour.finished.idxOf (firsts.get (i.cast length)) <
        g.tour.finished.idxOf (firsts.get (j.cast length)) := fun i j lt =>
    List.pairwise_iff_getElem.mp (pairwise_idxOf distinct order) i j
      (length ▸ i.isLt) (length ▸ j.isLt) lt
  refine ⟨sorted, count_tour g, fun i => firsts.get (i.cast length), ?_, ?_⟩
  · intro i
    exact each.get i.isLt (length ▸ i.isLt)
  · intro i j
    refine ⟨before i j, fun finished => ?_⟩
    rcases lt_trichotomy i j with lt | rfl | later
    · exact lt
    · exact absurd finished (lt_irrefl _)
    · exact absurd finished (before j i later).asymm

end ServerSymbols.Digraph
