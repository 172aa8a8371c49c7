import ServerSymbols.Digraph.Cycle
import ServerSymbols.Proofs.Digraph.Cycle
import Mathlib.Data.List.Chain

set_option autoImplicit false

/-
What a search for cycles finds is a cycle: the nodes on its path are joined by edges, and each of
them stands there once.
-/
namespace ServerSymbols.Digraph

variable {n : Nat} {g : Digraph n}

/-- Nodes joined by edges, of which the last is the first again and no other occurs twice. -/
structure IsCycle (g : Digraph n) (cycle : List (Fin n)) : Prop where
  chain : cycle.IsChain g.Edge
  closed : ∃ start inner, cycle = start :: inner ++ [start]
  nodup : cycle.dropLast.Nodup

/-- A cycle leads from its first node back to it, over at least one edge. -/
theorem IsCycle.loop {cycle : List (Fin n)} (isCycle : g.IsCycle cycle) :
    ∃ v, Relation.TransGen g.Edge v v := by
  obtain ⟨start, inner, same⟩ := isCycle.closed
  have chain := isCycle.chain
  rw [same] at chain
  refine ⟨start, ?_⟩
  cases inner with
  | nil => exact Relation.TransGen.single (List.isChain_cons_cons.mp chain).1
  | cons next inner =>
    obtain ⟨edge, onward⟩ := List.isChain_cons_cons.mp chain
    have last : (next :: (inner ++ [start])).getLast (List.cons_ne_nil _ _) = start := by simp
    have path := List.relationReflTransGen_of_exists_isChain_cons (inner ++ [start]) onward last
    exact Relation.TransGen.head' edge path

theorem IsCycle.exists_edge {cycle : List (Fin n)} {v : Fin n} (isCycle : g.IsCycle cycle)
    (mem : v ∈ cycle) : ∃ w, g.Edge v w := by
  refine exists_rel_of_mem_dropLast isCycle.chain ?_
  obtain ⟨start, inner, rfl⟩ := isCycle.closed
  rw [List.dropLast_concat]
  rcases List.mem_append.mp mem with before | last
  · exact before
  · rw [List.mem_singleton.mp last]
    exact List.mem_cons_self

/-- A path, its last node first: an edge leads from each node to the one that stands before it. -/
def Linked (g : Digraph n) (nodes : List (Fin n)) : Prop :=
  nodes.IsChain fun later earlier => g.Edge earlier later

/-- The part of a path from one of its nodes on is a cycle, if its last node has an edge to it. -/
theorem isCycle_closeCycle {v w : Fin n} {rest : List (Fin n)} (linked : g.Linked (v :: rest))
    (nodup : (v :: rest).Nodup) (onPath : w ∈ v :: rest) (edge : g.Edge v w) :
    g.IsCycle (closeCycle (v :: rest) w) := by
  have split := append_cons_of_mem onPath
  unfold closeCycle
  generalize (v :: rest).takeWhile (· != w) = taken at split ⊢
  generalize ((v :: rest).dropWhile (· != w)).drop 1 = below at split
  rw [List.append_cons] at split
  have head : (taken ++ [w]).head? = some v := by
    have first := congrArg List.head? split
    rw [List.head?_append_of_ne_nil _ (by simp)] at first
    exact first.symm
  constructor
  case chain =>
    have back : (w :: (taken ++ [w])).IsChain fun later earlier => g.Edge earlier later := by
      rw [List.isChain_cons, head]
      refine ⟨fun u last => ?_, ?_⟩
      · cases last
        exact edge
      · unfold Linked at linked
        rw [split] at linked
        exact linked.left_of_append
    have turned : w :: taken.reverse ++ [w] = (w :: (taken ++ [w])).reverse := by simp
    rw [turned]
    exact List.isChain_reverse.mpr back
  case closed => exact ⟨w, taken.reverse, rfl⟩
  case nodup =>
    rw [split, List.append_assoc, List.singleton_append] at nodup
    have apart := List.nodup_middle.mp nodup
    rw [List.dropLast_concat, List.nodup_cons, List.mem_reverse, List.nodup_reverse]
    exact ⟨fun mem => (List.nodup_cons.mp apart).1 (List.mem_append_left below mem),
      (List.nodup_cons.mp apart).2.of_append_left⟩

/-- What a search keeps on its path: distinct nodes joined by edges, with edges of theirs that are
still to be followed. -/
structure Threaded (g : Digraph n) (path : List (Visit n)) : Prop where
  linked : g.Linked (path.map (·.node))
  nodup : (path.map (·.node)).Nodup
  todo : ∀ visit ∈ path, ∀ w ∈ visit.todo, g.Edge visit.node w

section Threaded

variable {v w : Fin n} {todo : List (Fin n)} {rest : List (Visit n)}

theorem threaded_root (g : Digraph n) (root : Fin n) : g.Threaded [⟨root, g.next root⟩] where
  linked := List.isChain_singleton root
  nodup := List.nodup_singleton root
  todo := by
    intro visit mem w edge
    rw [List.mem_singleton.mp mem] at edge ⊢
    exact edge

theorem Threaded.retreat (threaded : g.Threaded (⟨v, todo⟩ :: rest)) : g.Threaded rest where
  linked := threaded.linked.of_cons
  nodup := threaded.nodup.of_cons
  todo visit mem := threaded.todo visit (List.mem_cons_of_mem _ mem)

theorem Threaded.advance (threaded : g.Threaded (⟨v, w :: todo⟩ :: rest)) :
    g.Threaded (⟨v, todo⟩ :: rest) where
  linked := threaded.linked
  nodup := threaded.nodup
  todo := by
    intro visit mem t listed
    rcases List.mem_cons.mp mem with rfl | earlier
    · exact threaded.todo ⟨v, w :: todo⟩ List.mem_cons_self t (List.mem_cons_of_mem w listed)
    · exact threaded.todo visit (List.mem_cons_of_mem _ earlier) t listed

theorem Threaded.enter (threaded : g.Threaded (⟨v, todo⟩ :: rest)) (edge : g.Edge v w)
    (offPath : w ∉ v :: rest.map (·.node)) :
    g.Threaded (⟨w, g.next w⟩ :: ⟨v, todo⟩ :: rest) where
  linked := List.isChain_cons_cons.mpr ⟨edge, threaded.linked⟩
  nodup := List.nodup_cons.mpr ⟨offPath, threaded.nodup⟩
  todo := by
    intro visit mem t listed
    rcases List.mem_cons.mp mem with rfl | earlier
    · exact listed
    · exact threaded.todo visit earlier t listed

end Threaded

/-- A search that stops before its path is used up returns a cycle. -/
theorem searchCycle_error {seen : Vector Bool n} {path : List (Visit n)} {cycle : List (Fin n)}
    (threaded : g.Threaded path) (found : g.searchCycle seen path = .error cycle) :
    g.IsCycle cycle := by
  fun_induction searchCycle g seen path with
  | case1 seen => cases found
  | case2 seen v rest ih => exact ih threaded.retreat found
  | case3 seen v w todo rest nodes onPath =>
    have same : nodes = v :: rest.map (·.node) := by simp [nodes]
    have edge : g.Edge v w := threaded.todo _ List.mem_cons_self w List.mem_cons_self
    have mem : w ∈ v :: rest.map (·.node) := same ▸ List.contains_iff_mem.mp onPath
    dsimp only at found
    rw [← same, if_pos onPath] at found
    cases found
    rw [same]
    exact isCycle_closeCycle threaded.linked threaded.nodup mem edge
  | case4 seen v w todo rest nodes offPath fresh ih =>
    have same : nodes = v :: rest.map (·.node) := by simp [nodes]
    have edge : g.Edge v w := threaded.todo _ List.mem_cons_self w List.mem_cons_self
    have absent : w ∉ v :: rest.map (·.node) :=
      fun mem => offPath (List.contains_iff_mem.mpr (same ▸ mem))
    dsimp only at found
    rw [← same, if_neg offPath, dif_pos fresh] at found
    exact ih (threaded.advance.enter edge absent) found
  | case5 seen v w todo rest nodes offPath visited ih =>
    have same : nodes = v :: rest.map (·.node) := by simp [nodes]
    dsimp only at found
    rw [← same, if_neg offPath, dif_neg visited] at found
    exact ih threaded.advance found

theorem searchRoots_error {roots : List (Fin n)} {seen : Vector Bool n} {cycle : List (Fin n)}
    (found : g.searchRoots roots seen = .error cycle) : g.IsCycle cycle := by
  induction roots generalizing seen with
  | nil => cases found
  | cons root roots ih =>
    rw [searchRoots] at found
    split at found
    · exact ih found
    · cases searched : g.searchCycle (seen.set root true root.isLt) [⟨root, g.next root⟩] with
      | error other =>
        rw [searched] at found
        cases found
        exact searchCycle_error (threaded_root g root) searched
      | ok next =>
        rw [searched] at found
        exact ih found

theorem isCycle_of_cycle? {cycle : List (Fin n)} (found : g.cycle? = some cycle) :
    g.IsCycle cycle := by
  unfold cycle? at found
  split at found
  · cases found
  · next other searched =>
    cases found
    exact searchRoots_error searched

/-- The search finds a cycle exactly if some path of one or more edges leads back to its start. -/
theorem cycle?_eq_none_iff (g : Digraph n) :
    g.cycle? = none ↔ ¬ ∃ v, Relation.TransGen g.Edge v v := by
  constructor
  · rintro none_found ⟨v, loop⟩
    have ends : WellFounded fun target source => g.Edge source target :=
      ⟨grounded_of_cycle?_eq_none none_found⟩
    have back := Relation.transGen_swap.mpr loop
    exact ends.transGen.asymmetric v v back back
  · intro acyclic
    cases found : g.cycle? with
    | none => rfl
    | some cycle => exact absurd (isCycle_of_cycle? found).loop acyclic

end ServerSymbols.Digraph
