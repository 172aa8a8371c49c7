import ServerSymbols.Digraph.Component
import ServerSymbols.Proofs.Digraph.Path

set_option autoImplicit false

/-
What the search for components keeps from step to step. The stack is sorted by first visits; what
stands on it above a node of the path is reachable from that node, and leads back to an earlier
node of the stack unless it is on the path itself.
-/
namespace ServerSymbols.Digraph

variable {n : Nat} {g : Digraph n}

/-- Complete components, the last one first: each is strongly connected, and its edges lead into it
or into those completed before. -/
inductive Emitted (g : Digraph n) : List (List (Fin n)) → Prop where
  | nil : Emitted g []
  | cons {component : List (Fin n)} {done : List (List (Fin n))} (nonempty : component ≠ [])
      (ascending : component.Pairwise (· < ·)) (apart : ∀ v ∈ component, v ∉ done.flatten)
      (connected : ∀ u ∈ component, ∀ v ∈ component, g.Reaches u v)
      (closed : ∀ v ∈ component, ∀ w ∈ g.next v, w ∈ component ∨ w ∈ done.flatten)
      (earlier : Emitted g done) : Emitted g (component :: done)

theorem Emitted.closed_flatten {done : List (List (Fin n))} (emitted : Emitted g done) :
    ∀ v ∈ done.flatten, ∀ w ∈ g.next v, w ∈ done.flatten := by
  induction emitted with
  | nil => intro v mem; simp at mem
  | @cons component done _ _ _ _ closed _ ih =>
    intro v mem w edge
    rw [List.flatten_cons, List.mem_append] at mem ⊢
    rcases mem with here | earlier
    · exact closed v here w edge
    · exact Or.inr (ih v earlier w edge)

namespace Search

/-- When a visited node was first visited. -/
def num (s : Search n) (v : Fin n) : Nat :=
  (s.index.get v).getD 0

/-- The nodes of the path, the last one first. -/
def nodes (s : Search n) : List (Fin n) :=
  s.path.map (·.node)

/-- What every state of the search satisfies, whatever edges are followed. -/
structure Inv (g : Digraph n) (s : Search n) : Prop where
  visited_iff : ∀ v, s.isNew v = false ↔ v ∈ s.stack ∨ v ∈ s.done.flatten
  apart : ∀ v ∈ s.stack, v ∉ s.done.flatten
  fresh : ∀ v ∈ s.stack, s.num v < s.count
  sorted : s.stack.Pairwise fun later earlier => s.num earlier < s.num later
  path_stack : ∀ p ∈ s.nodes, p ∈ s.stack
  path_sorted : s.nodes.Pairwise fun later earlier => s.num earlier < s.num later
  todo : ∀ visit ∈ s.path, ∀ w ∈ visit.todo, w ∈ g.next visit.node
  down : ∀ p ∈ s.nodes, ∀ x ∈ s.stack, s.num p ≤ s.num x → g.Reaches p x
  low_le : ∀ x ∈ s.stack, s.low.get x ≤ s.num x
  low_lt : ∀ x ∈ s.stack, x ∉ s.nodes → s.low.get x < s.num x
  low_reaches : ∀ x ∈ s.stack, ∃ y ∈ s.stack, s.num y = s.low.get x ∧ g.Reaches x y
  emitted : Emitted g s.done

/-- No visit on the path still has to follow an edge from `v` to `w`. -/
def Followed (s : Search n) (v w : Fin n) : Prop :=
  ∀ visit ∈ s.path, visit.node = v → w ∉ visit.todo

/-- From every node of the path up to `v`, some node at or above it on the path knows of `w`. -/
def Settled (s : Search n) (v w : Fin n) : Prop :=
  s.isNew w = false ∧ (w ∈ s.stack → ∀ p ∈ s.nodes, s.num p ≤ s.num v →
    ∃ q ∈ s.nodes, s.num p ≤ s.num q ∧ s.low.get q ≤ s.num w)

/-- Followed edges lead to nodes whose index is taken into account. -/
def Explored (g : Digraph n) (s : Search n) : Prop :=
  ∀ v ∈ s.stack, ∀ w ∈ g.next v, s.Followed v w → s.Settled v w

theorem Inv.nodup {s : Search n} (inv : s.Inv g) : s.stack.Nodup := by
  have apart : (s.stack.map s.num).Nodup :=
    List.pairwise_map.mpr (inv.sorted.imp fun lt => Nat.ne_of_gt lt)
  exact apart.of_map

theorem Inv.not_new {s : Search n} (inv : s.Inv g) {v : Fin n} (mem : v ∈ s.stack) :
    s.isNew v = false :=
  (inv.visited_iff v).mpr (Or.inl mem)

theorem Inv.index_eq {s : Search n} (inv : s.Inv g) {v : Fin n} (mem : v ∈ s.stack) :
    s.index.get v = some (s.num v) := by
  have visited := inv.not_new mem
  unfold isNew at visited
  unfold num
  cases h : s.index.get v with
  | none => simp [h] at visited
  | some index => rfl

theorem inv_start (g : Digraph n) : (start n).Inv g where
  visited_iff := by simp [start, isNew]
  apart := by simp [start]
  fresh := by simp [start]
  sorted := by simp [start]
  path_stack := by simp [start, nodes]
  path_sorted := by simp [start, nodes]
  todo := by simp [start]
  down := by simp [start]
  low_le := by simp [start]
  low_lt := by simp [start]
  low_reaches := by simp [start]
  emitted := Emitted.nil

theorem explored_start (g : Digraph n) : (start n).Explored g := by
  intro v mem
  simp [start] at mem

section Visit

variable {s : Search n} {w : Fin n}

theorem num_visit_self (g : Digraph n) (s : Search n) (w : Fin n) :
    (s.visit g w).num w = s.count := by
  simp only [num, Search.visit, get_set, ↓reduceIte, Option.getD_some]

theorem low_visit_self (g : Digraph n) (s : Search n) (w : Fin n) :
    (s.visit g w).low.get w = s.count := by
  simp only [Search.visit, get_set, ↓reduceIte]

@[simp] theorem stack_visit (g : Digraph n) (s : Search n) (w : Fin n) :
    (s.visit g w).stack = w :: s.stack := rfl

@[simp] theorem done_visit (g : Digraph n) (s : Search n) (w : Fin n) :
    (s.visit g w).done = s.done := rfl

theorem isNew_visit (g : Digraph n) (s : Search n) (w v : Fin n) :
    (s.visit g w).isNew v = (!decide (v = w) && s.isNew v) := by
  unfold isNew visit
  rw [get_set]
  by_cases same : v = w <;> simp [same]

theorem Inv.not_mem_of_new (inv : s.Inv g) (new : s.isNew w = true) : w ∉ s.stack := by
  intro mem
  rw [inv.not_new mem] at new
  cases new

theorem Inv.ne_of_new (inv : s.Inv g) (new : s.isNew w = true) {v : Fin n} (mem : v ∈ s.stack) :
    v ≠ w :=
  fun same => inv.not_mem_of_new new (same ▸ mem)

/-- Nodes of the stack keep their index when a new node is entered. -/
theorem Inv.num_visit (inv : s.Inv g) (new : s.isNew w = true) {v : Fin n} (mem : v ∈ s.stack) :
    (s.visit g w).num v = s.num v := by
  have different := inv.ne_of_new new mem
  simp only [num, Search.visit, get_set, different, ↓reduceIte]

theorem Inv.low_visit (inv : s.Inv g) (new : s.isNew w = true) {v : Fin n} (mem : v ∈ s.stack) :
    (s.visit g w).low.get v = s.low.get v := by
  have different := inv.ne_of_new new mem
  simp only [Search.visit, get_set, different, ↓reduceIte]

/-- The new node comes after all nodes of the stack. -/
theorem Inv.num_visit_lt (inv : s.Inv g) (new : s.isNew w = true) {v : Fin n} (mem : v ∈ s.stack) :
    (s.visit g w).num v < (s.visit g w).num w := by
  rw [inv.num_visit new mem, num_visit_self]
  exact inv.fresh v mem

/-- Entering a new node that every node of the path reaches. -/
theorem Inv.visit (inv : s.Inv g) (new : s.isNew w = true)
    (reached : ∀ p ∈ s.nodes, g.Reaches p w) : (s.visit g w).Inv g := by
  constructor
  case visited_iff =>
    intro v
    have before := inv.visited_iff v
    by_cases same : v = w
    · simp [isNew_visit, same]
    · simp [isNew_visit, same, before]
  case apart =>
    intro v mem
    rcases List.mem_cons.mp mem with rfl | old
    · intro complete
      have visited := (inv.visited_iff v).mpr (Or.inr complete)
      rw [visited] at new
      cases new
    · exact inv.apart v old
  case fresh =>
    intro v mem
    show _ < s.count + 1
    rcases List.mem_cons.mp mem with rfl | old
    · rw [num_visit_self]
      omega
    · have before := inv.fresh v old
      rw [inv.num_visit new old]
      omega
  case sorted =>
    refine List.pairwise_cons.mpr ⟨fun v mem => inv.num_visit_lt new mem, ?_⟩
    refine inv.sorted.imp_of_mem fun {a b} later earlier lt => ?_
    rw [inv.num_visit new later, inv.num_visit new earlier]
    exact lt
  case path_stack =>
    intro p mem
    rcases List.mem_cons.mp mem with rfl | old
    · exact List.mem_cons_self
    · exact List.mem_cons_of_mem w (inv.path_stack p old)
  case path_sorted =>
    refine List.pairwise_cons.mpr ⟨fun p mem => inv.num_visit_lt new (inv.path_stack p mem), ?_⟩
    refine inv.path_sorted.imp_of_mem fun {a b} later earlier lt => ?_
    rw [inv.num_visit new (inv.path_stack a later), inv.num_visit new (inv.path_stack b earlier)]
    exact lt
  case todo =>
    intro visit mem
    rcases List.mem_cons.mp mem with rfl | old
    · exact fun target edge => edge
    · exact inv.todo visit old
  case down =>
    intro p onPath x mem le
    rcases List.mem_cons.mp mem with rfl | old
    · rcases List.mem_cons.mp onPath with rfl | earlier
      · exact Reaches.refl p
      · exact reached p earlier
    · rcases List.mem_cons.mp onPath with rfl | earlier
      · have below := inv.num_visit_lt new old
        omega
      · rw [inv.num_visit new (inv.path_stack p earlier), inv.num_visit new old] at le
        exact inv.down p earlier x old le
  case low_le =>
    intro x mem
    rcases List.mem_cons.mp mem with rfl | old
    · have same := (low_visit_self g s x).trans (num_visit_self g s x).symm
      omega
    · rw [inv.low_visit new old, inv.num_visit new old]
      exact inv.low_le x old
  case low_lt =>
    intro x mem offPath
    rcases List.mem_cons.mp mem with rfl | old
    · exact absurd List.mem_cons_self offPath
    · rw [inv.low_visit new old, inv.num_visit new old]
      exact inv.low_lt x old fun onPath => offPath (List.mem_cons_of_mem w onPath)
  case low_reaches =>
    intro x mem
    rcases List.mem_cons.mp mem with rfl | old
    · have same := (num_visit_self g s x).trans (low_visit_self g s x).symm
      exact ⟨x, List.mem_cons_self, same, Reaches.refl x⟩
    · obtain ⟨y, onStack, same, path⟩ := inv.low_reaches x old
      refine ⟨y, List.mem_cons_of_mem w onStack, ?_, path⟩
      rw [inv.low_visit new old, inv.num_visit new onStack]
      exact same
  case emitted => exact inv.emitted

theorem Settled.visit {v t : Fin n} (settled : s.Settled v t) (inv : s.Inv g)
    (new : s.isNew w = true) (mem : v ∈ s.stack) : (s.visit g w).Settled v t := by
  obtain ⟨visited, known⟩ := settled
  have different : t ≠ w := by
    intro same
    rw [← same, visited] at new
    cases new
  refine ⟨by simp [isNew_visit, visited], fun onStack p onPath le => ?_⟩
  have old : t ∈ s.stack := (List.mem_cons.mp onStack).resolve_left different
  rcases List.mem_cons.mp onPath with rfl | earlier
  · have below := inv.num_visit_lt new mem
    omega
  · rw [inv.num_visit new (inv.path_stack p earlier), inv.num_visit new mem] at le
    obtain ⟨q, above, higher, knows⟩ := known old p earlier le
    refine ⟨q, List.mem_cons_of_mem w above, ?_, ?_⟩
    · rw [inv.num_visit new (inv.path_stack p earlier), inv.num_visit new (inv.path_stack q above)]
      exact higher
    · rw [inv.low_visit new (inv.path_stack q above), inv.num_visit new old]
      exact knows

/-- The new node stands above all others and knows of itself. -/
theorem settled_visit (inv : s.Inv g) (new : s.isNew w = true) (v : Fin n) :
    (s.visit g w).Settled v w := by
  refine ⟨by simp [isNew_visit], fun _ p onPath _ => ⟨w, List.mem_cons_self, ?_, ?_⟩⟩
  · rcases List.mem_cons.mp onPath with rfl | old
    · omega
    · exact Nat.le_of_lt (inv.num_visit_lt new (inv.path_stack p old))
  · exact Nat.le_of_eq ((low_visit_self g s w).trans (num_visit_self g s w).symm)

/-- All edges of the new node are still to be followed. -/
theorem explored_visit (inv : s.Inv g) (new : s.isNew w = true)
    (explored : ∀ v ∈ s.stack, ∀ t ∈ g.next v, s.Followed v t → t = w ∨ s.Settled v t) :
    (s.visit g w).Explored g := by
  intro v mem t edge followed
  rcases List.mem_cons.mp mem with rfl | old
  · exact absurd edge (followed ⟨v, g.next v⟩ List.mem_cons_self rfl)
  · have before : s.Followed v t := fun visit onPath =>
      followed visit (List.mem_cons_of_mem _ onPath)
    rcases explored v old t edge before with rfl | settled
    · exact settled_visit inv new v
    · exact settled.visit inv new old

end Visit

section Lower

variable {s : Search n} {v : Fin n} {bound : Nat}

theorem low_lower (s : Search n) (v : Fin n) (bound : Nat) (x : Fin n) :
    (s.lower v bound).low.get x = if x = v then min (s.low.get v) bound else s.low.get x := by
  simp only [lower, get_set]

theorem low_lower_le (s : Search n) (v : Fin n) (bound : Nat) (x : Fin n) :
    (s.lower v bound).low.get x ≤ s.low.get x := by
  rw [low_lower]
  split
  · next same => exact same ▸ Nat.min_le_left _ _
  · exact Nat.le_refl _

theorem low_lower_le_bound (s : Search n) (v : Fin n) (bound : Nat) :
    (s.lower v bound).low.get v ≤ bound := by
  rw [low_lower, if_pos rfl]
  exact Nat.min_le_right _ _

theorem lower_of_le (le : s.low.get v ≤ bound) : s.lower v bound = s := by
  have same : s.low.set v (Nat.min (s.low.get v) bound) v.isLt = s.low := by
    apply ext_get
    intro x
    rw [get_set, show Nat.min (s.low.get v) bound = _ from Nat.min_eq_left le]
    split
    · next same => rw [same]
    · rfl
  unfold lower
  rw [same]

/-- Lowering a node to the index of a node that it reaches. -/
theorem Inv.lower (inv : s.Inv g) {y : Fin n} (onStack : y ∈ s.stack) (index : s.num y = bound)
    (path : g.Reaches v y) : (s.lower v bound).Inv g where
  visited_iff := inv.visited_iff
  apart := inv.apart
  fresh := inv.fresh
  sorted := inv.sorted
  path_stack := inv.path_stack
  path_sorted := inv.path_sorted
  todo := inv.todo
  down := inv.down
  low_le x mem := Nat.le_trans (low_lower_le s v bound x) (inv.low_le x mem)
  low_lt x mem offPath := Nat.lt_of_le_of_lt (low_lower_le s v bound x) (inv.low_lt x mem offPath)
  low_reaches x mem := by
    rw [low_lower]
    split
    · next same =>
      rcases Nat.le_total (s.low.get v) bound with le | le
      · rw [Nat.min_eq_left le, ← same]
        exact inv.low_reaches x mem
      · rw [Nat.min_eq_right le]
        exact ⟨y, onStack, index, same ▸ path⟩
    · exact inv.low_reaches x mem
  emitted := inv.emitted

theorem Settled.lower {x t : Fin n} (settled : s.Settled x t) :
    (s.lower v bound).Settled x t := by
  refine ⟨settled.1, fun onStack p onPath le => ?_⟩
  obtain ⟨q, above, higher, knows⟩ := settled.2 onStack p onPath le
  exact ⟨q, above, higher, Nat.le_trans (low_lower_le s v bound q) knows⟩

end Lower

section Step

variable {s : Search n} {v w : Fin n} {todo : List (Fin n)} {rest : List (Visit n)}

/-- Taking an edge off the last node of the path keeps all but what is said about that edge. -/
theorem Inv.advance (inv : s.Inv g) (path : s.path = ⟨v, w :: todo⟩ :: rest) :
    ({ s with path := ⟨v, todo⟩ :: rest } : Search n).Inv g := by
  have same : s.nodes = v :: rest.map (·.node) := by rw [nodes, path]; rfl
  exact {
    visited_iff := inv.visited_iff
    apart := inv.apart
    fresh := inv.fresh
    sorted := inv.sorted
    path_stack := fun p mem => inv.path_stack p (same ▸ mem)
    path_sorted := (same ▸ inv.path_sorted : (v :: rest.map (·.node)).Pairwise _)
    todo := by
      intro visit mem target edge
      rcases List.mem_cons.mp mem with rfl | later
      · exact inv.todo ⟨v, w :: todo⟩ (path ▸ List.mem_cons_self) target
          (List.mem_cons_of_mem w edge)
      · exact inv.todo visit (path ▸ List.mem_cons_of_mem _ later) target edge
    down := fun p mem => inv.down p (same ▸ mem)
    low_le := inv.low_le
    low_lt := fun x mem offPath => inv.low_lt x mem (same ▸ offPath)
    low_reaches := inv.low_reaches
    emitted := inv.emitted }

theorem Explored.advance (explored : s.Explored g) (path : s.path = ⟨v, w :: todo⟩ :: rest)
    {s' : Search n} (taken : s' = { s with path := ⟨v, todo⟩ :: rest }) :
    ∀ x ∈ s'.stack, ∀ t ∈ g.next x, s'.Followed x t → x = v ∧ t = w ∨ s'.Settled x t := by
  subst taken
  have same : s.nodes = v :: rest.map (·.node) := by rw [nodes, path]; rfl
  intro x mem t edge followed
  by_cases taken : x = v ∧ t = w
  · exact Or.inl taken
  · refine Or.inr ?_
    have before : s.Followed x t := by
      intro visit onPath node
      rw [path] at onPath
      rcases List.mem_cons.mp onPath with rfl | later
      · intro pending
        rcases List.mem_cons.mp pending with rfl | pending
        · exact taken ⟨node.symm, rfl⟩
        · exact followed ⟨v, todo⟩ List.mem_cons_self node pending
      · exact followed visit (List.mem_cons_of_mem _ later) node
    obtain ⟨visited, known⟩ := explored x mem t edge before
    rw [same] at known
    exact ⟨visited, known⟩

/-- Every node of the path reaches what its last node has an edge to. -/
theorem Inv.path_reaches (inv : s.Inv g) {below : List (Fin n)} (top : s.nodes = v :: below)
    (edge : w ∈ g.next v) : ∀ p ∈ s.nodes, g.Reaches p w := by
  intro p onPath
  have onStack := inv.path_stack v (top ▸ List.mem_cons_self)
  have highest : s.num p ≤ s.num v := by
    have sorted := inv.path_sorted
    rw [top] at onPath sorted
    rcases List.mem_cons.mp onPath with rfl | earlier
    · exact Nat.le_refl _
    · exact Nat.le_of_lt (List.rel_of_pairwise_cons sorted earlier)
  exact (inv.down p onPath v onStack highest).trans (Reaches.edge edge)

/-- Following an edge to a visited node. -/
theorem Inv.meet (inv : s.Inv g) (edge : w ∈ g.next v) :
    (s.meet v w).Inv g := by
  unfold Search.meet
  split
  · next index found =>
    split
    · next listed =>
      have onStack : w ∈ s.stack := by simpa using listed
      have same : s.num w = index := by rw [num, found]; rfl
      exact inv.lower onStack same (Reaches.edge edge)
    · exact inv
  · exact inv

theorem Settled.meet {x t : Fin n} (settled : s.Settled x t) : (s.meet v w).Settled x t := by
  unfold Search.meet
  split
  · split
    · exact settled.lower
    · exact settled
  · exact settled

theorem settled_meet (onPath : v ∈ s.nodes) (visited : s.isNew w = false) :
    (s.meet v w).Settled v w := by
  unfold Search.meet
  split
  · next index found =>
    have same : s.num w = index := by rw [num, found]; rfl
    split
    · refine ⟨visited, fun _ p _ le => ⟨v, onPath, le, ?_⟩⟩
      exact Nat.le_trans (low_lower_le_bound s v index) (Nat.le_of_eq same.symm)
    · next offStack =>
      exact ⟨visited, fun onStack => absurd (by simpa using onStack) offStack⟩
  · next absent => simp [isNew, absent] at visited

@[simp] theorem stack_meet (s : Search n) (v w : Fin n) : (s.meet v w).stack = s.stack := by
  unfold Search.meet
  split
  · split <;> rfl
  · rfl

end Step

end Search

end ServerSymbols.Digraph
