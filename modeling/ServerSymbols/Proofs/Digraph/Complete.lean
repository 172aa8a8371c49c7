import ServerSymbols.Proofs.Digraph.Search

set_option autoImplicit false

/-
Leaving a node whose edges are all followed. If nothing on the stack below it can be reached, the
nodes from it to the top are one component; otherwise its predecessor learns what it knows.
-/
namespace ServerSymbols

theorem ascending_mergeSort {n : Nat} {xs : List (Fin n)} (nodup : xs.Nodup) :
    (xs.mergeSort (· ≤ ·)).Pairwise (· < ·) := by
  have sorted : (xs.mergeSort (· ≤ ·)).Pairwise (· ≤ ·) := by
    refine (List.pairwise_mergeSort ?_ ?_ xs).imp of_decide_eq_true
    · intro a b c first second
      simp only [decide_eq_true_eq] at *
      omega
    · intro a b
      simp only [Bool.or_eq_true, decide_eq_true_eq]
      omega
  have distinct : (xs.mergeSort (· ≤ ·)).Nodup := (List.mergeSort_perm xs _).nodup_iff.mpr nodup
  exact (sorted.and distinct).imp fun both =>
    Nat.lt_of_le_of_ne both.1 (Fin.val_ne_of_ne both.2)

namespace Digraph.Search

variable {n : Nat} {g : Digraph n} {s : Search n} {v : Fin n} {rest : List (Visit n)}

/-- The last node of a path lowers the one before it. -/
def passLow (s : Search n) (v : Fin n) : List (Visit n) → Search n
  | [] => s
  | parent :: _ => s.lower parent.node (s.low.get v)

theorem leave_eq (s : Search n) (v : Fin n) (rest : List (Visit n)) :
    s.leave v rest =
      let left : Search n := { s.passLow v rest with path := rest }
      if left.index.get v = some (left.low.get v) then left.complete v else left := by
  cases rest <;> rfl

@[simp] theorem stack_passLow (s : Search n) (v : Fin n) (rest : List (Visit n)) :
    (s.passLow v rest).stack = s.stack := by
  cases rest <;> rfl

@[simp] theorem index_passLow (s : Search n) (v : Fin n) (rest : List (Visit n)) :
    (s.passLow v rest).index = s.index := by
  cases rest <;> rfl

@[simp] theorem path_passLow (s : Search n) (v : Fin n) (rest : List (Visit n)) :
    (s.passLow v rest).path = s.path := by
  cases rest <;> rfl

theorem low_passLow_le (s : Search n) (v : Fin n) (rest : List (Visit n)) (x : Fin n) :
    (s.passLow v rest).low.get x ≤ s.low.get x := by
  cases rest with
  | nil => exact Nat.le_refl _
  | cons parent later => exact low_lower_le s parent.node (s.low.get v) x

section Path

theorem nodes_eq {todo : List (Fin n)} (path : s.path = ⟨v, todo⟩ :: rest) :
    s.nodes = v :: rest.map (·.node) := by
  rw [nodes, path]
  rfl

theorem Inv.top_mem {todo : List (Fin n)} (inv : s.Inv g) (path : s.path = ⟨v, todo⟩ :: rest) :
    v ∈ s.stack :=
  inv.path_stack v (nodes_eq path ▸ List.mem_cons_self)

theorem Inv.rest_stack {todo : List (Fin n)} (inv : s.Inv g) (path : s.path = ⟨v, todo⟩ :: rest)
    {p : Fin n} (mem : p ∈ rest.map (·.node)) : p ∈ s.stack :=
  inv.path_stack p (nodes_eq path ▸ List.mem_cons_of_mem v mem)

theorem Inv.rest_lt {todo : List (Fin n)} (inv : s.Inv g) (path : s.path = ⟨v, todo⟩ :: rest)
    {p : Fin n} (mem : p ∈ rest.map (·.node)) : s.num p < s.num v := by
  have sorted := inv.path_sorted
  rw [nodes_eq path] at sorted
  exact List.rel_of_pairwise_cons sorted mem

/-- The node before the last one stands above all others. -/
theorem Inv.parent_top {todo : List (Fin n)} {parent : Visit n} (inv : s.Inv g)
    (path : s.path = ⟨v, todo⟩ :: parent :: rest) {p : Fin n}
    (mem : p ∈ parent.node :: rest.map (·.node)) : s.num p ≤ s.num parent.node := by
  rcases List.mem_cons.mp mem with rfl | earlier
  · exact Nat.le_refl _
  · have sorted := inv.path_sorted
    rw [nodes_eq path, List.map_cons, List.pairwise_cons] at sorted
    exact Nat.le_of_lt (List.rel_of_pairwise_cons sorted.2 earlier)

theorem Inv.passLow {todo : List (Fin n)} (inv : s.Inv g) (path : s.path = ⟨v, todo⟩ :: rest) :
    (s.passLow v rest).Inv g := by
  cases rest with
  | nil => exact inv
  | cons parent later =>
    obtain ⟨y, onStack, index, onward⟩ := inv.low_reaches v (inv.top_mem path)
    have onPath : parent.node ∈ s.nodes := by simp [nodes_eq path]
    have before := Nat.le_of_lt (inv.rest_lt path (by simp : parent.node ∈ _))
    have down := inv.down parent.node onPath v (inv.top_mem path) before
    exact inv.lower onStack index (down.trans onward)

/-- A root learns nothing about nodes below it that its predecessor does not know. -/
theorem Inv.passLow_of_root {todo : List (Fin n)} (inv : s.Inv g)
    (path : s.path = ⟨v, todo⟩ :: rest) (root : s.low.get v = s.num v) : s.passLow v rest = s := by
  cases rest with
  | nil => rfl
  | cons parent later =>
    have mem : parent.node ∈ (parent :: later).map (·.node) := List.mem_cons_self
    have below := inv.rest_lt path mem
    have low := inv.low_le parent.node (inv.rest_stack path mem)
    exact lower_of_le (by omega)

theorem Inv.low_passLow_top {todo : List (Fin n)} (inv : s.Inv g)
    (path : s.path = ⟨v, todo⟩ :: rest) : (s.passLow v rest).low.get v = s.low.get v := by
  cases rest with
  | nil => rfl
  | cons parent later =>
    have below := inv.rest_lt path (by simp : parent.node ∈ _)
    have different : v ≠ parent.node := by
      intro same
      rw [← same] at below
      omega
    rw [Search.passLow, low_lower, if_neg different]

theorem Inv.leave_of_root {todo : List (Fin n)} (inv : s.Inv g)
    (path : s.path = ⟨v, todo⟩ :: rest) (root : s.low.get v = s.num v) :
    s.leave v rest = ({ s with path := rest } : Search n).complete v := by
  rw [leave_eq, inv.passLow_of_root path root]
  refine if_pos ?_
  rw [inv.index_eq (inv.top_mem path), root]

theorem Inv.leave_of_lt {todo : List (Fin n)} (inv : s.Inv g)
    (path : s.path = ⟨v, todo⟩ :: rest) (lower : s.low.get v < s.num v) :
    s.leave v rest = { s.passLow v rest with path := rest } := by
  rw [leave_eq]
  refine if_neg ?_
  rw [index_passLow, inv.index_eq (inv.top_mem path), inv.low_passLow_top path]
  simp only [Option.some.injEq]
  omega

/-- A node that knows of an earlier node of the stack stays there. -/
theorem Inv.retreat (inv : s.Inv g) (path : s.path = ⟨v, []⟩ :: rest)
    (lower : s.low.get v < s.num v) : ({ s with path := rest } : Search n).Inv g := by
  have same := nodes_eq path
  constructor
  case visited_iff => exact inv.visited_iff
  case apart => exact inv.apart
  case fresh => exact inv.fresh
  case sorted => exact inv.sorted
  case path_stack => exact fun p mem => inv.rest_stack path mem
  case path_sorted => exact (List.pairwise_cons.mp (same ▸ inv.path_sorted)).2
  case todo => exact fun visit mem => inv.todo visit (path ▸ List.mem_cons_of_mem _ mem)
  case down => exact fun p mem => inv.down p (same ▸ List.mem_cons_of_mem v mem)
  case low_le => exact inv.low_le
  case low_lt =>
    intro x mem offPath
    by_cases top : x = v
    · exact top ▸ lower
    · refine inv.low_lt x mem fun onPath => ?_
      rw [same] at onPath
      exact offPath ((List.mem_cons.mp onPath).resolve_left top)
  case low_reaches => exact inv.low_reaches
  case emitted => exact inv.emitted

theorem Followed.of_rest {w x : Fin n} (path : s.path = ⟨v, []⟩ :: rest)
    (followed : ∀ visit ∈ rest, visit.node = x → w ∉ visit.todo) : s.Followed x w := by
  intro visit mem node
  rw [path] at mem
  rcases List.mem_cons.mp mem with rfl | later
  · exact List.not_mem_nil
  · exact followed visit later node

/-- What the last node of the path knew, the one before it knows after the step back. -/
theorem Settled.retreat {x w : Fin n} (settled : s.Settled x w) (inv : s.Inv g)
    (path : s.path = ⟨v, []⟩ :: rest) :
    ({ s.passLow v rest with path := rest } : Search n).Settled x w := by
  have num_eq : ∀ y, ({ s.passLow v rest with path := rest } : Search n).num y = s.num y :=
    fun y => by simp only [num, index_passLow]
  refine ⟨by simpa only [isNew, index_passLow] using settled.1, fun onStack p onPath le => ?_⟩
  rw [num_eq, num_eq] at le
  have onPath : p ∈ rest.map (·.node) := onPath
  obtain ⟨q, above, higher, knows⟩ := settled.2 (stack_passLow s v rest ▸ onStack) p
    (nodes_eq path ▸ List.mem_cons_of_mem v onPath) le
  rw [nodes_eq path] at above
  rcases List.mem_cons.mp above with rfl | earlier
  · cases rest with
    | nil => exact absurd onPath List.not_mem_nil
    | cons parent later =>
      refine ⟨parent.node, List.mem_cons_self, ?_, ?_⟩
      · rw [num_eq, num_eq]
        exact inv.parent_top path onPath
      · rw [num_eq]
        exact Nat.le_trans (low_lower_le_bound s parent.node (s.low.get q)) knows
  · refine ⟨q, earlier, ?_, ?_⟩
    · rw [num_eq, num_eq]
      exact higher
    · rw [num_eq]
      exact Nat.le_trans (low_passLow_le s v rest q) knows

end Path

/-- The node `v` is left as the root of its component. -/
structure Root (g : Digraph n) (s : Search n) (v : Fin n) (rest : List (Visit n)) : Prop where
  inv : s.Inv g
  explored : s.Explored g
  path : s.path = ⟨v, []⟩ :: rest
  low : s.low.get v = s.num v

namespace Root

theorem offPath (root : s.Root g v rest) {x : Fin n} (above : s.num v ≤ s.num x) (ne : x ≠ v) :
    x ∉ s.nodes := by
  intro onPath
  rw [nodes_eq root.path] at onPath
  have := root.inv.rest_lt root.path ((List.mem_cons.mp onPath).resolve_left ne)
  omega

/-- Edges from the root's part of the stack stay in it or lead to complete components. -/
theorem edge (root : s.Root g v rest) {x w : Fin n} (mem : x ∈ s.stack)
    (above : s.num v ≤ s.num x) (edge : w ∈ g.next x) :
    (w ∈ s.stack ∧ s.num v ≤ s.num w) ∨ w ∈ s.done.flatten := by
  have followed : s.Followed x w := by
    refine Followed.of_rest root.path fun visit later node => ?_
    have before := root.inv.rest_lt root.path (List.mem_map_of_mem later)
    rw [node] at before
    omega
  obtain ⟨visited, known⟩ := root.explored x mem w edge followed
  rcases (root.inv.visited_iff w).mp visited with onStack | complete
  · have onPath : v ∈ s.nodes := nodes_eq root.path ▸ List.mem_cons_self
    obtain ⟨q, higher, le, knows⟩ := known onStack v onPath above
    have top : q = v := by
      by_contra ne
      exact root.offPath le ne higher
    rw [top, root.low] at knows
    exact Or.inl ⟨onStack, knows⟩
  · exact Or.inr complete

theorem reach (root : s.Root g v rest) {x w : Fin n} (mem : x ∈ s.stack)
    (above : s.num v ≤ s.num x) (path : g.Reaches x w) :
    (w ∈ s.stack ∧ s.num v ≤ s.num w) ∨ w ∈ s.done.flatten := by
  refine path.closed (P := fun u => (u ∈ s.stack ∧ s.num v ≤ s.num u) ∨ u ∈ s.done.flatten)
    (fun u inside t edge => ?_) (Or.inl ⟨mem, above⟩)
  rcases inside with ⟨onStack, above⟩ | complete
  · exact root.edge onStack above edge
  · exact Or.inr (root.inv.emitted.closed_flatten u complete t edge)

/-- Every node above the root leads back to it, by induction on when it was first visited. -/
theorem back (root : s.Root g v rest) {x : Fin n} (mem : x ∈ s.stack)
    (above : s.num v ≤ s.num x) : g.Reaches x v := by
  induction index : s.num x using Nat.strongRecOn generalizing x with
  | ind k ih =>
    by_cases same : x = v
    · exact same ▸ Reaches.refl x
    · have lower := root.inv.low_lt x mem (root.offPath above same)
      obtain ⟨y, onStack, low, onward⟩ := root.inv.low_reaches x mem
      rcases root.reach mem above onward with ⟨_, aboveY⟩ | complete
      · exact onward.trans (ih (s.num y) (by omega) onStack aboveY rfl)
      · exact absurd complete (root.inv.apart y onStack)

theorem down (root : s.Root g v rest) {x : Fin n} (mem : x ∈ s.stack)
    (above : s.num v ≤ s.num x) : g.Reaches v x :=
  root.inv.down v (nodes_eq root.path ▸ List.mem_cons_self) x mem above

theorem stack_eq (root : s.Root g v rest) :
    s.stack = s.stack.takeWhile (· != v) ++ v :: (s.stack.dropWhile (· != v)).drop 1 :=
  append_cons_of_mem (root.inv.top_mem root.path)

/-- The root parts the stack by first visits. -/
theorem parts (root : s.Root g v rest) :
    (∀ x ∈ s.stack.takeWhile (· != v), s.num v < s.num x) ∧
      ∀ x ∈ (s.stack.dropWhile (· != v)).drop 1, s.num x < s.num v := by
  have sorted := root.inv.sorted
  rw [root.stack_eq, List.pairwise_append, List.pairwise_cons] at sorted
  obtain ⟨_, ⟨below, _⟩, above⟩ := sorted
  exact ⟨fun x mem => above x mem v List.mem_cons_self, below⟩

/-- The nodes that the root takes from the stack. -/
theorem mem_taken (root : s.Root g v rest) {x : Fin n} :
    x ∈ v :: s.stack.takeWhile (· != v) ↔ x ∈ s.stack ∧ s.num v ≤ s.num x := by
  constructor
  · intro mem
    rcases List.mem_cons.mp mem with rfl | later
    · exact ⟨root.inv.top_mem root.path, Nat.le_refl _⟩
    · have onStack : x ∈ s.stack := (List.takeWhile_sublist _).subset later
      exact ⟨onStack, Nat.le_of_lt (root.parts.1 x later)⟩
  · intro taken
    obtain ⟨onStack, above⟩ := taken
    rw [root.stack_eq] at onStack
    rcases List.mem_append.mp onStack with later | below
    · exact List.mem_cons_of_mem v later
    · rcases List.mem_cons.mp below with rfl | below
      · exact List.mem_cons_self
      · have lower := root.parts.2 x below
        omega

/-- The nodes that the root leaves on the stack. -/
theorem mem_left (root : s.Root g v rest) {x : Fin n} :
    x ∈ (s.stack.dropWhile (· != v)).drop 1 ↔ x ∈ s.stack ∧ s.num x < s.num v := by
  constructor
  · intro below
    have onStack : x ∈ s.stack :=
      ((List.drop_sublist 1 _).trans (List.dropWhile_sublist _)).subset below
    exact ⟨onStack, root.parts.2 x below⟩
  · intro left
    obtain ⟨onStack, lower⟩ := left
    rw [root.stack_eq] at onStack
    rcases List.mem_append.mp onStack with later | below
    · have above := root.parts.1 x later
      omega
    · rcases List.mem_cons.mp below with rfl | below
      · omega
      · exact below

theorem emitted (root : s.Root g v rest) :
    Emitted g ((v :: s.stack.takeWhile (· != v)).mergeSort (· ≤ ·) :: s.done) := by
  have mem_iff : ∀ x, x ∈ (v :: s.stack.takeWhile (· != v)).mergeSort (· ≤ ·) ↔
      x ∈ s.stack ∧ s.num v ≤ s.num x := fun x => by
    rw [List.mem_mergeSort, root.mem_taken]
  constructor
  case nonempty =>
    intro empty
    have := (mem_iff v).mpr ⟨root.inv.top_mem root.path, Nat.le_refl _⟩
    rw [empty] at this
    cases this
  case ascending =>
    refine ascending_mergeSort (List.nodup_cons.mpr ⟨?_, ?_⟩)
    · intro mem
      have skipped := List.all_eq_true.mp List.all_takeWhile v mem
      simp at skipped
    · exact root.inv.nodup.sublist (List.takeWhile_sublist _)
  case apart =>
    intro x mem
    exact root.inv.apart x ((mem_iff x).mp mem).1
  case connected =>
    intro x memX y memY
    obtain ⟨onStackX, aboveX⟩ := (mem_iff x).mp memX
    obtain ⟨onStackY, aboveY⟩ := (mem_iff y).mp memY
    exact (root.back onStackX aboveX).trans (root.down onStackY aboveY)
  case closed =>
    intro x mem w edge
    obtain ⟨onStack, above⟩ := (mem_iff x).mp mem
    rw [mem_iff]
    exact root.edge onStack above edge
  case earlier => exact root.inv.emitted

/-- The nodes below the root do not notice that its component is complete. -/
theorem inv_complete (root : s.Root g v rest) :
    (({ s with path := rest } : Search n).complete v).Inv g := by
  have nodes_sub : ∀ p ∈ rest.map (·.node), p ∈ s.nodes := fun p mem =>
    nodes_eq root.path ▸ List.mem_cons_of_mem v mem
  have component : ∀ x, x ∈ (v :: s.stack.takeWhile (· != v)).mergeSort (· ≤ ·) ↔
      x ∈ s.stack ∧ s.num v ≤ s.num x := fun x => by
    rw [List.mem_mergeSort, root.mem_taken]
  constructor
  case visited_iff =>
    intro x
    show s.isNew x = false ↔ x ∈ (s.stack.dropWhile (· != v)).drop 1 ∨ x ∈ List.flatten (_ :: _)
    rw [root.inv.visited_iff, root.mem_left, List.flatten_cons, List.mem_append, component]
    constructor
    · intro visited
      rcases visited with onStack | complete
      · rcases Nat.lt_or_ge (s.num x) (s.num v) with below | above
        · exact Or.inl ⟨onStack, below⟩
        · exact Or.inr (Or.inl ⟨onStack, above⟩)
      · exact Or.inr (Or.inr complete)
    · intro parts
      rcases parts with ⟨onStack, _⟩ | ⟨onStack, _⟩ | complete
      · exact Or.inl onStack
      · exact Or.inl onStack
      · exact Or.inr complete
  case apart =>
    intro x mem complete
    obtain ⟨onStack, below⟩ := root.mem_left.mp mem
    rcases List.mem_append.mp (List.flatten_cons ▸ complete) with here | earlier
    · have := ((component x).mp here).2
      omega
    · exact root.inv.apart x onStack earlier
  case fresh => exact fun x mem => root.inv.fresh x (root.mem_left.mp mem).1
  case sorted =>
    exact root.inv.sorted.sublist ((List.drop_sublist 1 _).trans (List.dropWhile_sublist _))
  case path_stack =>
    intro p mem
    exact root.mem_left.mpr ⟨root.inv.rest_stack root.path mem, root.inv.rest_lt root.path mem⟩
  case path_sorted =>
    exact (List.pairwise_cons.mp (nodes_eq root.path ▸ root.inv.path_sorted)).2
  case todo =>
    exact fun visit mem => root.inv.todo visit (root.path ▸ List.mem_cons_of_mem _ mem)
  case down =>
    exact fun p onPath x mem => root.inv.down p (nodes_sub p onPath) x (root.mem_left.mp mem).1
  case low_le => exact fun x mem => root.inv.low_le x (root.mem_left.mp mem).1
  case low_lt =>
    intro x mem offPath
    obtain ⟨onStack, below⟩ := root.mem_left.mp mem
    refine root.inv.low_lt x onStack fun onPath => ?_
    rw [nodes_eq root.path] at onPath
    rcases List.mem_cons.mp onPath with rfl | earlier
    · omega
    · exact offPath earlier
  case low_reaches =>
    intro x mem
    obtain ⟨onStack, below⟩ := root.mem_left.mp mem
    have low := root.inv.low_le x onStack
    obtain ⟨y, target, index, onward⟩ := root.inv.low_reaches x onStack
    exact ⟨y, root.mem_left.mpr ⟨target, by omega⟩, index, onward⟩
  case emitted => exact root.emitted

theorem explored_complete (root : s.Root g v rest) :
    (({ s with path := rest } : Search n).complete v).Explored g := by
  intro x mem w edge followed
  obtain ⟨onStack, below⟩ := root.mem_left.mp mem
  obtain ⟨visited, known⟩ :=
    root.explored x onStack w edge (Followed.of_rest root.path followed)
  refine ⟨visited, fun left p onPath le => ?_⟩
  obtain ⟨target, lower⟩ := root.mem_left.mp left
  obtain ⟨q, above, higher, knows⟩ :=
    known target p (nodes_eq root.path ▸ List.mem_cons_of_mem v onPath) le
  rw [nodes_eq root.path] at above
  rcases List.mem_cons.mp above with rfl | earlier
  · have := root.low
    omega
  · exact ⟨q, earlier, higher, knows⟩

end Root

/-- Leaving a node keeps all that is said about the others. -/
theorem inv_leave (inv : s.Inv g) (explored : s.Explored g) (path : s.path = ⟨v, []⟩ :: rest) :
    (s.leave v rest).Inv g ∧ (s.leave v rest).Explored g := by
  rcases Nat.eq_or_lt_of_le (inv.low_le v (inv.top_mem path)) with low | lower
  · have root : s.Root g v rest := ⟨inv, explored, path, low⟩
    rw [inv.leave_of_root path low]
    exact ⟨root.inv_complete, root.explored_complete⟩
  · rw [inv.leave_of_lt path lower]
    constructor
    · have passed := inv.passLow path
      refine passed.retreat ((path_passLow s v rest).trans path) ?_
      rw [inv.low_passLow_top path]
      simpa only [num, index_passLow] using lower
    · intro x mem w edge followed
      rw [stack_passLow] at mem
      exact (explored x mem w edge (Followed.of_rest path followed)).retreat inv path

end Digraph.Search

end ServerSymbols
