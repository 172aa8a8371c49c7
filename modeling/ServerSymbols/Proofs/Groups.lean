import ServerSymbols.Proofs.Digraph.Component
import ServerSymbols.Proofs.Reachability

set_option autoImplicit false

/-
The groups that an analysis finds: the classes of shapes that lead to one another through members,
as far as these shapes lead back to themselves at all.
-/
namespace ServerSymbols

/-- Of lists that have no entry in common, an entry is in one only. -/
theorem eq_of_mem_of_disjoint {α : Type} {groups : List (List α)}
    (apart : groups.Pairwise List.Disjoint) {first second : List α} (memFirst : first ∈ groups)
    (memSecond : second ∈ groups) {x : α} (inFirst : x ∈ first) (inSecond : x ∈ second) :
    first = second := by
  by_contra different
  have symmetric : Std.Symm (List.Disjoint (α := α)) := ⟨fun _ _ => List.Disjoint.symm⟩
  exact apart.forall memFirst memSecond different inFirst inSecond

namespace Digraph

variable {n : Nat} {g : Digraph n}

/-- Different components have no node in common. -/
theorem components_disjoint (g : Digraph n) : g.components.Pairwise List.Disjoint := by
  have nodup : g.components.flatten.Nodup :=
    (g.components.reverse_perm.flatten).nodup_iff.mp (components_emitted g).nodup_flatten
  exact (List.nodup_flatten.mp nodup).2

theorem ascending_of_mem_components {component : List (Fin n)} (mem : component ∈ g.components) :
    component.Pairwise (· < ·) :=
  ((components_emitted g).each component (List.mem_reverse.mpr mem)).2

/-- The component of a node holds what the node reaches and is reached from. -/
theorem mem_component_iff {component : List (Fin n)} (mem : component ∈ g.components) {v w : Fin n}
    (here : v ∈ component) : w ∈ component ↔ g.Reaches v w ∧ g.Reaches w v := by
  obtain ⟨_, _, _, together, _⟩ := components_classes g
  constructor
  · intro there
    exact (together v w).mp ⟨component, mem, here, there⟩
  · intro both
    obtain ⟨other, listed, first, second⟩ := (together v w).mpr both
    rw [eq_of_mem_of_disjoint (components_disjoint g) mem listed here first]
    exact second

/-- A component is cyclic if one of its nodes has a path of edges back to itself; then all of its
nodes have one. -/
theorem isCyclic_iff {component : List (Fin n)} (mem : component ∈ g.components) {v : Fin n}
    (here : v ∈ component) : g.isCyclic component = true ↔ Relation.TransGen g.Edge v v := by
  unfold isCyclic
  rw [Bool.or_eq_true, decide_eq_true_eq, List.any_eq_true]
  constructor
  · rintro (several | ⟨u, there, loop⟩)
    · have nodup : component.Nodup := (ascending_of_mem_components mem).imp Fin.ne_of_lt
      obtain ⟨w, there, different⟩ : ∃ w ∈ component, w ≠ v := by
        by_contra none_other
        push Not at none_other
        have bound := (List.subperm_of_subset nodup
          (fun w there => List.mem_singleton.mpr (none_other w there))).length_le
        rw [List.length_singleton] at bound
        omega
      obtain ⟨onward, back⟩ := (mem_component_iff mem here).mp there
      have path := (Relation.reflTransGen_iff_eq_or_transGen.mp onward).resolve_left different
      exact path.trans_left back
    · obtain ⟨onward, back⟩ := (mem_component_iff mem here).mp there
      have edge : g.Edge u u := List.contains_iff_mem.mp loop
      exact (Relation.TransGen.tail' onward edge).trans_left back
  · intro loop
    obtain ⟨w, edge, back⟩ := Relation.TransGen.head'_iff.mp loop
    by_cases same : w = v
    · exact Or.inr ⟨v, here, List.contains_iff_mem.mpr (same ▸ edge)⟩
    · have there : w ∈ component :=
        (mem_component_iff mem here).mpr ⟨Reaches.edge edge, back⟩
      have pair : [w, v].Subperm component := by
        apply List.subperm_of_subset
        · simpa using same
        · simpa using ⟨there, here⟩
      exact Or.inl pair.length_le

end Digraph

namespace Closure

variable {m : Model} {c : Closure}

theorem get_injective (nodup : c.ids.Nodup) : Function.Injective c.get :=
  List.nodup_iff_injective_get.mp nodup

theorem exists_get {id : ShapeId} (mem : id ∈ c.ids) : ∃ i, c.get i = id := by
  obtain ⟨i, index⟩ := exists_indexOf? mem
  exact ⟨i, get_of_indexOf? index⟩

/-- Paths of the graph are paths of members, as no member leads out of the closure. -/
theorem reaches_iff (closed : c.Closed m) (i j : Fin c.size) :
    (c.memberGraph m).Reaches i j ↔ m.MemberPath (c.get i) (c.get j) := by
  constructor
  · intro path
    exact path.lift c.get fun v w edge => (mem_next_iff closed v w).mp edge
  · intro path
    generalize last : c.get j = target at path
    induction path generalizing j with
    | refl =>
      rw [get_injective closed.nodup last]
      exact Digraph.Reaches.refl i
    | tail path step ih =>
      obtain ⟨k, between⟩ := exists_get (closed.path (c.get_mem i) path)
      have edge : j ∈ (c.memberGraph m).next k := by
        rw [mem_next_iff closed, between, last]
        exact step
      exact (ih k between).trans (Digraph.Reaches.edge edge)

theorem loop_iff (closed : c.Closed m) (i : Fin c.size) :
    Relation.TransGen (c.memberGraph m).Edge i i ↔
      Relation.TransGen m.MemberStep (c.get i) (c.get i) := by
  constructor
  · intro loop
    exact loop.lift c.get fun v w edge => (mem_next_iff closed v w).mp edge
  · intro loop
    obtain ⟨target, step, back⟩ := Relation.TransGen.head'_iff.mp loop
    obtain ⟨j, same⟩ := exists_get (closed.step (c.get_mem i) step)
    have edge : (c.memberGraph m).Edge i j := by
      rw [← same] at step
      exact (mem_next_iff closed i j).mpr step
    have path : (c.memberGraph m).Reaches j i := by
      rw [reaches_iff closed, same]
      exact back
    exact Relation.TransGen.head' edge path

theorem mem_cycles {group : List ShapeId} :
    group ∈ c.cycles m ↔ ∃ component ∈ (c.memberGraph m).components,
      (c.memberGraph m).isCyclic component = true ∧ component.map c.get = group := by
  unfold cycles
  rw [List.mem_map]
  simp only [List.mem_filter, and_assoc]

/-- A group is one class of shapes that lead to one another, in the order of the closure. -/
structure IsGroup (m : Model) (c : Closure) (id : ShapeId) (group : List ShapeId) : Prop where
  mem_iff : ∀ other, other ∈ group ↔ m.MemberPath id other ∧ m.MemberPath other id
  nodup : group.Nodup
  ordered : group.Sublist c.ids

theorem isGroup_map_get (closed : c.Closed m) {component : List (Fin c.size)}
    (mem : component ∈ (c.memberGraph m).components) {i : Fin c.size} (here : i ∈ component) :
    IsGroup m c (c.get i) (component.map c.get) := by
  have ordered : (component.map c.get).Sublist c.ids :=
    List.map_getElem_sublist (Digraph.ascending_of_mem_components mem)
  refine ⟨fun other => ?_, closed.nodup.sublist ordered, ordered⟩
  rw [List.mem_map]
  constructor
  · rintro ⟨j, there, rfl⟩
    rw [← reaches_iff closed, ← reaches_iff closed]
    exact (Digraph.mem_component_iff mem here).mp there
  · intro both
    obtain ⟨j, rfl⟩ := exists_get (closed.path (c.get_mem i) both.1)
    rw [← reaches_iff closed, ← reaches_iff closed] at both
    exact ⟨j, (Digraph.mem_component_iff mem here).mpr both, rfl⟩

/-- A shape is in one of the groups if it leads back to itself. -/
theorem exists_group_iff (closed : c.Closed m) (id : ShapeId) :
    (∃ group ∈ c.cycles m, id ∈ group) ↔
      id ∈ c.ids ∧ Relation.TransGen m.MemberStep id id := by
  constructor
  · rintro ⟨group, listed, mem⟩
    obtain ⟨component, emitted, cyclic, rfl⟩ := mem_cycles.mp listed
    obtain ⟨i, here, rfl⟩ := List.mem_map.mp mem
    have loop := (Digraph.isCyclic_iff emitted here).mp cyclic
    exact ⟨c.get_mem i, (loop_iff closed i).mp loop⟩
  · rintro ⟨mem, loop⟩
    obtain ⟨i, rfl⟩ := exists_get mem
    obtain ⟨component, emitted, here⟩ :=
      List.mem_flatten.mp (Digraph.mem_components (c.memberGraph m).toDigraph i)
    have cyclic := (Digraph.isCyclic_iff emitted here).mpr ((loop_iff closed i).mpr loop)
    exact ⟨component.map c.get, mem_cycles.mpr ⟨component, emitted, cyclic, rfl⟩,
      List.mem_map_of_mem here⟩

theorem isGroup_of_mem_cycles (closed : c.Closed m) {group : List ShapeId} {id : ShapeId}
    (listed : group ∈ c.cycles m) (mem : id ∈ group) : IsGroup m c id group := by
  obtain ⟨component, emitted, _, rfl⟩ := mem_cycles.mp listed
  obtain ⟨i, here, rfl⟩ := List.mem_map.mp mem
  exact isGroup_map_get closed emitted here

/-- Members lead from data shapes only, so references between operations, resources and services
make no group. -/
theorem isData_of_mem_cycles (closed : c.Closed m) {group : List ShapeId} {id : ShapeId}
    (listed : group ∈ c.cycles m) (mem : id ∈ group) :
    ∃ shape, m.get? id = some shape ∧ shape.isData = true := by
  obtain ⟨_, loop⟩ := (exists_group_iff closed id).mp ⟨group, listed, mem⟩
  obtain ⟨target, ⟨shape, found, member⟩, _⟩ := Relation.TransGen.head'_iff.mp loop
  exact ⟨shape, found, Shape.isData_of_mem_targets member⟩

theorem exists_mem_of_mem_cycles {group : List ShapeId} (listed : group ∈ c.cycles m) :
    ∃ id, id ∈ group := by
  obtain ⟨component, emitted, _, rfl⟩ := mem_cycles.mp listed
  have nonempty := ((Digraph.components_emitted _).each component
    (List.mem_reverse.mpr emitted)).1
  obtain ⟨i, here⟩ := List.exists_mem_of_ne_nil component nonempty
  exact ⟨c.get i, List.mem_map_of_mem here⟩

theorem cycles_disjoint (closed : c.Closed m) : (c.cycles m).Pairwise List.Disjoint := by
  unfold cycles
  apply List.Pairwise.map _ _ ((Digraph.components_disjoint _).filter _)
  intro first second apart
  exact List.disjoint_map (get_injective closed.nodup) apart

/-- The groups are different, as none is empty. -/
theorem cycles_nodup (closed : c.Closed m) : (c.cycles m).Nodup := by
  refine (cycles_disjoint closed).imp_of_mem fun {first second} listed _ apart => ?_
  rintro rfl
  obtain ⟨id, mem⟩ := exists_mem_of_mem_cycles listed
  exact apart mem mem

end Closure

namespace Reachability

variable {r : Reachability}

/-- If no shape is in two groups, then looking one up cannot but find its group. -/
theorem cycleOf?_eq_some_iff (apart : r.cycles.Pairwise List.Disjoint) {id : ShapeId}
    {group : List ShapeId} : r.cycleOf? id = some group ↔ group ∈ r.cycles ∧ id ∈ group := by
  unfold cycleOf?
  constructor
  · intro found
    exact ⟨List.mem_of_find?_eq_some found, by simpa using List.find?_some found⟩
  · rintro ⟨listed, mem⟩
    cases found : r.cycles.find? (id ∈ ·) with
    | none => exact absurd mem (by simpa using List.find?_eq_none.mp found group listed)
    | some other =>
      have inside : id ∈ other := by simpa using List.find?_some found
      have known := List.mem_of_find?_eq_some found
      rw [eq_of_mem_of_disjoint apart known listed inside mem]

section Closed

variable {m : Model} {c : Closure} {id : ShapeId}

theorem isSome_cycleOf?_iff (closed : c.Closed m) (cycles : r.cycles = c.cycles m)
    (id : ShapeId) :
    (r.cycleOf? id).isSome = true ↔ id ∈ c.ids ∧ Relation.TransGen m.MemberStep id id := by
  rw [← Closure.exists_group_iff closed, ← cycles]
  unfold cycleOf?
  simp only [List.find?_isSome, decide_eq_true_eq]

theorem isGroup_of_cycleOf? (closed : c.Closed m) (cycles : r.cycles = c.cycles m)
    {group : List ShapeId} (found : r.cycleOf? id = some group) : c.IsGroup m id group := by
  have apart : r.cycles.Pairwise List.Disjoint := cycles ▸ Closure.cycles_disjoint closed
  obtain ⟨listed, mem⟩ := (cycleOf?_eq_some_iff apart).mp found
  exact Closure.isGroup_of_mem_cycles closed (cycles ▸ listed) mem

/-- Closures that share a shape know the same group of it, in an order of their own. -/
theorem cycleOf?_toFinset {r' : Reachability} {c' : Closure} (closed : c.Closed m)
    (closed' : c'.Closed m) (cycles : r.cycles = c.cycles m) (cycles' : r'.cycles = c'.cycles m)
    (mem : id ∈ c.ids) (mem' : id ∈ c'.ids) :
    (r.cycleOf? id).map List.toFinset = (r'.cycleOf? id).map List.toFinset := by
  have looped := isSome_cycleOf?_iff closed cycles id
  have looped' := isSome_cycleOf?_iff closed' cycles' id
  simp only [mem, mem', true_and] at looped looped'
  cases first : r.cycleOf? id with
  | none =>
    cases second : r'.cycleOf? id with
    | none => rfl
    | some group' =>
      rw [first] at looped
      rw [second] at looped'
      exact absurd (looped.mpr (looped'.mp rfl)) (by simp)
  | some group =>
    obtain ⟨group', second⟩ : ∃ group', r'.cycleOf? id = some group' := by
      rw [first] at looped
      exact Option.isSome_iff_exists.mp (looped'.mpr (looped.mp rfl))
    have isGroup := isGroup_of_cycleOf? closed cycles first
    have isGroup' := isGroup_of_cycleOf? closed' cycles' second
    rw [second, Option.map_some, Option.map_some, Option.some.injEq]
    ext other
    rw [List.mem_toFinset, List.mem_toFinset, isGroup.mem_iff, isGroup'.mem_iff]

end Closed

end Reachability

namespace Analysis

/-- The analysis of an accepted service finds the group of a shape exactly if the shape belongs to
the service and members lead from it back to it. The group has the shapes that lead to it and that
it leads to, each once and in the order of the closure. All groups are listed, each once; they have
no shape in common, and none but data shapes. The strategy does not matter. -/
theorem compute_cycles (a : Analysis) (c : Closure)
    (found : a.model.serviceClosure a.service = .ok c) :
    ∃ r, a.compute = .ok r ∧
      (∀ id, (∃ group, r.cycleOf? id = some group) ↔
        id ∈ c.ids ∧ Relation.TransGen a.model.MemberStep id id) ∧
      (∀ id group, r.cycleOf? id = some group → Closure.IsGroup a.model c id group) ∧
      (∀ id group, r.cycleOf? id = some group ↔ group ∈ r.cycles ∧ id ∈ group) ∧
      (∀ group ∈ r.cycles, ∃ id, r.cycleOf? id = some group) ∧
      r.cycles.Nodup ∧ r.cycles.Pairwise List.Disjoint ∧
      (∀ group ∈ r.cycles, ∀ id ∈ group,
        ∃ shape, a.model.get? id = some shape ∧ shape.isData = true) ∧
      ∀ strategy, ∃ r', { a with strategy := strategy }.compute = .ok r' ∧
        r'.cycles = r.cycles ∧ r'.cycleOf? = r.cycleOf? := by
  have closed := Model.serviceClosure_closed found
  have computed (strategy : Strategy) :
      ∃ r, { a with strategy := strategy }.compute = .ok r ∧ r.cycles = c.cycles a.model := by
    obtain ⟨marks, passes, result, _⟩ := Reachability.compute_eq_ok closed strategy
    have unfolded : { a with strategy := strategy }.compute =
        Reachability.compute a.model c strategy := by
      unfold compute
      rw [found]
      rfl
    exact ⟨_, unfolded.trans result, rfl⟩
  obtain ⟨r, result, groups⟩ := computed a.strategy
  have apart : r.cycles.Pairwise List.Disjoint := groups ▸ Closure.cycles_disjoint closed
  have lookup (id : ShapeId) (group : List ShapeId) :
      r.cycleOf? id = some group ↔ group ∈ r.cycles ∧ id ∈ group :=
    Reachability.cycleOf?_eq_some_iff apart
  have cyclic (id : ShapeId) : (∃ group, r.cycleOf? id = some group) ↔
      id ∈ c.ids ∧ Relation.TransGen a.model.MemberStep id id := by
    simp only [lookup, groups]
    exact Closure.exists_group_iff closed id
  refine ⟨r, result, cyclic, ?_, lookup, ?_, groups ▸ Closure.cycles_nodup closed, apart, ?_, ?_⟩
  · intro id group same
    obtain ⟨listed, mem⟩ := (lookup id group).mp same
    exact Closure.isGroup_of_mem_cycles closed (groups ▸ listed) mem
  · intro group listed
    obtain ⟨id, mem⟩ := Closure.exists_mem_of_mem_cycles (groups ▸ listed)
    exact ⟨id, (lookup id group).mpr ⟨listed, mem⟩⟩
  · intro group listed id mem
    exact Closure.isData_of_mem_cycles closed (groups ▸ listed) mem
  · intro strategy
    obtain ⟨r', result', groups'⟩ := computed strategy
    have same : r'.cycles = r.cycles := groups'.trans groups.symm
    refine ⟨r', result', same, ?_⟩
    funext id
    unfold Reachability.cycleOf?
    rw [same]

/-- The analysis of the service of `Model.forest`. -/
def forest : Analysis :=
  ⟨Model.forest, ⟨"test", "Service"⟩, .fixpoint⟩

theorem compute_cycles_forest :
    ∃ c, forest.model.serviceClosure forest.service = .ok c ∧ ∃ r, forest.compute = .ok r ∧
      (∀ id, (∃ group, r.cycleOf? id = some group) ↔
        id ∈ c.ids ∧ Relation.TransGen forest.model.MemberStep id id) ∧
      (∀ id group, r.cycleOf? id = some group → Closure.IsGroup forest.model c id group) ∧
      (∀ id group, r.cycleOf? id = some group ↔ group ∈ r.cycles ∧ id ∈ group) ∧
      (∀ group ∈ r.cycles, ∃ id, r.cycleOf? id = some group) ∧
      r.cycles.Nodup ∧ r.cycles.Pairwise List.Disjoint ∧
      (∀ group ∈ r.cycles, ∀ id ∈ group,
        ∃ shape, forest.model.get? id = some shape ∧ shape.isData = true) ∧
      ∀ strategy, ∃ r', { forest with strategy := strategy }.compute = .ok r' ∧
        r'.cycles = r.cycles ∧ r'.cycleOf? = r.cycleOf? := by
  have found : forest.model.serviceClosure forest.service =
      .ok ⟨⟨"test", "Service"⟩, [⟨"test", "Service"⟩, ⟨"test", "Grow"⟩, ⟨"test", "Tree"⟩,
        ⟨"test", "Forest"⟩, .prelude "String", ⟨"test", "Notes"⟩, ⟨"test", "Lines"⟩]⟩ := by cbv
  exact ⟨_, found, compute_cycles forest _ found⟩

-- A tree holds a forest, which holds trees; nothing else leads back to itself.
example : forest.compute.map (·.cycles) = .ok [[⟨"test", "Tree"⟩, ⟨"test", "Forest"⟩]] := by cbv

end Analysis

end ServerSymbols
