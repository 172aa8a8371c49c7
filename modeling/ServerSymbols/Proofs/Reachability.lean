import ServerSymbols.Reachability
import ServerSymbols.Proofs.Digraph.Mark
import ServerSymbols.Proofs.Model.Walk
import Mathlib

set_option autoImplicit false

/-
The analysis of a closure finds the shapes with a path of members to a constrained shape, where the
path may run through the whole model: no member leads out of a closure.
-/
namespace ServerSymbols

theorem countP_eq_length_filter {n : Nat} (marks : Vector Bool n) :
    marks.countP id = ((List.finRange n).filter marks.get).length := by
  have listed : marks.toList = (List.finRange n).map marks.get := by
    apply List.ext_getElem
    · simp
    · intro i bound _
      simp [get_eq_getElem]
  rw [← Vector.countP_toList, listed, List.countP_map, List.countP_eq_length_filter,
    Function.id_comp]

namespace Closure

variable {m : Model} {c : Closure}

theorem next_memberGraph (m : Model) (c : Closure) (i : Fin c.size) :
    (c.memberGraph m).next i = memberEdges m c (c.get i) :=
  Digraph.next_ofFn (fun i => memberEdges m c (c.get i)) i

/-- An edge to a node is a member whose target is the shape of this node. -/
theorem mem_next_iff (closed : c.Closed m) (i j : Fin c.size) :
    j ∈ (c.memberGraph m).next i ↔ m.MemberStep (c.get i) (c.get j) := by
  rw [next_memberGraph]
  unfold memberEdges
  constructor
  · intro edge
    split at edge
    · next shape found =>
      split at edge
      · obtain ⟨target, listed, index⟩ := List.mem_filterMap.mp edge
        rw [get_of_indexOf? index]
        exact ⟨shape, found, listed⟩
      · cases edge
    · cases edge
  · intro step
    obtain ⟨shape, found, listed⟩ := step
    rw [found]
    simp only [Shape.isData_of_mem_targets listed, ↓reduceIte]
    exact List.mem_filterMap.mpr ⟨c.get j, listed, indexOf?_get closed.nodup j⟩

theorem seed_iff (m : Model) (c : Closure) (i : Fin c.size) :
    (c.memberGraph m).seeds.get i = true ↔ m.IsConstrained (c.get i) := by
  simp only [memberGraph, get_eq_getElem, Vector.getElem_ofFn, Option.any_eq_true,
    Model.IsConstrained, Fin.eta]

/-- Members lead from a closure to the closure only. -/
theorem Closed.step (closed : c.Closed m) {id target : ShapeId} (mem : id ∈ c.ids)
    (step : m.MemberStep id target) : target ∈ c.ids := by
  obtain ⟨shape, found, refs⟩ := closed.refs id mem
  obtain ⟨other, same, listed⟩ := step
  rw [found] at same
  cases same
  exact refs target (ShapeKind.targets_subset_refs shape.kind listed)

theorem Closed.path (closed : c.Closed m) {id target : ShapeId} (mem : id ∈ c.ids)
    (path : m.MemberPath id target) : target ∈ c.ids := by
  induction path with
  | refl => exact mem
  | tail _ step ih => exact closed.step ih step

theorem reachesSeed_iff (closed : c.Closed m) (i : Fin c.size) :
    (c.memberGraph m).ReachesSeed i ↔ m.ReachesConstrained (c.get i) := by
  constructor
  · intro reaches
    refine reaches.closed (P := fun j => m.ReachesConstrained (c.get j)) ?_ ?_
    · intro j seed
      exact ⟨c.get j, Relation.ReflTransGen.refl, (seed_iff m c j).mp seed⟩
    · intro j k edge onward
      exact onward.of_step ((mem_next_iff closed j k).mp edge)
  · rintro ⟨target, path, constrained⟩
    generalize start : c.get i = id at path
    induction path using Relation.ReflTransGen.head_induction_on generalizing i with
    | refl => exact SeededGraph.ReachesSeed.of_seed ((seed_iff m c i).mpr (start ▸ constrained))
    | @head id next step _ ih =>
      subst start
      obtain ⟨j, index⟩ := exists_indexOf? (closed.step (c.get_mem i) step)
      have same : c.get j = next := get_of_indexOf? index
      have edge := (mem_next_iff closed i j).mpr (same ▸ step)
      exact (ih j same).of_reaches (Digraph.Reaches.edge edge)

/-- The groups of shapes that contain themselves through members. -/
def cycles (m : Model) (c : Closure) : List (List ShapeId) :=
  ((c.memberGraph m).components.filter (c.memberGraph m).isCyclic).map (·.map c.get)

end Closure

namespace SeededGraph

/-- Both ways of marking succeed with the same marks. -/
theorem reaching_eq_ok {n : Nat} (g : SeededGraph n) (strategy : Strategy) :
    ∃ marks passes, g.reaching strategy g.components = .ok (marks, passes) ∧
      ∀ v, marks.get v = true ↔ g.ReachesSeed v := by
  cases strategy with
  | condensation => exact ⟨_, 1, rfl, g.get_markComponents⟩
  | fixpoint =>
    obtain ⟨marks, passes, found, right⟩ := g.spread_eq_some
    refine ⟨marks, passes, ?_, right⟩
    simp only [reaching, settle, found]

end SeededGraph

namespace Reachability

variable {m : Model} {c : Closure}

theorem compute_eq_ok (closed : c.Closed m) (strategy : Strategy) :
    ∃ marks passes,
      compute m c strategy = .ok { closure := c, marks, strategy, passes, cycles := c.cycles m } ∧
      ∀ i, marks.get i = true ↔ m.ReachesConstrained (c.get i) := by
  have defined : c.ids.find? (!m.contains ·) = none := by
    rw [List.find?_eq_none]
    intro id mem
    obtain ⟨shape, found, _⟩ := closed.refs id mem
    simp [Model.contains_iff.mpr ⟨shape, found⟩]
  obtain ⟨marks, passes, marked, right⟩ := (c.memberGraph m).reaching_eq_ok strategy
  refine ⟨marks, passes, ?_, fun i => ?_⟩
  · unfold compute
    simp only [defined, marked]
    rfl
  · rw [right, Closure.reachesSeed_iff closed]

section Lookup

variable {r : Reachability}

theorem reaches?_eq_none_iff {id : ShapeId} : r.reaches? id = none ↔ id ∉ r.closure.ids := by
  rw [reaches?, Option.map_eq_none_iff, Closure.indexOf?_eq_none_iff]

theorem reaches?_get (nodup : r.closure.ids.Nodup) (i : Fin r.closure.size) :
    r.reaches? (r.closure.get i) = some (r.marks.get i) := by
  rw [reaches?, Closure.indexOf?_get nodup i, Option.map_some]

/-- The shapes that reach a constrained one keep the order of the closure. -/
theorem reachable_eq_filter (nodup : r.closure.ids.Nodup) :
    r.reachable = r.closure.ids.filter fun id => r.reaches? id = some true := by
  have listed : r.closure.ids = (List.finRange r.closure.size).map r.closure.get :=
    (List.map_get_finRange r.closure.ids).symm
  have same : (fun id => decide (r.reaches? id = some true)) ∘ r.closure.get = r.marks.get := by
    funext i
    simp [reaches?_get nodup]
  rw [listed, List.filter_map, same]
  rfl

theorem reachableCount_eq_length (r : Reachability) : r.reachableCount = r.reachable.length := by
  rw [reachable, List.length_map]
  exact countP_eq_length_filter r.marks

end Lookup

theorem reaches?_of_compute {strategy : Strategy} {r : Reachability} (closed : c.Closed m)
    (computed : compute m c strategy = .ok r) {id : ShapeId} (mem : id ∈ c.ids) :
    r.reaches? id = some true ↔ m.ReachesConstrained id := by
  obtain ⟨marks, passes, result, right⟩ := compute_eq_ok closed strategy
  rw [computed] at result
  cases result
  obtain ⟨i, index⟩ := Closure.exists_indexOf? mem
  rw [reaches?, index, Option.map_some, Option.some.injEq, right, Closure.get_of_indexOf? index]

/-- The analysis of what a defined shape leads to always succeeds. It knows exactly the shapes of
the closure, and tells of each whether the whole model has a path of members from it to a
constrained shape. -/
theorem compute_walk (m : Model) (root : ShapeId) (strategy : Strategy)
    (defined : m.contains root = true) :
    ∃ c r, m.walk root = .ok c ∧ compute m c strategy = .ok r ∧
      (∀ id, r.reaches? id = none ↔ id ∉ c.ids) ∧
      (∀ id ∈ c.ids, r.reaches? id = some true ↔ m.ReachesConstrained id) ∧
      r.reachable = c.ids.filter (fun id => r.reaches? id = some true) ∧
      r.reachable.Nodup ∧ r.reachableCount = r.reachable.length := by
  obtain ⟨c, walked, _, _, closed⟩ := Model.walk_ok (Model.contains_iff.mp defined)
  obtain ⟨marks, passes, computed, _⟩ := compute_eq_ok closed strategy
  have ordered := reachable_eq_filter
    (r := { closure := c, marks, strategy, passes, cycles := c.cycles m }) closed.nodup
  refine ⟨c, _, walked, computed, fun id => reaches?_eq_none_iff,
    fun id mem => reaches?_of_compute closed computed mem, ordered, ?_,
    reachableCount_eq_length _⟩
  rw [ordered]
  exact closed.nodup.filter _

end Reachability

/-- A service over trees that hold forests of trees, and notes that are free of constraints. -/
def Model.forest : Model where
  shapes := Shape.prelude ++ [
    ⟨⟨"test", "Service"⟩, .service [⟨"test", "Grow"⟩] [], []⟩,
    ⟨⟨"test", "Grow"⟩, .operation (some ⟨"test", "Tree"⟩) none [], []⟩,
    ⟨⟨"test", "Tree"⟩, .struct [⟨"children", ⟨"test", "Forest"⟩, []⟩,
      ⟨"label", .prelude "String", [.required]⟩, ⟨"notes", ⟨"test", "Notes"⟩, []⟩], []⟩,
    .ofList ⟨"test", "Forest"⟩ ⟨"test", "Tree"⟩,
    .ofMap ⟨"test", "Notes"⟩ (.prelude "String") ⟨"test", "Lines"⟩,
    .ofList ⟨"test", "Lines"⟩ (.prelude "String")]
  prelude_first := List.prefix_append _ _
  nodup := by decide +kernel
  closed := by decide +kernel
  unnested := by cbv

namespace Reachability

theorem compute_walk_forest :
    Model.forest.contains ⟨"test", "Tree"⟩ = true ∧
      ∃ c r, Model.forest.walk ⟨"test", "Tree"⟩ = .ok c ∧
        compute Model.forest c .fixpoint = .ok r ∧
        (∀ id, r.reaches? id = none ↔ id ∉ c.ids) ∧
        (∀ id ∈ c.ids, r.reaches? id = some true ↔ Model.forest.ReachesConstrained id) ∧
        r.reachable = c.ids.filter (fun id => r.reaches? id = some true) ∧
        r.reachable.Nodup ∧ r.reachableCount = r.reachable.length :=
  have defined : Model.forest.contains ⟨"test", "Tree"⟩ = true := by decide +kernel
  ⟨defined, compute_walk Model.forest ⟨"test", "Tree"⟩ .fixpoint defined⟩

end Reachability

end ServerSymbols
