import Mathlib
import ServerSymbols.Proofs.Model.Build

set_option autoImplicit false

/-
What the error shows if collections contain themselves: a cycle of them that is really there.
-/
namespace ServerSymbols

namespace Shape

/-- Collections of which each has a member with the next as its target. The last is the first again,
and no other stands there twice. -/
structure NestingCycle (added cycle : List Shape) : Prop where
  two_le : 2 ≤ cycle.length
  closed : cycle.head? = cycle.getLast?
  nodup : (ids cycle).dropLast.Nodup
  collections : ∀ shape ∈ cycle, shape ∈ added ∧ shape.isCollection = true
  members : cycle.IsChain fun shape next => ∃ member ∈ shape.members, member.target = next.id

variable {added shapes : List Shape}

theorem not_mem_prelude {shape : Shape} (collection : shape.isCollection = true) :
    shape ∉ prelude := by
  intro mem
  obtain ⟨kind, _, rfl⟩ := List.mem_map.mp mem
  cases collection

theorem injective_id_get (nodup : (ids shapes).Nodup) :
    Function.Injective fun i => (shapes.get i).id := by
  intro i j same
  have found := indexOf?_get nodup i
  dsimp only at same
  rw [same, indexOf?_get nodup j] at found
  exact (Option.some.inj found).symm

/-- A cycle of the graph of collections, as shapes. -/
theorem nestingCycle_of_isCycle (distinct : Distinct added)
    {nodes : List (Fin (prelude ++ added).length)}
    (isCycle : (collectionGraph (prelude ++ added)).IsCycle nodes) :
    NestingCycle added (nodes.map (prelude ++ added).get) := by
  have unique := distinct_iff.mp distinct
  constructor
  case two_le =>
    obtain ⟨start, inner, rfl⟩ := isCycle.closed
    simp
  case closed =>
    obtain ⟨start, inner, rfl⟩ := isCycle.closed
    rw [List.head?_map, List.getLast?_map, List.getLast?_concat]
    rfl
  case nodup =>
    rw [ids, List.map_map, ← List.map_dropLast]
    exact isCycle.nodup.map (injective_id_get unique)
  case collections =>
    intro shape mem
    obtain ⟨i, listed, rfl⟩ := List.mem_map.mp mem
    obtain ⟨j, edge⟩ := isCycle.exists_edge listed
    obtain ⟨known, collection⟩ := ((edge_collectionGraph_iff unique i j).mp edge).1
    exact ⟨(List.mem_append.mp known).resolve_left (not_mem_prelude collection), collection⟩
  case members =>
    rw [List.isChain_map]
    refine isCycle.chain.imp fun i j edge => ?_
    obtain ⟨_, _, target⟩ := (edge_collectionGraph_iff unique i j).mp edge
    exact List.mem_map.mp target

end Shape

namespace Model

variable {added : List Shape}

/-- The error of nested collections comes last, and shows the cycle that the search has found. -/
theorem build_eq_invalidRecursion {cycle : List ShapeId} :
    build added = .error (.invalidRecursion cycle) ↔
      firstRepeated? [] (Shape.ids (Shape.prelude ++ added)) = none ∧
        Shape.danglingRef? (Shape.prelude ++ added) = none ∧
        ∃ nodes, (Shape.collectionGraph (Shape.prelude ++ added)).cycle? = some nodes ∧
          Shape.ids (nodes.map (Shape.prelude ++ added).get) = cycle := by
  rcases build_cases added with ⟨id, repeated, failed⟩ | ⟨unrepeated, rest⟩
  · simp [failed, repeated]
  rcases rest with ⟨source, target, dangling, failed⟩ | ⟨closed, rest⟩
  · simp [failed, dangling]
  rcases rest with ⟨nodes, found, failed⟩ | ⟨unnested, m, built, _⟩
  · simp [failed, unrepeated, closed, found]
  · simp [built, unnested]

/-- If shapes make no model because collections contain themselves, the error shows the ids of a
cycle of such collections. -/
theorem build_invalidRecursion (added : List Shape) (cycle : List ShapeId)
    (failed : build added = .error (.invalidRecursion cycle)) :
    ∃ shapes, Shape.ids shapes = cycle ∧ Shape.NestingCycle added shapes := by
  obtain ⟨unrepeated, _, nodes, found, same⟩ := build_eq_invalidRecursion.mp failed
  have distinct := Shape.distinct_iff.mpr (firstRepeated?_eq_none_iff.mp unrepeated).1
  exact ⟨_, same, Shape.nestingCycle_of_isCycle distinct (Digraph.isCycle_of_cycle? found)⟩

/-- A shelf of boxes whose lids, the keys of a box, are sets of boxes again. -/
def boxes : List Shape := [
  .ofList ⟨"test", "Shelf"⟩ ⟨"test", "Box"⟩,
  .ofMap ⟨"test", "Box"⟩ ⟨"test", "Lid"⟩ (.prelude "String"),
  .ofSet ⟨"test", "Lid"⟩ ⟨"test", "Box"⟩]

theorem build_invalidRecursion_boxes :
    build boxes =
        .error (.invalidRecursion [⟨"test", "Box"⟩, ⟨"test", "Lid"⟩, ⟨"test", "Box"⟩]) ∧
      ∃ shapes, Shape.ids shapes = [⟨"test", "Box"⟩, ⟨"test", "Lid"⟩, ⟨"test", "Box"⟩] ∧
        Shape.NestingCycle boxes shapes := by
  have found : (Shape.collectionGraph (Shape.prelude ++ boxes)).cycle? =
      some [⟨14, by decide⟩, ⟨15, by decide⟩, ⟨14, by decide⟩] := by cbv
  have failed := build_eq_invalidRecursion.mpr
    ⟨by decide +kernel, by decide +kernel, _, found, rfl⟩
  exact ⟨failed, build_invalidRecursion boxes _ failed⟩

end Model

end ServerSymbols
