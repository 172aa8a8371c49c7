import ServerSymbols.Proofs.Model.Path
import ServerSymbols.Proofs.Digraph.Cycle
import Mathlib.Data.List.Chain
import Mathlib.Data.List.Perm.Subperm
import Mathlib.Order.RelClasses

set_option autoImplicit false

/-
Collections that hold collections. A model has no cycle of them, so a chain of collections is no
longer than their number.
-/
namespace ServerSymbols

theorem Shape.collection_of_sequence {shape : Shape} {member : Member}
    (kind : shape.kind = .list member ∨ shape.kind = .set member) :
    shape.isCollection = true ∧ shape.targets = [member.target] := by
  unfold isCollection type targets
  rcases kind with kind | kind <;> rw [kind] <;> exact ⟨rfl, rfl⟩

theorem Shape.collection_of_map {shape : Shape} {key value : Member}
    (kind : shape.kind = .map key value) :
    shape.isCollection = true ∧ shape.targets = [key.target, value.target] := by
  unfold isCollection type targets
  rw [kind]
  exact ⟨rfl, rfl⟩

theorem Shape.kind_of_collection {shape : Shape} (collection : shape.isCollection = true) :
    (∃ member, shape.kind = .list member ∨ shape.kind = .set member) ∨
      ∃ key value, shape.kind = .map key value := by
  unfold isCollection type at collection
  cases kind : shape.kind with
  | list member => exact Or.inl ⟨member, Or.inl rfl⟩
  | set member => exact Or.inl ⟨member, Or.inr rfl⟩
  | map key value => exact Or.inr ⟨key, value, rfl⟩
  | _ =>
    rw [kind] at collection
    cases collection

theorem Shape.exists_indexOf? {shapes : List Shape} {id : ShapeId} (mem : id ∈ ids shapes) :
    ∃ i, indexOf? shapes id = some i ∧ (shapes.get i).id = id := by
  cases found : indexOf? shapes id with
  | none =>
    obtain ⟨shape, listed, same⟩ := List.mem_map.mp mem
    have differs := List.findFinIdx?_eq_none_iff.mp found shape listed
    simp [same] at differs
  | some i =>
    have same := (List.findFinIdx?_eq_some_iff.mp found).1
    exact ⟨i, rfl, by simpa using same⟩

namespace Shape

variable {shapes : List Shape}

theorem indexOf?_get (nodup : (ids shapes).Nodup) (i : Fin shapes.length) :
    indexOf? shapes (shapes.get i).id = some i := by
  have listed : (shapes.get i).id ∈ ids shapes := List.mem_map_of_mem (List.get_mem shapes i)
  obtain ⟨j, found, same⟩ := exists_indexOf? listed
  have equal : shapes.get j = shapes.get i :=
    List.inj_on_of_nodup_map nodup (List.get_mem shapes j) (List.get_mem shapes i) same
  rw [found, List.nodup_iff_injective_get.mp (List.Nodup.of_map _ nodup) equal]

/-- A member of the one collection has the other as its target. -/
def Nests (shapes : List Shape) (outer inner : Shape) : Prop :=
  (outer ∈ shapes ∧ outer.isCollection = true) ∧ (inner ∈ shapes ∧ inner.isCollection = true) ∧
    inner.id ∈ outer.targets

theorem next_collectionGraph (shapes : List Shape) (i : Fin shapes.length) :
    (collectionGraph shapes).next i =
      if (shapes.get i).isCollection then
        ((shapes.get i).targets.filterMap (indexOf? shapes)).filter
          fun j => (shapes.get j).isCollection
      else [] :=
  Digraph.next_ofFn _ i

/-- The graph of collections has an edge where one of them nests another. -/
theorem edge_collectionGraph_iff (nodup : (ids shapes).Nodup) (i j : Fin shapes.length) :
    (collectionGraph shapes).Edge i j ↔ Nests shapes (shapes.get i) (shapes.get j) := by
  unfold Digraph.Edge
  rw [next_collectionGraph]
  constructor
  · intro edge
    by_cases outer : (shapes.get i).isCollection = true
    · rw [if_pos outer] at edge
      obtain ⟨mem, inner⟩ := List.mem_filter.mp edge
      obtain ⟨target, isTarget, index⟩ := List.mem_filterMap.mp mem
      have same : (shapes.get j).id = target := by
        simpa using (List.findFinIdx?_eq_some_iff.mp index).1
      exact ⟨⟨List.get_mem shapes i, outer⟩, ⟨List.get_mem shapes j, inner⟩, same ▸ isTarget⟩
    · rw [if_neg outer] at edge
      cases edge
  · rintro ⟨⟨_, outer⟩, ⟨_, inner⟩, isTarget⟩
    rw [if_pos outer]
    have index := indexOf?_get nodup j
    exact List.mem_filter.mpr ⟨List.mem_filterMap.mpr ⟨_, isTarget, index⟩, inner⟩

end Shape

namespace Model

variable {m : Model} {id target : ShapeId}

/-- The collection `id` has a member with this target. -/
def Holds (m : Model) (id target : ShapeId) : Prop :=
  ∃ shape, m.get? id = some shape ∧ shape.isCollection = true ∧ target ∈ shape.targets

theorem Holds.step (holds : m.Holds id target) : m.MemberStep id target := by
  obtain ⟨shape, found, _, listed⟩ := holds
  exact ⟨shape, found, listed⟩

theorem holds_of_sequence {shape : Shape} {member : Member} (found : m.get? id = some shape)
    (kind : shape.kind = .list member ∨ shape.kind = .set member) : m.Holds id member.target := by
  obtain ⟨collection, targets⟩ := Shape.collection_of_sequence kind
  exact ⟨shape, found, collection, by simp [targets]⟩

theorem holds_of_map {shape : Shape} {key value : Member} (found : m.get? id = some shape)
    (kind : shape.kind = .map key value) : m.Holds id key.target ∧ m.Holds id value.target := by
  obtain ⟨collection, targets⟩ := Shape.collection_of_map kind
  exact ⟨⟨shape, found, collection, by simp [targets]⟩,
    ⟨shape, found, collection, by simp [targets]⟩⟩

/-- What a collection holds is a shape of the model. -/
theorem Holds.exists_index (holds : m.Holds id target) :
    ∃ j : Fin m.shapes.length, m.shapes[j].id = target := by
  obtain ⟨shape, found, _, listed⟩ := holds
  have ref : target ∈ shape.refs := ShapeKind.targets_subset_refs _ listed
  obtain ⟨j, _, same⟩ := Shape.exists_indexOf? (m.closed shape (mem_of_get? found) target ref)
  exact ⟨j, same⟩

theorem get?_getElem (m : Model) (i : Fin m.shapes.length) :
    m.get? m.shapes[i].id = some m.shapes[i] :=
  get?_of_mem (List.getElem_mem i.isLt)

theorem acc_holds (m : Model) (i : Fin m.shapes.length) :
    Acc (fun target id => m.Holds id target) m.shapes[i].id := by
  have grounded := Digraph.grounded_of_cycle?_eq_none m.unnested i
  induction grounded with
  | intro i _ ih =>
    refine Acc.intro _ fun target holds => ?_
    obtain ⟨j, same⟩ := holds.exists_index
    by_cases nested : m.shapes[j].isCollection = true
    · obtain ⟨shape, found, collection, listed⟩ := holds
      rw [m.get?_getElem i] at found
      cases found
      have edge : (Shape.collectionGraph m.shapes).Edge i j := by
        apply (Shape.edge_collectionGraph_iff m.nodup i j).mpr
        exact ⟨⟨List.get_mem _ i, collection⟩, ⟨List.get_mem _ j, nested⟩, same ▸ listed⟩
      exact same ▸ ih j edge
    · refine Acc.intro _ fun other onward => ?_
      obtain ⟨shape, found, collection, _⟩ := onward
      rw [← same, m.get?_getElem j] at found
      cases found
      exact absurd collection nested

/-- Collections stand inside one another to a finite depth only. -/
theorem holds_wellFounded (m : Model) : WellFounded fun target id => m.Holds id target := by
  refine ⟨fun id => Acc.intro id fun target holds => ?_⟩
  obtain ⟨j, same⟩ := holds.exists_index
  exact same ▸ m.acc_holds j

theorem holds_irrefl (m : Model) (id : ShapeId) : ¬ Relation.TransGen m.Holds id id := by
  intro loop
  have swapped := Relation.transGen_swap.mpr loop
  exact m.holds_wellFounded.transGen.asymmetric id id swapped swapped

/-- How many collections the model has. -/
def collectionCount (m : Model) : Nat :=
  m.shapes.countP (·.isCollection)

section Chain

variable {chain : List ShapeId}

theorem isChain_concat (holds : (chain ++ [id]).IsChain m.Holds) (next : m.Holds id target) :
    (chain ++ [id] ++ [target]).IsChain m.Holds :=
  holds.append (List.isChain_singleton target) (by simpa using next)

/-- Where each shape holds the next, no shape comes again. -/
theorem nodup_of_isChain (holds : chain.IsChain m.Holds) : chain.Nodup := by
  have paths : chain.IsChain (Relation.TransGen m.Holds) :=
    holds.imp fun _ _ => Relation.TransGen.single
  refine (List.isChain_iff_pairwise.mp paths).imp fun path => ?_
  rintro rfl
  exact m.holds_irrefl _ path

/-- All but the last are collections. -/
theorem length_le_of_isChain (holds : chain.IsChain m.Holds) :
    chain.length ≤ m.collectionCount + 1 := by
  have listed : chain.dropLast ⊆ Shape.ids (m.shapes.filter (·.isCollection)) := by
    intro id mem
    obtain ⟨target, shape, found, collection, _⟩ := exists_rel_of_mem_dropLast holds mem
    rw [← id_of_get? found]
    exact List.mem_map_of_mem (List.mem_filter.mpr ⟨mem_of_get? found, collection⟩)
  have nodup : chain.dropLast.Nodup := (nodup_of_isChain holds).sublist (List.dropLast_sublist _)
  have bound := (nodup.subperm listed).length_le
  rw [Shape.ids, List.length_map, ← List.countP_eq_length_filter, List.length_dropLast] at bound
  unfold collectionCount
  omega

end Chain

end Model

end ServerSymbols
