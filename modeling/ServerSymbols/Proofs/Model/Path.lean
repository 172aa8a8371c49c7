import ServerSymbols.Model.Closure
import Mathlib.Logic.Relation
import Mathlib.Data.List.Nodup

set_option autoImplicit false

/-
Looking shapes up in a model, and the paths that lead through the members of its shapes.
-/
namespace ServerSymbols

theorem ShapeKind.targets_subset_refs (kind : ShapeKind) : kind.targets ⊆ kind.refs := by
  cases kind <;> simp [ShapeKind.refs, ShapeKind.targets, ShapeKind.members]

/-- Only data shapes have members. -/
theorem Shape.isData_of_mem_targets {shape : Shape} {target : ShapeId}
    (mem : target ∈ shape.targets) : shape.isData = true := by
  unfold Shape.isData Shape.type
  unfold Shape.targets at mem
  cases h : shape.kind <;>
    simp_all [ShapeKind.targets, ShapeKind.members, ShapeKind.type, ShapeType.isData]

theorem Shape.isData_of_isConstrained {shape : Shape} (constrained : shape.isConstrained = true) :
    shape.isData = true := by
  unfold isConstrained at constrained
  rw [Bool.and_eq_true] at constrained
  exact constrained.1

namespace Model

variable {m : Model} {id : ShapeId} {shape : Shape}

theorem mem_of_get? (found : m.get? id = some shape) : shape ∈ m.shapes :=
  List.mem_of_find?_eq_some found

theorem id_of_get? (found : m.get? id = some shape) : shape.id = id := by
  simpa using List.find?_some found

theorem get?_of_mem (mem : shape ∈ m.shapes) : m.get? shape.id = some shape := by
  unfold get?
  cases found : m.shapes.find? (·.id == shape.id) with
  | none => exact absurd (List.find?_eq_none.mp found shape mem) (by simp)
  | some other =>
    have same : other.id = shape.id := by simpa using List.find?_some found
    have listed := List.mem_of_find?_eq_some found
    rw [List.inj_on_of_nodup_map m.nodup listed mem same]

theorem exists_get?_iff : (∃ shape, m.get? id = some shape) ↔ id ∈ Shape.ids m.shapes := by
  rw [Shape.ids, List.mem_map]
  constructor
  · rintro ⟨shape, found⟩
    exact ⟨shape, mem_of_get? found, id_of_get? found⟩
  · rintro ⟨shape, mem, rfl⟩
    exact ⟨shape, get?_of_mem mem⟩

theorem contains_iff : m.contains id = true ↔ ∃ shape, m.get? id = some shape :=
  Option.isSome_iff_exists

/-- Every reference leads to a shape of the model. -/
theorem exists_get?_of_ref {ref : ShapeId} (found : m.get? id = some shape)
    (mem : ref ∈ shape.refs) : ∃ target, m.get? ref = some target :=
  exists_get?_iff.mpr (m.closed shape (mem_of_get? found) ref mem)

/-- A member of the shape `id` has this target. -/
def MemberStep (m : Model) (id target : ShapeId) : Prop :=
  ∃ shape, m.get? id = some shape ∧ target ∈ shape.targets

/-- A path of zero or more members. -/
def MemberPath (m : Model) : ShapeId → ShapeId → Prop :=
  Relation.ReflTransGen m.MemberStep

/-- The shape is directly constrained. -/
def IsConstrained (m : Model) (id : ShapeId) : Prop :=
  ∃ shape, m.get? id = some shape ∧ shape.isConstrained = true

/-- Some path of members of the whole model leads from the shape to a constrained one. -/
def ReachesConstrained (m : Model) (id : ShapeId) : Prop :=
  ∃ target, m.MemberPath id target ∧ m.IsConstrained target

theorem ReachesConstrained.of_step {target : ShapeId} (step : m.MemberStep id target)
    (onward : m.ReachesConstrained target) : m.ReachesConstrained id := by
  obtain ⟨last, path, constrained⟩ := onward
  exact ⟨last, Relation.ReflTransGen.head step path, constrained⟩

/-- If members lead out of none of these shapes, and none of them is constrained, then none of them
reaches a constrained shape. -/
theorem not_reachesConstrained (ids : List ShapeId)
    (free : ∀ id ∈ ids, ∀ shape ∈ m.get? id,
      shape.isConstrained = false ∧ ∀ target ∈ shape.targets, target ∈ ids)
    (mem : id ∈ ids) : ¬ m.ReachesConstrained id := by
  intro reaches
  obtain ⟨last, path, shape, found, constrained⟩ := reaches
  have within : last ∈ ids := by
    clear found constrained
    induction path with
    | refl => exact mem
    | tail _ step ih =>
      obtain ⟨source, look, listed⟩ := step
      exact (free _ ih source look).2 _ listed
  have unconstrained := (free last within shape found).1
  rw [constrained] at unconstrained
  cases unconstrained

end Model

end ServerSymbols
