import ServerSymbols.Proofs.Model.Build
import ServerSymbols.Proofs.Model.Bare

set_option autoImplicit false

/-
One constraint more, on a shape or on one of its members. What refers to what stays as it is, so the
shapes make a model still. All that is new is that the shape is constrained, if it is a data shape.
-/
namespace ServerSymbols

/-! ### The edit -/

/-- The one list is the other with a constraint more, at any place. -/
def Constraint.OneMore (constraints more : List Constraint) : Prop :=
  ∃ before added after, constraints = before ++ after ∧ more = before ++ added :: after

structure Member.Gains (m m' : Member) : Prop where
  name : m'.name = m.name
  target : m'.target = m.target
  constraints : Constraint.OneMore m.constraints m'.constraints

/-- One of the members has a constraint more. -/
inductive ShapeKind.Gains : ShapeKind → ShapeKind → Prop where
  | struct {m m' : Member} (before after : List Member) (gains : m.Gains m') :
    Gains (.struct (before ++ m :: after)) (.struct (before ++ m' :: after))
  | union {m m' : Member} (before after : List Member) (gains : m.Gains m') :
    Gains (.union (before ++ m :: after)) (.union (before ++ m' :: after))
  | list {m m' : Member} (gains : m.Gains m') : Gains (.list m) (.list m')
  | set {m m' : Member} (gains : m.Gains m') : Gains (.set m) (.set m')
  | key {m m' value : Member} (gains : m.Gains m') : Gains (.map m value) (.map m' value)
  | value {m m' key : Member} (gains : m.Gains m') : Gains (.map key m) (.map key m')

/-- The shape itself or one of its members has a constraint more. -/
inductive Shape.Gains (s : Shape) : Shape → Prop where
  | own {constraints : List Constraint} (more : Constraint.OneMore s.constraints constraints) :
    Gains s { s with constraints }
  | member {kind : ShapeKind} (gains : s.kind.Gains kind) : Gains s { s with kind }

theorem Constraint.OneMore.isEmpty {constraints more : List Constraint}
    (gains : OneMore constraints more) : more.isEmpty = false := by
  obtain ⟨before, added, after, _, rfl⟩ := gains
  simp

namespace Member.Gains

variable {m m' : Member}

theorem bare_eq (gains : m.Gains m') : m'.bare = m.bare := by
  unfold Member.bare
  rw [gains.name, gains.target]

theorem isConstrained (gains : m.Gains m') : m'.isConstrained = true := by
  rw [Member.isConstrained, gains.constraints.isEmpty]
  rfl

end Member.Gains

namespace ShapeKind.Gains

variable {kind kind' : ShapeKind}

theorem bare_eq (gains : kind.Gains kind') : kind'.bare = kind.bare := by
  cases gains with
  | struct before after gains | union before after gains =>
    simp only [bare, List.map_append, List.map_cons, gains.bare_eq]
  | list gains | set gains | key gains | value gains => simp only [bare, gains.bare_eq]

theorem isData (gains : kind.Gains kind') : kind.type.isData = true := by
  cases gains <;> rfl

theorem any_isConstrained (gains : kind.Gains kind') :
    kind'.members.any Member.isConstrained = true := by
  cases gains with
  | struct before after gains | union before after gains | list gains | set gains | key gains
  | value gains => simp [members, gains.isConstrained]

end ShapeKind.Gains

namespace Shape

variable {s s' : Shape}

theorem Gains.bare_eq (gains : s.Gains s') : s'.bare = s.bare := by
  cases gains with
  | own more => rfl
  | member gains => rw [bare, gains.bare_eq, bare]

/-- Constraints of operations, resources and services do not count. -/
theorem Gains.isConstrained (gains : s.Gains s') : s'.isConstrained = s.isData := by
  have data : s'.isData = s.isData := isData_of_bare gains.bare_eq
  rw [Shape.isConstrained, data]
  cases gains with
  | own more => simp [more.isEmpty]
  | member gains =>
    have listed := gains.any_isConstrained
    simp [Shape.members, listed]

theorem gains_addConstraint (constraint : Constraint) (s : Shape) :
    s.Gains (s.addConstraint constraint) :=
  .own ⟨s.constraints, constraint, [], (List.append_nil _).symm, rfl⟩

/-! ### Shapes alike but for constraints -/

section Bare

variable {added other : List Shape} (same : added.map bare = other.map bare)
include same

theorem ids_of_bare : ids added = ids other := by
  have listed (shapes : List Shape) : (shapes.map bare).map Shape.id = ids shapes := by
    rw [List.map_map]
    rfl
  rw [← listed added, same, listed other]

theorem exists_of_bare {shape : Shape} (mem : shape ∈ other) :
    ∃ s ∈ added, s.bare = shape.bare := by
  have listed : shape.bare ∈ added.map bare := same ▸ List.mem_map_of_mem mem
  exact List.mem_map.mp listed

theorem prelude_of_bare : (prelude ++ added).map bare = (prelude ++ other).map bare := by
  rw [List.map_append, same, List.map_append]

theorem distinct_of_bare (distinct : Distinct added) : Distinct other := by
  unfold Distinct
  rw [← ids_of_bare same]
  exact distinct

theorem complete_of_bare (complete : Complete added) : Complete other := by
  intro shape mem ref listed
  obtain ⟨s, known, alike⟩ := exists_of_bare same mem
  rw [← ids_of_bare (prelude_of_bare same)]
  exact complete s known ref (refs_of_bare alike ▸ listed)

/-- Shapes that differ in constraints only nest shapes that differ in constraints only. -/
theorem nests_of_bare {outer inner outer' : Shape} (nests : Nests other outer inner)
    (mem : outer' ∈ added) (alike : outer'.bare = outer.bare) :
    ∃ inner' ∈ added, inner'.bare = inner.bare ∧ Nests added outer' inner' := by
  obtain ⟨⟨_, outside⟩, ⟨listed, inside⟩, target⟩ := nests
  obtain ⟨inner', mem', alike'⟩ := exists_of_bare same listed
  refine ⟨inner', mem', alike', ⟨mem, ?_⟩, ⟨mem', ?_⟩, ?_⟩
  · rwa [isCollection_of_bare alike]
  · rwa [isCollection_of_bare alike']
  · rwa [id_of_bare alike', targets_of_bare alike]

theorem exists_nested_of_bare {outer inner outer' : Shape}
    (nested : Relation.TransGen (Nests other) outer inner) (mem : outer' ∈ added)
    (alike : outer'.bare = outer.bare) :
    ∃ inner' ∈ added, inner'.bare = inner.bare ∧ Relation.TransGen (Nests added) outer' inner' := by
  induction nested with
  | single nests =>
    obtain ⟨inner', mem', alike', nests'⟩ := nests_of_bare same nests mem alike
    exact ⟨inner', mem', alike', Relation.TransGen.single nests'⟩
  | tail _ nests ih =>
    obtain ⟨between, known, alike', path⟩ := ih
    obtain ⟨inner', mem', alike'', nests'⟩ := nests_of_bare same nests known alike'
    exact ⟨inner', mem', alike'', path.tail nests'⟩

/-- The path that corresponds to a circle ends where it starts, as no two shapes share an id. -/
theorem circular_of_bare (distinct : Distinct added) (circular : Circular other) :
    Circular added := by
  obtain ⟨shape, loop⟩ := circular
  have alike := prelude_of_bare same
  obtain ⟨_, nests, _⟩ := Relation.TransGen.head'_iff.mp loop
  obtain ⟨first, known, same_first⟩ := exists_of_bare alike nests.1.1
  obtain ⟨last, known', same_last, path⟩ := exists_nested_of_bare alike loop known same_first
  have equal : first = last := by
    apply List.inj_on_of_nodup_map (distinct_iff.mp distinct) known known'
    exact id_of_bare (same_first.trans same_last.symm)
  exact ⟨first, equal ▸ path⟩

end Bare

end Shape

namespace Model

variable {m n : Model} {id : ShapeId} {added other : List Shape}

/-- Constraints do not matter for whether shapes make a model. -/
theorem build_of_bare (same : added.map Shape.bare = other.map Shape.bare)
    (built : build added = .ok m) : ∃ n, build other = .ok n := by
  obtain ⟨distinct, complete, acyclic⟩ := (build_ok_iff added).mp ⟨m, built⟩
  apply (build_ok_iff other).mpr
  refine ⟨Shape.distinct_of_bare same distinct, Shape.complete_of_bare same complete, ?_⟩
  exact fun circular => acyclic (Shape.circular_of_bare same distinct circular)

theorem alike_of_bare (same : n.shapes.map Shape.bare = m.shapes.map Shape.bare) (id : ShapeId) :
    m.Alike n id := by
  have look (k : Model) :
      (k.get? id).map Shape.bare = (k.shapes.map Shape.bare).find? (·.id == id) := by
    rw [List.find?_map]
    rfl
  rw [Alike, look, look, same]

theorem isConstrained_iff :
    m.IsConstrained id ↔ ∃ shape ∈ m.shapes, shape.id = id ∧ shape.isConstrained = true := by
  constructor
  · rintro ⟨shape, found, constrained⟩
    exact ⟨shape, mem_of_get? found, id_of_get? found, constrained⟩
  · rintro ⟨shape, mem, rfl, constrained⟩
    exact ⟨shape, get?_of_mem mem, constrained⟩

/-! ### The model with the edit -/

/-- The models differ in constraints only, and of what is constrained only in this shape. -/
structure Gains (m n : Model) (s : Shape) : Prop where
  alike : ∀ id, m.Alike n id
  constrained : ∀ id, n.IsConstrained id ↔ m.IsConstrained id ∨ s.isData = true ∧ id = s.id

variable {s s' : Shape}

theorem exists_gains {before after : List Shape} (gains : s.Gains s')
    (built : build (before ++ s :: after) = .ok m) :
    ∃ n, build (before ++ s' :: after) = .ok n ∧ m.Gains n s := by
  have same : (before ++ s :: after).map Shape.bare = (before ++ s' :: after).map Shape.bare := by
    simp only [List.map_append, List.map_cons, gains.bare_eq]
  obtain ⟨n, built'⟩ := build_of_bare same built
  have shapes := shapes_of_build built
  have shapes' := shapes_of_build built'
  refine ⟨n, built', ?_, ?_⟩
  · apply alike_of_bare
    rw [shapes, shapes']
    exact (Shape.prelude_of_bare same).symm
  · intro id
    have ids : s'.id = s.id := Shape.id_of_bare gains.bare_eq
    have data : s.isConstrained = true → s.isData = true := Shape.isData_of_isConstrained
    rw [isConstrained_iff, isConstrained_iff, shapes, shapes']
    simp only [List.mem_append, List.mem_cons, or_and_right, exists_or, exists_eq_left, ids,
      gains.isConstrained]
    grind

theorem Gains.memberStep (gains : m.Gains n s) : n.MemberStep = m.MemberStep := by
  funext id target
  exact propext (gains.alike id).memberStep_iff

/-- The shapes with a path of members to the shape join those that reach a constrained one. -/
theorem Gains.reachesConstrained_iff (gains : m.Gains n s) :
    n.ReachesConstrained id ↔
      m.ReachesConstrained id ∨ s.isData = true ∧ m.MemberPath id s.id := by
  have paths : n.MemberPath = m.MemberPath := congrArg Relation.ReflTransGen gains.memberStep
  unfold ReachesConstrained
  simp only [paths, gains.constrained, and_or_left, exists_or]
  constructor
  · rintro (reached | ⟨target, path, data, rfl⟩)
    · exact Or.inl reached
    · exact Or.inr ⟨data, path⟩
  · rintro (reached | ⟨data, path⟩)
    · exact Or.inl reached
    · exact Or.inr ⟨s.id, path, data, rfl⟩

end Model

end ServerSymbols
