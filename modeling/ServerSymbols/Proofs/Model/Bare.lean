import ServerSymbols.Proofs.Model.Preorder

set_option autoImplicit false

/-
Shapes without their constraints. What refers to what does not depend on constraints, and a walk
depends on nothing but the references of the shapes that it finds: two models that define these
shapes alike lead to the same shapes in the same order, whatever else they define.
-/
namespace ServerSymbols

def Member.bare (m : Member) : Member :=
  { m with constraints := [] }

namespace ShapeKind

/-- The kind with members that carry no constraints. -/
def bare : ShapeKind → ShapeKind
  | struct members => struct (members.map Member.bare)
  | union members => union (members.map Member.bare)
  | list member => list member.bare
  | set member => set member.bare
  | map key value => map key.bare value.bare
  | kind => kind

@[simp] theorem type_bare (kind : ShapeKind) : kind.bare.type = kind.type := by
  cases kind <;> rfl

@[simp] theorem targets_bare (kind : ShapeKind) : kind.bare.targets = kind.targets := by
  cases kind <;> simp [bare, targets, members, Member.bare, Function.comp_def]

@[simp] theorem refs_bare (kind : ShapeKind) : kind.bare.refs = kind.refs := by
  cases kind with
  | operation | resource | service => rfl
  | _ => exact targets_bare _

end ShapeKind

namespace Shape

/-- The shape without its constraints and those of its members. -/
def bare (s : Shape) : Shape :=
  ⟨s.id, s.kind.bare, []⟩

variable {s t : Shape}

theorem id_of_bare (same : s.bare = t.bare) : s.id = t.id := by
  have ids := congrArg Shape.id same
  exact ids

theorem type_of_bare (same : s.bare = t.bare) : s.type = t.type := by
  have types := congrArg Shape.type same
  simpa only [type, bare, ShapeKind.type_bare] using types

theorem targets_of_bare (same : s.bare = t.bare) : s.targets = t.targets := by
  have targets := congrArg Shape.targets same
  simpa only [Shape.targets, bare, ShapeKind.targets_bare] using targets

theorem refs_of_bare (same : s.bare = t.bare) : s.refs = t.refs := by
  have refs := congrArg Shape.refs same
  simpa only [Shape.refs, bare, ShapeKind.refs_bare] using refs

theorem isData_of_bare (same : s.bare = t.bare) : s.isData = t.isData := by
  rw [isData, isData, type_of_bare same]

theorem isCollection_of_bare (same : s.bare = t.bare) : s.isCollection = t.isCollection := by
  rw [isCollection, isCollection, type_of_bare same]

end Shape

namespace Model

variable {m n : Model} {id target : ShapeId} {shape : Shape} {stack visited ids : List ShapeId}

/-- Both models define the shape, alike but for constraints, or neither of them defines it. -/
def Alike (m n : Model) (id : ShapeId) : Prop :=
  (m.get? id).map Shape.bare = (n.get? id).map Shape.bare

theorem Alike.refl (m : Model) (id : ShapeId) : m.Alike m id := rfl

theorem Alike.symm (alike : m.Alike n id) : n.Alike m id := Eq.symm alike

theorem Alike.of_eq (same : n.get? id = m.get? id) : m.Alike n id := by
  rw [Alike, same]

theorem Alike.exists_get? (alike : m.Alike n id) (found : m.get? id = some shape) :
    ∃ other, n.get? id = some other ∧ other.bare = shape.bare := by
  unfold Alike at alike
  rw [found, Option.map_some] at alike
  exact Option.map_eq_some_iff.mp alike.symm

theorem Alike.get?_eq_none (alike : m.Alike n id) (missing : m.get? id = none) :
    n.get? id = none := by
  unfold Alike at alike
  rw [missing, Option.map_none] at alike
  exact Option.map_eq_none_iff.mp alike.symm

theorem Alike.memberStep (alike : m.Alike n id) (step : m.MemberStep id target) :
    n.MemberStep id target := by
  obtain ⟨shape, found, listed⟩ := step
  obtain ⟨other, look, same⟩ := alike.exists_get? found
  exact ⟨other, look, Shape.targets_of_bare same ▸ listed⟩

theorem Alike.memberStep_iff (alike : m.Alike n id) :
    n.MemberStep id target ↔ m.MemberStep id target :=
  ⟨alike.symm.memberStep, alike.memberStep⟩

/-! ### Walks -/

/-- A walk finds all that it was given to visit. -/
theorem subset_of_walkFrom (walked : m.walkFrom stack visited = .ok ids) :
    visited ⊆ ids ∧ stack ⊆ ids := by
  fun_induction walkFrom m stack visited with
  | case1 visited =>
    cases walked
    exact ⟨List.Subset.refl ids, List.nil_subset ids⟩
  | case2 visited id stack old ih =>
    obtain ⟨before, ahead⟩ := ih walked
    exact ⟨before, List.cons_subset.mpr ⟨before old, ahead⟩⟩
  | case3 visited id stack fresh missing => cases walked
  | case4 visited id stack fresh shape found ih =>
    obtain ⟨before, ahead⟩ := ih walked
    obtain ⟨old, here⟩ := List.append_subset.mp before
    obtain ⟨_, later⟩ := List.append_subset.mp ahead
    exact ⟨old, List.cons_subset.mpr ⟨here List.mem_cons_self, later⟩⟩

/-- A walk takes the same steps in every model that defines alike what it visits. -/
theorem walkFrom_alike (walked : m.walkFrom stack visited = .ok ids)
    (alike : ∀ id ∈ ids, m.Alike n id) : n.walkFrom stack visited = .ok ids := by
  fun_induction walkFrom m stack visited with
  | case1 visited =>
    cases walked
    rw [walkFrom]
  | case2 visited id stack old ih =>
    rw [walkFrom_of_visited old]
    exact ih walked
  | case3 visited id stack fresh missing => cases walked
  | case4 visited id stack fresh shape found ih =>
    have here : id ∈ visited ++ [id] := List.mem_append_right visited List.mem_cons_self
    have listed : id ∈ ids := (subset_of_walkFrom walked).1 here
    obtain ⟨other, look, same⟩ := (alike id listed).exists_get? found
    rw [walkFrom_of_fresh fresh look, Shape.refs_of_bare same]
    exact ih walked

theorem walk_alike {root : ShapeId} {c : Closure} (walked : m.walk root = .ok c)
    (alike : ∀ id ∈ c.ids, m.Alike n id) : n.walk root = .ok c := by
  have visits := walkFrom_alike (walkFrom_of_walk walked) alike
  have rooted := (walk_closed walked).1
  rw [walk, visits, ← rooted]
  rfl

/-! ### Closures of services -/

theorem expectService_of_missing (missing : m.get? id = none) :
    m.expectService id = .error (.unknownShape id) := by
  unfold expectService expectShape
  rw [missing]
  rfl

theorem expectService_of_get? (found : m.get? id = some shape) :
    m.expectService id =
      if shape.type = .service then .ok shape else .error (.notService id shape.type) := by
  unfold expectService expectShape
  rw [found]
  rfl

theorem serviceClosure_of_error {reason : ModelError}
    (refused : m.expectService id = .error reason) : m.serviceClosure id = .error reason := by
  unfold serviceClosure
  rw [refused]
  rfl

/-- What a service leads to, or why it is refused, depends on the shapes that it leads to, and not
on their constraints. -/
theorem serviceClosure_alike (here : m.Alike n id)
    (alike : ∀ c, m.walk id = .ok c → ∀ v ∈ c.ids, m.Alike n v) :
    n.serviceClosure id = m.serviceClosure id := by
  cases found : m.get? id with
  | none =>
    have missing := here.get?_eq_none found
    rw [serviceClosure_of_error (expectService_of_missing missing),
      serviceClosure_of_error (expectService_of_missing found)]
  | some shape =>
    obtain ⟨other, look, same⟩ := here.exists_get? found
    have types := Shape.type_of_bare same
    have expected := expectService_of_get? found
    have expected' := expectService_of_get? look
    by_cases service : shape.type = .service
    · rw [if_pos service] at expected
      rw [if_pos (types.trans service)] at expected'
      obtain ⟨c, walked, _⟩ := walk_ok ⟨shape, found⟩
      have walked' := walk_alike walked (alike c walked)
      rw [serviceClosure_of_walk expected walked, serviceClosure_of_walk expected' walked']
    · rw [if_neg service] at expected
      rw [if_neg (types ▸ service), types] at expected'
      rw [serviceClosure_of_error expected, serviceClosure_of_error expected']

end Model

end ServerSymbols
