import ServerSymbols.Proofs.Model.Path

set_option autoImplicit false

/-
The walk through a model ends with every shape it can get to: the list it returns has no repetition
and holds all that its shapes refer to.
-/
namespace ServerSymbols

/-- A closure holds defined shapes, each once, and all that they refer to. -/
structure Closure.Closed (m : Model) (c : Closure) : Prop where
  nodup : c.ids.Nodup
  refs : ∀ id ∈ c.ids, ∃ shape, m.get? id = some shape ∧ ∀ ref ∈ shape.refs, ref ∈ c.ids

namespace Model

variable {m : Model}

/-- What a walk keeps: references of visited shapes are visited or on the stack. -/
structure Walking (m : Model) (stack visited : List ShapeId) : Prop where
  nodup : visited.Nodup
  refs : ∀ id ∈ visited, ∃ shape, m.get? id = some shape ∧
    ∀ ref ∈ shape.refs, ref ∈ visited ∨ ref ∈ stack
  defined : ∀ id ∈ stack, ∃ shape, m.get? id = some shape

theorem Walking.skip {id : ShapeId} {stack visited : List ShapeId}
    (walking : m.Walking (id :: stack) visited) (old : id ∈ visited) :
    m.Walking stack visited := by
  refine ⟨walking.nodup, fun other mem => ?_, fun other mem => ?_⟩
  · obtain ⟨shape, found, refs⟩ := walking.refs other mem
    refine ⟨shape, found, fun ref listed => ?_⟩
    rcases refs ref listed with before | ahead
    · exact Or.inl before
    · rcases List.mem_cons.mp ahead with rfl | later
      · exact Or.inl old
      · exact Or.inr later
  · exact walking.defined other (List.mem_cons_of_mem id mem)

theorem Walking.visit {id : ShapeId} {shape : Shape} {stack visited : List ShapeId}
    (walking : m.Walking (id :: stack) visited) (fresh : id ∉ visited)
    (found : m.get? id = some shape) :
    m.Walking (shape.refs ++ stack) (visited ++ [id]) := by
  constructor
  case nodup =>
    rw [List.nodup_append]
    refine ⟨walking.nodup, List.nodup_cons.mpr ⟨List.not_mem_nil, List.nodup_nil⟩, ?_⟩
    rintro a mem b last rfl
    exact fresh (List.mem_singleton.mp last ▸ mem)
  case refs =>
    intro other mem
    rcases List.mem_append.mp mem with before | last
    · obtain ⟨known, look, refs⟩ := walking.refs other before
      refine ⟨known, look, fun ref listed => ?_⟩
      rcases refs ref listed with before | ahead
      · exact Or.inl (List.mem_append_left _ before)
      · rcases List.mem_cons.mp ahead with rfl | later
        · exact Or.inl (List.mem_append_right _ List.mem_cons_self)
        · exact Or.inr (List.mem_append_right _ later)
    · rw [List.mem_singleton.mp last]
      exact ⟨shape, found, fun ref listed => Or.inr (List.mem_append_left _ listed)⟩
  case defined =>
    intro other mem
    rcases List.mem_append.mp mem with ref | later
    · exact exists_get?_of_ref found ref
    · exact walking.defined other (List.mem_cons_of_mem id later)

theorem walkFrom_ok {stack visited : List ShapeId} (walking : m.Walking stack visited) :
    ∃ ids, m.walkFrom stack visited = .ok ids ∧ m.Walking [] ids ∧ visited ⊆ ids ∧ stack ⊆ ids := by
  fun_induction walkFrom m stack visited with
  | case1 visited => exact ⟨visited, rfl, walking, fun _ mem => mem, List.nil_subset _⟩
  | case2 visited id stack old ih =>
    obtain ⟨ids, walked, last, before, ahead⟩ := ih (walking.skip old)
    exact ⟨ids, walked, last, before, List.cons_subset.mpr ⟨before old, ahead⟩⟩
  | case3 visited id stack fresh missing =>
    obtain ⟨shape, found⟩ := walking.defined id List.mem_cons_self
    rw [missing] at found
    cases found
  | case4 visited id stack fresh shape found ih =>
    obtain ⟨ids, walked, last, before, ahead⟩ := ih (walking.visit fresh found)
    obtain ⟨old, here⟩ := List.append_subset.mp before
    obtain ⟨_, later⟩ := List.append_subset.mp ahead
    exact ⟨ids, walked, last, old, List.cons_subset.mpr ⟨here List.mem_cons_self, later⟩⟩

/-- A walk from a defined shape succeeds. -/
theorem walk_ok {root : ShapeId} (defined : ∃ shape, m.get? root = some shape) :
    ∃ c, m.walk root = .ok c ∧ c.root = root ∧ root ∈ c.ids ∧ c.Closed m := by
  have start : m.Walking [root] [] := by
    refine ⟨List.nodup_nil, fun id mem => absurd mem List.not_mem_nil, fun id mem => ?_⟩
    rw [List.mem_singleton.mp mem]
    exact defined
  obtain ⟨ids, walked, last, _, ahead⟩ := walkFrom_ok start
  refine ⟨⟨root, ids⟩, ?_, rfl, ahead List.mem_cons_self, last.nodup, fun id mem => ?_⟩
  · rw [walk, walked]
    rfl
  · obtain ⟨shape, found, refs⟩ := last.refs id mem
    exact ⟨shape, found, fun ref listed => (refs ref listed).resolve_right List.not_mem_nil⟩

theorem walk_undefined {root : ShapeId} (missing : m.get? root = none) :
    m.walk root = .error (.unknownShape root) := by
  rw [walk, walkFrom, dif_neg List.not_mem_nil]
  split
  · rfl
  · next shape found =>
    rw [missing] at found
    cases found

theorem walk_closed {root : ShapeId} {c : Closure} (walked : m.walk root = .ok c) :
    c.root = root ∧ root ∈ c.ids ∧ c.Closed m := by
  cases found : m.get? root with
  | none =>
    rw [walk_undefined found] at walked
    cases walked
  | some shape =>
    obtain ⟨other, result, known⟩ := walk_ok ⟨shape, found⟩
    rw [walked] at result
    cases result
    exact known

theorem defined_of_expectService {service : ShapeId} {shape : Shape}
    (expected : m.expectService service = .ok shape) : m.get? service = some shape := by
  unfold expectService expectShape at expected
  cases found : m.get? service with
  | none =>
    rw [found] at expected
    cases expected
  | some other =>
    rw [found] at expected
    dsimp only [bind, Except.bind] at expected
    split at expected
    · cases expected
      rfl
    · cases expected

/-- A service leads to what a walk from it finds, unless names clash in it. -/
theorem serviceClosure_of_walk {service : ShapeId} {shape : Shape} {c : Closure}
    (expected : m.expectService service = .ok shape) (walked : m.walk service = .ok c) :
    m.serviceClosure service =
      match firstClash? [] (c.ids.filter (!·.isPrelude)) with
      | some (first, second) => .error (.conflictingNames first second)
      | none => .ok c := by
  unfold serviceClosure
  rw [expected, walked]
  rfl

theorem walk_of_serviceClosure {service : ShapeId} {c : Closure}
    (found : m.serviceClosure service = .ok c) :
    m.walk service = .ok c ∧ firstClash? [] (c.ids.filter (!·.isPrelude)) = none := by
  cases expected : m.expectService service with
  | error reason =>
    rw [serviceClosure, expected] at found
    cases found
  | ok shape =>
    obtain ⟨other, walked, _⟩ := walk_ok ⟨shape, defined_of_expectService expected⟩
    rw [serviceClosure_of_walk expected walked] at found
    split at found
    · cases found
    · next clear =>
      cases found
      exact ⟨walked, clear⟩

/-- The closure of a service fails for no other reason than a clash of names. -/
theorem serviceClosure_cases {service : ShapeId} {shape : Shape}
    (expected : m.expectService service = .ok shape) :
    (∃ c, m.serviceClosure service = .ok c) ∨
      ∃ first second, m.serviceClosure service = .error (.conflictingNames first second) := by
  obtain ⟨c, walked, _⟩ := walk_ok ⟨shape, defined_of_expectService expected⟩
  rw [serviceClosure_of_walk expected walked]
  split
  · next first second _ => exact Or.inr ⟨first, second, rfl⟩
  · exact Or.inl ⟨c, rfl⟩

/-- What a service leads to is closed as well: clashes of names only make it fail. -/
theorem serviceClosure_closed {service : ShapeId} {c : Closure}
    (found : m.serviceClosure service = .ok c) : c.Closed m :=
  (walk_closed (walk_of_serviceClosure found).1).2.2

end Model

namespace Closure

variable {m : Model} {c : Closure}

theorem get_mem (c : Closure) (i : Fin c.size) : c.get i ∈ c.ids :=
  List.get_mem c.ids i

theorem indexOf?_eq_none_iff {id : ShapeId} : c.indexOf? id = none ↔ id ∉ c.ids := by
  simp [indexOf?]

theorem get_of_indexOf? {id : ShapeId} {i : Fin c.size} (found : c.indexOf? id = some i) :
    c.get i = id :=
  (List.finIdxOf?_eq_some_iff.mp found).1

theorem exists_indexOf? {id : ShapeId} (mem : id ∈ c.ids) : ∃ i, c.indexOf? id = some i := by
  cases found : c.indexOf? id with
  | none => exact absurd mem (indexOf?_eq_none_iff.mp found)
  | some i => exact ⟨i, rfl⟩

theorem indexOf?_get (nodup : c.ids.Nodup) (i : Fin c.size) : c.indexOf? (c.get i) = some i := by
  obtain ⟨j, found⟩ := exists_indexOf? (c.get_mem i)
  have same : c.get j = c.get i := get_of_indexOf? found
  rw [found, List.nodup_iff_injective_get.mp nodup same]

end Closure

end ServerSymbols
