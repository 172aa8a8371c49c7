import ServerSymbols.Proofs.Agreement

set_option autoImplicit false

/-
Locality. What is found from a shape depends on the definitions of the shapes that it leads to, and
on nothing else: neither what else the model defines nor the order of its definitions shows.
-/
namespace ServerSymbols

namespace Model

variable {m n : Model} {id : ShapeId} {shape : Shape}

theorem get?_of_subset (subset : m.shapes ⊆ n.shapes) (found : m.get? id = some shape) :
    n.get? id = some shape := by
  rw [← id_of_get? found]
  exact get?_of_mem (subset (mem_of_get? found))

theorem get?_eq_of_walk {root : ShapeId} {c : Closure} (subset : m.shapes ⊆ n.shapes)
    (walked : m.walk root = .ok c) (mem : id ∈ c.ids) : n.get? id = m.get? id := by
  obtain ⟨shape, found, _⟩ := (walk_closed walked).2.2.refs id mem
  rw [found]
  exact get?_of_subset subset found

/-- More shapes make no difference to a service. -/
theorem serviceClosure_of_subset (subset : m.shapes ⊆ n.shapes) (found : m.get? id = some shape) :
    n.serviceClosure id = m.serviceClosure id := by
  apply serviceClosure_alike
  · apply Alike.of_eq
    rw [found]
    exact get?_of_subset subset found
  · exact fun c walked v mem => .of_eq (get?_eq_of_walk subset walked mem)

theorem isConstrained_of_eq (same : n.get? id = m.get? id) :
    n.IsConstrained id ↔ m.IsConstrained id := by
  unfold IsConstrained
  rw [same]

theorem expectService_of_eq (same : n.get? id = m.get? id) :
    n.expectService id = m.expectService id := by
  unfold expectService expectShape
  rw [same]

end Model

namespace Context

variable {m : Model} {s : Settings}

theorem make_of_service {shape : Shape} (expected : m.expectService s.service = .ok shape) :
    make m s = .ok ⟨m, s⟩ := by
  unfold make
  rw [expected]
  rfl

/-- Let a model define all that a walk of another model from a shape finds, by equal shapes, and
whatever else in whatever order. Then the walk from this shape is the same in both. If the shape is
a service, then both accept it or refuse it for the same reason; and runs for it with the same
settings start in both, make the same analysis, and give the same answers to every call. -/
theorem answers_local (m n : Model) (root : ShapeId) (defined : m.contains root = true)
    (same : ∀ c, m.walk root = .ok c → ∀ id ∈ c.ids, n.get? id = m.get? id) :
    ∃ c, m.walk root = .ok c ∧ n.walk root = .ok c ∧
      ∀ shape, m.expectService root = .ok shape →
        n.serviceClosure root = m.serviceClosure root ∧
        ∀ s : Settings, s.service = root →
          make m s = .ok ⟨m, s⟩ ∧ make n s = .ok ⟨n, s⟩ ∧
          (mk n s).analysis.compute = (mk m s).analysis.compute ∧
          ∀ call, (mk m s).SameAnswer (mk n s) call := by
  obtain ⟨c, walked, _, here, _⟩ := Model.walk_ok (Model.contains_iff.mp defined)
  have known := same c walked
  have alike : ∀ id ∈ c.ids, m.Alike n id := fun id mem => .of_eq (known id mem)
  refine ⟨c, walked, Model.walk_alike walked alike, fun shape expected => ?_⟩
  have closures : n.serviceClosure root = m.serviceClosure root := by
    apply Model.serviceClosure_alike (alike root here)
    intro other again
    rw [walked] at again
    cases again
    exact alike
  refine ⟨closures, ?_⟩
  rintro s rfl
  have expected' := (Model.expectService_of_eq (known s.service here)).trans expected
  have unseen : Unseen m n s := by
    refine ⟨closures, fun closure found id mem => ?_⟩
    have equal := same closure (Model.walk_of_serviceClosure found).1 id mem
    exact ⟨.of_eq equal, Model.isConstrained_of_eq equal⟩
  exact ⟨make_of_service expected, make_of_service expected', unseen.compute,
    unseen.agree.sameAnswer⟩

end Context

/-- The shapes of `Model.forest` behind a tree of its own, in the opposite order. -/
def Model.wood : Model where
  shapes := Shape.prelude ++
    ⟨⟨"wild", "tree"⟩, .struct [⟨"label", .prelude "String", [.required]⟩], []⟩ ::
    (Model.forest.shapes.drop Shape.prelude.length).reverse
  prelude_first := List.prefix_append _ _
  nodup := by decide +kernel
  closed := by decide +kernel
  unnested := by cbv

theorem Model.forest_subset_wood : Model.forest.shapes ⊆ Model.wood.shapes := by
  have split : Model.forest.shapes =
      Shape.prelude ++ Model.forest.shapes.drop Shape.prelude.length := rfl
  intro shape mem
  rw [split] at mem
  simp only [Model.wood, List.mem_append, List.mem_cons, List.mem_reverse]
  rcases List.mem_append.mp mem with first | later
  · exact Or.inl first
  · exact Or.inr (Or.inr later)

namespace Context

theorem answers_local_forest :
    Model.forest.contains ⟨"test", "Service"⟩ = true ∧
      (∀ c, Model.forest.walk ⟨"test", "Service"⟩ = .ok c →
        ∀ id ∈ c.ids, Model.wood.get? id = Model.forest.get? id) ∧
      (Model.forest.expectService ⟨"test", "Service"⟩).toBool = true ∧
      ∃ c, Model.forest.walk ⟨"test", "Service"⟩ = .ok c ∧
        Model.wood.walk ⟨"test", "Service"⟩ = .ok c ∧
        Model.wood.serviceClosure ⟨"test", "Service"⟩ =
          Model.forest.serviceClosure ⟨"test", "Service"⟩ ∧
        (mk Model.wood forest.settings).analysis.compute = forest.analysis.compute ∧
        ∀ call, forest.SameAnswer (mk Model.wood forest.settings) call := by
  have defined : Model.forest.contains ⟨"test", "Service"⟩ = true := by decide +kernel
  have same : ∀ c, Model.forest.walk ⟨"test", "Service"⟩ = .ok c →
      ∀ id ∈ c.ids, Model.wood.get? id = Model.forest.get? id :=
    fun c walked id mem => Model.get?_eq_of_walk Model.forest_subset_wood walked mem
  have service : (Model.forest.expectService ⟨"test", "Service"⟩).toBool = true := by decide +kernel
  obtain ⟨c, walked, walked', runs⟩ := answers_local Model.forest Model.wood _ defined same
  cases expected : Model.forest.expectService ⟨"test", "Service"⟩ with
  | error reason =>
    rw [expected] at service
    cases service
  | ok shape =>
    obtain ⟨closures, answers⟩ := runs shape expected
    obtain ⟨_, _, computed, alike⟩ := answers forest.settings rfl
    exact ⟨defined, same, rfl, c, walked, walked', closures, computed, alike⟩

end Context

end ServerSymbols
