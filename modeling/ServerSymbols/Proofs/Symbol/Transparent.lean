import ServerSymbols.Proofs.Context
import ServerSymbols.Proofs.Reachability
import ServerSymbols.Proofs.Symbol.Base

set_option autoImplicit false

/-
Shapes that reach no constrained shape: regard to constraints does not show in their symbols, nor in
those of any shape that they hold.
-/
namespace ServerSymbols.Context

/-- Whatever was asked before, the run resolves the shape with this result. -/
def Resolves (c : Context) (id : ShapeId) (result : Except SymbolError Symbol) : Prop :=
  ∀ calls : List Call, ((c.resolver.symbol id).answer (c.after calls)).1 = result

theorem resolves_plainSymbol (c : Context) (id : ShapeId) :
    c.Resolves id (c.resolver.plainSymbol id) :=
  fun calls => (c.resolver.gives_symbol id _ (c.sound_after calls)).1

variable {c : Context} {closure : Closure} {id v : ShapeId}

theorem resolves_iff {result : Except SymbolError Symbol} :
    c.Resolves id result ↔ c.resolver.plainSymbol id = result := by
  constructor
  · intro resolves
    exact (c.resolves_plainSymbol id []).symm.trans (resolves [])
  · rintro rfl
    exact c.resolves_plainSymbol id

/-- Of a shape of the closure, the analysis tells whether it reaches a constrained one. -/
theorem plainReaches_eq (found : c.model.serviceClosure c.settings.service = .ok closure)
    (mem : id ∈ closure.ids) :
    ∃ answer, c.analysis.plainReaches id = .ok answer ∧
      (answer = true ↔ c.model.ReachesConstrained id) := by
  obtain ⟨result, computed, same, right⟩ := compute_of_accepted found
  cases answered : result.reaches? id with
  | none =>
    rw [Reachability.reaches?_eq_none_iff, same] at answered
    exact absurd mem answered
  | some answer =>
    refine ⟨answer, ?_, ?_⟩
    · unfold Analysis.plainReaches
      rw [computed]
      simp only [bind, Except.bind, answered]
    · rw [← right id mem, answered, Option.some.injEq]

theorem plainReaches_of_free (found : c.model.serviceClosure c.settings.service = .ok closure)
    (mem : id ∈ closure.ids) (free : ¬ c.model.ReachesConstrained id) :
    c.analysis.plainReaches id = .ok false := by
  obtain ⟨answer, reached, right⟩ := plainReaches_eq found mem
  cases answer with
  | false => exact reached
  | true => exact absurd (right.mp rfl) free

theorem plainSymbol_eq_base (found : c.model.serviceClosure c.settings.service = .ok closure)
    (mem : id ∈ closure.ids) (free : ¬ c.model.ReachesConstrained id) :
    c.resolver.plainSymbol id = c.base.symbol id := by
  have reached : c.resolver.analysis.plainReaches id = .ok false :=
    plainReaches_of_free found mem free
  unfold Resolver.plainSymbol
  rw [reached]
  rfl

theorem resolves_base (found : c.model.serviceClosure c.settings.service = .ok closure)
    (mem : id ∈ closure.ids) (free : ¬ c.model.ReachesConstrained id) :
    c.Resolves id (c.base.symbol id) :=
  plainSymbol_eq_base found mem free ▸ c.resolves_plainSymbol id

/-- What a shape holds is in every closure with it, and reaches no constrained shape that it does
not reach itself. -/
theorem free_of_visits (closed : closure.Closed c.model) (mem : id ∈ closure.ids)
    (free : ¬ c.model.ReachesConstrained id) (visits : c.base.Visits id v) :
    v ∈ closure.ids ∧ ¬ c.model.ReachesConstrained v := by
  have path : c.model.MemberPath id v :=
    Relation.ReflTransGen.mono (fun _ _ => Model.Holds.step) _ _ visits
  refine ⟨closed.path mem path, fun reaches => free ?_⟩
  obtain ⟨last, onward, constrained⟩ := reaches
  exact ⟨last, Relation.ReflTransGen.trans path onward, constrained⟩

theorem resolves_target {shape : Shape}
    (found : c.model.serviceClosure c.settings.service = .ok closure) (mem : id ∈ closure.ids)
    (free : ¬ c.model.ReachesConstrained id) (look : c.model.get? id = some shape)
    (collection : shape.isCollection = true) (listed : v ∈ shape.targets) :
    c.Resolves v (c.base.symbol v) := by
  have visits : c.base.Visits id v := Relation.ReflTransGen.single ⟨shape, look, collection, listed⟩
  obtain ⟨inside, onward⟩ := free_of_visits (Model.serviceClosure_closed found) mem free visits
  exact resolves_base found inside onward

/-- A shape of the service that reaches no constrained shape has its base symbol, or the error in
its place. The symbol of such a list, set or map holds exactly the types that the run answers with
for its members' targets, and whatever its base symbol is made from belongs to the service and
reaches no constrained shape either. -/
theorem symbol_transparent (c : Context) (closure : Closure)
    (found : c.model.serviceClosure c.settings.service = .ok closure) (id : ShapeId)
    (mem : id ∈ closure.ids) (free : ¬ c.model.ReachesConstrained id) :
    c.Resolves id (c.base.symbol id) ∧
      (∀ shape symbol, c.model.get? id = some shape → c.base.symbol id = .ok symbol →
        (∀ member, shape.kind = .list member ∨ shape.kind = .set member →
          ∃ item, c.Resolves member.target (.ok item) ∧ symbol = { type := .vec item.type }) ∧
        ∀ key value, shape.kind = .map key value →
          ∃ keys values, c.Resolves key.target (.ok keys) ∧ c.Resolves value.target (.ok values) ∧
            symbol = { type := .map keys.type values.type }) ∧
      ∀ v, c.base.Visits id v → v ∈ closure.ids ∧ ¬ c.model.ReachesConstrained v := by
  refine ⟨resolves_base found mem free, fun shape symbol look resolved => ⟨?_, ?_⟩,
    fun v => free_of_visits (Model.serviceClosure_closed found) mem free⟩
  · intro member kind
    obtain ⟨collection, targets⟩ := Shape.collection_of_sequence kind
    have listed : member.target ∈ shape.targets := by simp [targets]
    have answered := resolves_target found mem free look collection listed
    obtain ⟨item, same, built⟩ := BaseSymbols.symbol_sequence look kind resolved
    rw [same] at answered
    exact ⟨item, answered, built⟩
  · intro key value kind
    obtain ⟨collection, targets⟩ := Shape.collection_of_map kind
    have first : key.target ∈ shape.targets := by simp [targets]
    have second : value.target ∈ shape.targets := by simp [targets]
    have keyed := resolves_target found mem free look collection first
    have valued := resolves_target found mem free look collection second
    obtain ⟨keys, values, sameKey, sameValue, built⟩ := BaseSymbols.symbol_map look kind resolved
    rw [sameKey] at keyed
    rw [sameValue] at valued
    exact ⟨keys, values, keyed, valued, built⟩

/-- A run for the service of `Model.forest`. -/
def forest : Context :=
  ⟨Model.forest, .forService ⟨"test", "Service"⟩ "forest"⟩

/-- What the service of `Model.forest` leads to. -/
def forestClosure : Closure where
  root := ⟨"test", "Service"⟩
  ids := [⟨"test", "Service"⟩, ⟨"test", "Grow"⟩, ⟨"test", "Tree"⟩, ⟨"test", "Forest"⟩,
    .prelude "String", ⟨"test", "Notes"⟩, ⟨"test", "Lines"⟩]

theorem serviceClosure_forest :
    forest.model.serviceClosure forest.settings.service = .ok forestClosure := by cbv

theorem symbol_transparent_notes :
    forest.model.serviceClosure forest.settings.service = .ok forestClosure ∧
      ⟨"test", "Notes"⟩ ∈ forestClosure.ids ∧
      ¬ forest.model.ReachesConstrained ⟨"test", "Notes"⟩ ∧
      forest.Resolves ⟨"test", "Notes"⟩ (forest.base.symbol ⟨"test", "Notes"⟩) ∧
      (∀ shape symbol, forest.model.get? ⟨"test", "Notes"⟩ = some shape →
        forest.base.symbol ⟨"test", "Notes"⟩ = .ok symbol →
        (∀ member, shape.kind = .list member ∨ shape.kind = .set member →
          ∃ item, forest.Resolves member.target (.ok item) ∧ symbol = { type := .vec item.type }) ∧
        ∀ key value, shape.kind = .map key value →
          ∃ keys values, forest.Resolves key.target (.ok keys) ∧
            forest.Resolves value.target (.ok values) ∧
            symbol = { type := .map keys.type values.type }) ∧
      ∀ v, forest.base.Visits ⟨"test", "Notes"⟩ v →
        v ∈ forestClosure.ids ∧ ¬ forest.model.ReachesConstrained v := by
  have found := serviceClosure_forest
  have mem : ⟨"test", "Notes"⟩ ∈ forestClosure.ids := by decide +kernel
  have free : ¬ forest.model.ReachesConstrained ⟨"test", "Notes"⟩ := by
    apply Model.not_reachesConstrained [⟨"test", "Notes"⟩, ⟨"test", "Lines"⟩, .prelude "String"]
    · decide +kernel
    · decide +kernel
  exact ⟨found, mem, free,
    symbol_transparent forest forestClosure found ⟨"test", "Notes"⟩ mem free⟩

end ServerSymbols.Context
