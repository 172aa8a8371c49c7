import ServerSymbols.Proofs.Agreement
import ServerSymbols.Proofs.Model.Gain

set_option autoImplicit false

/-
The effect of one more constraint. It shows in the shapes that lead to the edited one, and in no
other answer: neither closures nor groups nor base symbols depend on constraints.
-/
namespace ServerSymbols

namespace Model

/-- Whether a service is expected in vain, and why, does not depend on constraints. -/
theorem expectService_alike {m n : Model} {id : ShapeId} (alike : m.Alike n id) :
    (n.expectService id).map (fun _ => ()) = (m.expectService id).map fun _ => () := by
  cases found : m.get? id with
  | none =>
    have missing := alike.get?_eq_none found
    rw [expectService_of_missing found, expectService_of_missing missing]
  | some shape =>
    obtain ⟨other, look, same⟩ := alike.exists_get? found
    rw [expectService_of_get? found, expectService_of_get? look, Shape.type_of_bare same]
    split <;> rfl

end Model

namespace Context

variable {m n : Model} {s : Shape} {t : Settings}

theorem map_settings_make (m : Model) (t : Settings) :
    (make m t).map (·.settings) =
      (((m.expectService t.service).map fun _ => ()).mapError .ofModel).map fun _ => t := by
  unfold make
  cases m.expectService t.service <;> rfl

/-- What runs for the one model and runs for the other, where this shape has a constraint more, have
in common, and where they differ. -/
structure Impact (m n : Model) (s : Shape) : Prop where
  /-- A service leads to the same shapes, or is refused for the same reason. -/
  closures : ∀ service, n.serviceClosure service = m.serviceClosure service
  starts : ∀ t : Settings, (make n t).map (·.settings) = (make m t).map (·.settings)
  base : ∀ runtime, (BaseSymbols.mk n runtime).symbol = (BaseSymbols.mk m runtime).symbol
  /-- The shapes with a path of members to the edited data shape join those that reach a constrained
  one. The groups stay as they are, and so do the symbols of all shapes that did not join. -/
  accepted : ∀ (t : Settings) (closure : Closure), m.serviceClosure t.service = .ok closure →
    ∃ r r', (mk m t).analysis.compute = .ok r ∧ (mk n t).analysis.compute = .ok r' ∧
      r'.cycles = r.cycles ∧
      (∀ id ∈ closure.ids, r'.reaches? id = some true ↔
        r.reaches? id = some true ∨ s.isData = true ∧ m.MemberPath id s.id) ∧
      ∀ id, r'.reaches? id = r.reaches? id → (mk m t).SameAnswer (mk n t) (.symbol id)
  refused : ∀ (t : Settings) (reason : ModelError), m.serviceClosure t.service = .error reason →
    ∀ call, (mk m t).SameAnswer (mk n t) call
  /-- On an operation, resource or service, a constraint has no effect at all. -/
  unseen : s.isData = false → ∀ t,
    (mk n t).analysis.compute = (mk m t).analysis.compute ∧
    ∀ call, (mk m t).SameAnswer (mk n t) call

section Gains

variable (gains : m.Gains n s)
include gains

theorem serviceClosure_of_gains (service : ShapeId) :
    n.serviceClosure service = m.serviceClosure service :=
  Model.serviceClosure_alike (gains.alike service) fun _ _ v _ => gains.alike v

theorem base_of_gains (runtime : RuntimeConfig) :
    (BaseSymbols.mk n runtime).symbol = (BaseSymbols.mk m runtime).symbol := by
  funext id
  exact BaseSymbols.symbol_of_alike fun v _ => gains.alike v

theorem unseen_of_refused {reason : ModelError}
    (refused : m.serviceClosure t.service = .error reason) : Unseen m n t := by
  refine ⟨serviceClosure_of_gains gains t.service, fun closure found => ?_⟩
  rw [refused] at found
  cases found

theorem unseen_of_not_isData (other : s.isData = false) (t : Settings) : Unseen m n t := by
  refine ⟨serviceClosure_of_gains gains t.service, fun _ _ id _ => ⟨gains.alike id, ?_⟩⟩
  simp [gains.constrained id, other]

/-- A shape keeps its symbol unless it reaches a constrained one now, and did not before. -/
theorem sameAnswer_of_gains {closure : Closure} {id : ShapeId}
    (found : m.serviceClosure t.service = .ok closure)
    (kept : id ∈ closure.ids → (n.ReachesConstrained id ↔ m.ReachesConstrained id)) :
    (mk m t).SameAnswer (mk n t) (.symbol id) := by
  have found' := (serviceClosure_of_gains gains t.service).trans found
  apply sameAnswer_iff.mpr
  by_cases mem : id ∈ closure.ids
  · have agree : (mk m t).AgreeOn (mk n t) id := by
      constructor
      case reaches => exact plainReaches_congr found found' mem mem (kept mem).symm
      case alike => exact gains.alike id
      case base => exact (congrFun (base_of_gains gains t.runtime) id).symm
    exact agree.plainSymbol
  · have before := plainSymbol_of_outside (c := ⟨m, t⟩) found mem
    have now := plainSymbol_of_outside (c := ⟨n, t⟩) found' mem
    exact before.trans now.symm

end Gains

/-- Let one of the shapes that make a model, or one of its members, get one constraint more. Then
the shapes make a model again, and of runs for the two models all is the same but this: the shapes
with a path of members to the edited shape reach a constrained shape now, if that is a data shape,
and have the symbols that go with it. -/
theorem constraint_impact (before after : List Shape) (s s' : Shape) (gains : s.Gains s')
    (m : Model) (built : Model.build (before ++ s :: after) = .ok m) :
    ∃ n, Model.build (before ++ s' :: after) = .ok n ∧ Impact m n s := by
  obtain ⟨n, built', change⟩ := Model.exists_gains gains built
  refine ⟨n, built', ?_⟩
  constructor
  case closures => exact serviceClosure_of_gains change
  case starts =>
    intro t
    rw [map_settings_make, map_settings_make, Model.expectService_alike (change.alike t.service)]
  case base => exact base_of_gains change
  case accepted =>
    intro t closure found
    have found' := (serviceClosure_of_gains change t.service).trans found
    obtain ⟨r, analysed⟩ := exists_analysed (c := ⟨m, t⟩) found
    obtain ⟨r', analysed'⟩ := exists_analysed (c := ⟨n, t⟩) found'
    have reaches : ∀ id ∈ closure.ids, r'.reaches? id = some true ↔
        r.reaches? id = some true ∨ s.isData = true ∧ m.MemberPath id s.id := by
      intro id mem
      rw [analysed'.reaches id mem, analysed.reaches id mem]
      exact change.reachesConstrained_iff
    have cycles : r'.cycles = r.cycles := by
      rw [analysed'.cycles_eq, analysed.cycles_eq]
      exact Closure.cycles_alike fun id _ => change.alike id
    refine ⟨r, r', analysed.computed, analysed'.computed, cycles, reaches, fun id kept => ?_⟩
    refine sameAnswer_of_gains change found fun mem => ?_
    have now := analysed'.reaches id mem
    rw [kept, analysed.reaches id mem] at now
    exact now.symm
  case refused => exact fun t reason refused => (unseen_of_refused change refused).agree.sameAnswer
  case unseen =>
    intro other t
    have unseen := unseen_of_not_isData change other t
    exact ⟨unseen.compute, unseen.agree.sameAnswer⟩

/-- A bound on the length of the list `Lines` shows in what leads to it; one on the operation `Grow`
shows nowhere. -/
theorem constraint_impact_forest :
    ∃ others lines service grow rest,
      lines.id = ⟨"test", "Lines"⟩ ∧ grow.id = ⟨"test", "Grow"⟩ ∧
      Model.build (others ++ [lines]) = .ok Model.forest ∧
      Model.build ([service] ++ grow :: rest) = .ok Model.forest ∧
      Model.forest.serviceClosure ⟨"test", "Service"⟩ = .ok forestClosure ∧
      (lines.isData = true ∧ lines.Gains (lines.addConstraint (.length (some 1) none)) ∧
        ∃ n, Model.build (others ++ [lines.addConstraint (.length (some 1) none)]) = .ok n ∧
          Impact Model.forest n lines) ∧
      grow.isData = false ∧ grow.Gains (grow.addConstraint (.length (some 1) none)) ∧
        ∃ n, Model.build ([service] ++ grow.addConstraint (.length (some 1) none) :: rest) = .ok n ∧
          Impact Model.forest n grow := by
  obtain ⟨service, grow, tree, forest, notes, lines, shapes, last_id, first_id, list, operation⟩ :
      ∃ service grow tree forest notes lines,
        Model.forest.shapes = Shape.prelude ++ [service, grow, tree, forest, notes, lines] ∧
        lines.id = ⟨"test", "Lines"⟩ ∧ grow.id = ⟨"test", "Grow"⟩ ∧
        lines.isData = true ∧ grow.isData = false := ⟨_, _, _, _, _, _, rfl, rfl, rfl, rfl, rfl⟩
  have built : Model.build [service, grow, tree, forest, notes, lines] = .ok Model.forest :=
    Model.build_of_shapes shapes
  have bound := Shape.gains_addConstraint (.length (some 1) none)
  exact ⟨[service, grow, tree, forest, notes], lines, service, grow, [tree, forest, notes, lines],
    last_id, first_id, built, built, serviceClosure_forest,
    ⟨list, bound lines,
      constraint_impact [service, grow, tree, forest, notes] [] lines _ (bound lines) _ built⟩,
    operation, bound grow,
    constraint_impact [service] [tree, forest, notes, lines] grow _ (bound grow) _ built⟩

end Context

end ServerSymbols
