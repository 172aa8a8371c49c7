import ServerSymbols.Proofs.Locality
import ServerSymbols.Proofs.Groups

set_option autoImplicit false

/-
Services that share shapes. Each service has a closure of its own, in an order of its own, but all
that members lead to from a shape is in every closure that holds the shape. So what stands for the
shape does not depend on the service, nor on what refers to the shape.
-/
namespace ServerSymbols

namespace Context

variable {m : Model} {s t : Settings} {first second : Closure} {id : ShapeId}

section Shared

variable (runtime : s.runtime = t.runtime)
variable (foundFirst : m.serviceClosure s.service = .ok first)
variable (foundSecond : m.serviceClosure t.service = .ok second)
include runtime foundFirst foundSecond

theorem agreeOn_shared (memFirst : id ∈ first.ids) (memSecond : id ∈ second.ids) :
    (mk m s).AgreeOn (mk m t) id := by
  constructor
  case reaches => exact plainReaches_congr foundFirst foundSecond memFirst memSecond Iff.rfl
  case alike => exact Model.Alike.refl m id
  case base =>
    unfold base
    rw [runtime]

/-- What a wrapper holds is shared with the wrapper. -/
theorem plainWrapped_shared (memFirst : id ∈ first.ids) (memSecond : id ∈ second.ids) :
    (mk m s).resolver.plainWrapped id = (mk m t).resolver.plainWrapped id := by
  have agree := agreeOn_shared runtime foundFirst foundSecond memFirst memSecond
  apply agree.plainWrapped
  intro v holds
  have insideFirst := (Model.serviceClosure_closed foundFirst).step memFirst holds.step
  have insideSecond := (Model.serviceClosure_closed foundSecond).step memSecond holds.step
  exact (agreeOn_shared runtime foundFirst foundSecond insideFirst insideSecond).plainSymbol

end Shared

/-- Two services of one model that are both accepted, and runs for them with the same runtime. The
runs give the same answers about a shape that both services lead to: whether it reaches a
constrained shape, its symbol or why it has none, and what its wrapper holds. Both analyses know the same group
of it, if any, in whatever order. -/
theorem services_agree (m : Model) (s t : Settings) (runtime : s.runtime = t.runtime)
    (first second : Closure) (foundFirst : m.serviceClosure s.service = .ok first)
    (foundSecond : m.serviceClosure t.service = .ok second) (id : ShapeId)
    (memFirst : id ∈ first.ids) (memSecond : id ∈ second.ids) :
    (mk m s).SameAnswer (mk m t) (.reaches id) ∧ (mk m s).SameAnswer (mk m t) (.symbol id) ∧
      (mk m s).SameAnswer (mk m t) (.wrappedType id) ∧
      ∃ r r', (mk m s).analysis.compute = .ok r ∧ (mk m t).analysis.compute = .ok r' ∧
        (r.cycleOf? id).map List.toFinset = (r'.cycleOf? id).map List.toFinset := by
  have agree := agreeOn_shared runtime foundFirst foundSecond memFirst memSecond
  have wrapped := plainWrapped_shared runtime foundFirst foundSecond memFirst memSecond
  obtain ⟨r, analysed⟩ := exists_analysed (c := mk m s) foundFirst
  obtain ⟨r', analysed'⟩ := exists_analysed (c := mk m t) foundSecond
  refine ⟨sameAnswer_iff.mpr agree.reaches, sameAnswer_iff.mpr agree.plainSymbol,
    sameAnswer_iff.mpr wrapped, r, r', analysed.computed, analysed'.computed, ?_⟩
  exact Reachability.cycleOf?_toFinset (Model.serviceClosure_closed foundFirst)
    (Model.serviceClosure_closed foundSecond) analysed.cycles_eq analysed'.cycles_eq memFirst
    memSecond

end Context

/-- The model `Model.forest` with a second service, which leads to the forest first and to trees
from there. -/
def Model.park : Model where
  shapes := Model.forest.shapes ++ [
    ⟨⟨"test", "Park"⟩, .service [⟨"test", "Visit"⟩] [], []⟩,
    ⟨⟨"test", "Visit"⟩, .operation (some ⟨"test", "Forest"⟩) none [], []⟩]
  prelude_first := Model.forest.prelude_first.trans (List.prefix_append _ _)
  nodup := by decide +kernel
  closed := by decide +kernel
  unnested := by cbv

/-- What the second service of `Model.park` leads to. -/
def Closure.park : Closure where
  root := ⟨"test", "Park"⟩
  ids := [⟨"test", "Park"⟩, ⟨"test", "Visit"⟩, ⟨"test", "Forest"⟩, ⟨"test", "Tree"⟩,
    .prelude "String", ⟨"test", "Notes"⟩, ⟨"test", "Lines"⟩]

namespace Context

/-- Settings for a service of `Model.park`. -/
def parkSettings (name : String) : Settings :=
  .forService ⟨"test", name⟩ "park"

theorem services_agree_park :
    (parkSettings "Service").runtime = (parkSettings "Park").runtime ∧
      Model.park.serviceClosure ⟨"test", "Service"⟩ = .ok forestClosure ∧
      Model.park.serviceClosure ⟨"test", "Park"⟩ = .ok Closure.park ∧
      ⟨"test", "Forest"⟩ ∈ forestClosure.ids ∧ ⟨"test", "Forest"⟩ ∈ Closure.park.ids ∧
      (mk Model.park (parkSettings "Service")).SameAnswer (mk Model.park (parkSettings "Park"))
        (.reaches ⟨"test", "Forest"⟩) ∧
      (mk Model.park (parkSettings "Service")).SameAnswer (mk Model.park (parkSettings "Park"))
        (.symbol ⟨"test", "Forest"⟩) ∧
      (mk Model.park (parkSettings "Service")).SameAnswer (mk Model.park (parkSettings "Park"))
        (.wrappedType ⟨"test", "Forest"⟩) ∧
      ∃ r r', (mk Model.park (parkSettings "Service")).analysis.compute = .ok r ∧
        (mk Model.park (parkSettings "Park")).analysis.compute = .ok r' ∧
        (r.cycleOf? ⟨"test", "Forest"⟩).map List.toFinset =
          (r'.cycleOf? ⟨"test", "Forest"⟩).map List.toFinset := by
  have first : Model.park.serviceClosure ⟨"test", "Service"⟩ = .ok forestClosure := by
    have defined : Model.forest.contains ⟨"test", "Service"⟩ = true := by decide +kernel
    obtain ⟨service, found⟩ := Model.contains_iff.mp defined
    rw [Model.serviceClosure_of_subset (List.subset_append_left _ _) found]
    exact serviceClosure_forest
  have second : Model.park.serviceClosure ⟨"test", "Park"⟩ = .ok Closure.park := by cbv
  have memFirst : ⟨"test", "Forest"⟩ ∈ forestClosure.ids := by decide +kernel
  have memSecond : ⟨"test", "Forest"⟩ ∈ Closure.park.ids := by decide +kernel
  exact ⟨rfl, first, second, memFirst, memSecond,
    services_agree Model.park (parkSettings "Service") (parkSettings "Park") rfl forestClosure
      Closure.park first second ⟨"test", "Forest"⟩ memFirst memSecond⟩

end Context

end ServerSymbols
