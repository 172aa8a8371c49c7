import ServerSymbols.Symbol.Unconstrained
import ServerSymbols.Proofs.Model.Clash

set_option autoImplicit false

/-
Modules of unchecked data. Each structure, union and collection of a service that is not of the
prelude has a module of its own for it: the module's path spells the key of the shape's name.
-/
namespace ServerSymbols

/-- Shapes whose unchecked form is a type in a module that is generated for the shape. -/
def ShapeType.hasModule : ShapeType → Bool
  | struct | union | list | set | map => true
  | _ => false

namespace BaseSymbols

theorem unconstrainedSymbol_of_hasModule (b : BaseSymbols) {s : Shape}
    (hasModule : s.type.hasModule = true) :
    b.unconstrainedSymbol s = .ok (wrapperSymbol s.id) ∨
      b.unconstrainedSymbol s = .ok (builderSymbol s.id) := by
  unfold Shape.type at hasModule
  unfold unconstrainedSymbol
  cases kind : s.kind with
  | struct members => exact Or.inr rfl
  | union members | list member | set member | map key value => exact Or.inl rfl
  | enum variants | intEnum variants | primitive kind' | operation input output errors
  | resource identifiers operations resources | service operations resources =>
    rw [kind] at hasModule
    cases hasModule

/-- The module of a wrapper. -/
def wrapperSpace (id : ShapeId) : String :=
  "crate::unconstrained::" ++ Identifier.snakeCase id.name ++ "_unconstrained"

/-- The module of a builder. -/
def builderSpace (id : ShapeId) : String :=
  modelModule ++ "::" ++ Identifier.snakeCase id.name

theorem space_wrapperSymbol (id : ShapeId) :
    (wrapperSymbol id).type.space = some (wrapperSpace id) := rfl

theorem space_builderSymbol (id : ShapeId) :
    (builderSymbol id).type.space = some (builderSpace id) := rfl

variable {a b : ShapeId}

theorem nameKey_of_wrapperSpace (same : wrapperSpace a = wrapperSpace b) :
    Model.nameKey a = Model.nameKey b := by
  have front := (String.append_left_inj _).mp same
  exact Model.nameKey_of_snakeCase ((String.append_right_inj _).mp front)

theorem nameKey_of_builderSpace (same : builderSpace a = builderSpace b) :
    Model.nameKey a = Model.nameKey b :=
  Model.nameKey_of_snakeCase ((String.append_right_inj _).mp same)

/-- Wrappers and builders are kept in different modules of the library. -/
theorem wrapperSpace_ne_builderSpace : wrapperSpace a ≠ builderSpace b := by
  unfold wrapperSpace builderSpace modelModule
  generalize Identifier.snakeCase a.name = wrapped
  generalize Identifier.snakeCase b.name = built
  intro same
  have chars := congrArg String.toList same
  simp at chars

/-- A shape with a module of its own has an unconstrained symbol in it, and shapes whose names have
different keys have different modules. -/
theorem exists_space (base : BaseSymbols) {s t : Shape} (moduleS : s.type.hasModule = true)
    (moduleT : t.type.hasModule = true) (apart : Model.nameKey s.id ≠ Model.nameKey t.id) :
    ∃ x y spaceX spaceY, base.unconstrainedSymbol s = .ok x ∧
      base.unconstrainedSymbol t = .ok y ∧ x.type.space = some spaceX ∧
      y.type.space = some spaceY ∧ spaceX ≠ spaceY := by
  rcases base.unconstrainedSymbol_of_hasModule moduleS with wrapped | built
  · rcases base.unconstrainedSymbol_of_hasModule moduleT with wrapped' | built'
    · exact ⟨_, _, _, _, wrapped, wrapped', space_wrapperSymbol s.id, space_wrapperSymbol t.id,
        fun same => apart (nameKey_of_wrapperSpace same)⟩
    · exact ⟨_, _, _, _, wrapped, built', space_wrapperSymbol s.id, space_builderSymbol t.id,
        wrapperSpace_ne_builderSpace⟩
  · rcases base.unconstrainedSymbol_of_hasModule moduleT with wrapped' | built'
    · exact ⟨_, _, _, _, built, wrapped', space_builderSymbol s.id, space_wrapperSymbol t.id,
        wrapperSpace_ne_builderSpace.symm⟩
    · exact ⟨_, _, _, _, built, built', space_builderSymbol s.id, space_builderSymbol t.id,
        fun same => apart (nameKey_of_builderSpace same)⟩

/-- Two structures, unions, lists, sets or maps of a service that are not of the prelude have
unconstrained symbols in different modules, so with different types, whatever their namespaces and
names are. -/
theorem modules_distinct (m : Model) (service : ShapeId) (c : Closure)
    (found : m.serviceClosure service = .ok c) (base : BaseSymbols) (s t : Shape)
    (ownS : c.Own m s) (ownT : c.Own m t) (moduleS : s.type.hasModule = true)
    (moduleT : t.type.hasModule = true) (distinct : s.id ≠ t.id) :
    ∃ x y spaceX spaceY, base.unconstrainedSymbol s = .ok x ∧
      base.unconstrainedSymbol t = .ok y ∧ x.type.space = some spaceX ∧
      y.type.space = some spaceY ∧ spaceX ≠ spaceY ∧ x.type ≠ y.type := by
  have apart : Model.nameKey s.id ≠ Model.nameKey t.id :=
    fun same => distinct (Model.eq_of_nameKey found ownS ownT same)
  obtain ⟨x, y, spaceX, spaceY, first, second, inX, inY, differ⟩ :=
    exists_space base moduleS moduleT apart
  refine ⟨x, y, spaceX, spaceY, first, second, inX, inY, differ, fun same => differ ?_⟩
  rw [same, inY] at inX
  exact (Option.some.inj inX).symm

end BaseSymbols

/-- A structure without members. -/
def Shape.river (space name : String) : Shape :=
  ⟨⟨space, name⟩, .struct [], []⟩

/-- A service with the structures `ırmak`, `Irmak` and `Şehir`. The upper case of the dotless letter
is `I`, whose lower case has a dot. -/
def Model.rivers : Model where
  shapes := Shape.prelude ++ [
    ⟨⟨"test", "Service"⟩, .service [⟨"test", "Flow"⟩] [], []⟩,
    ⟨⟨"test", "Flow"⟩, .operation (some ⟨"test", "ırmak"⟩) (some ⟨"atlas", "Irmak"⟩)
      [⟨"test", "Şehir"⟩], []⟩,
    .river "test" "ırmak", .river "atlas" "Irmak", .river "test" "Şehir"]
  prelude_first := List.prefix_append _ _
  nodup := by decide +kernel
  closed := by decide +kernel
  unnested := by cbv

/-- What the service of `Model.rivers` leads to. -/
def Closure.rivers : Closure where
  root := ⟨"test", "Service"⟩
  ids := [⟨"test", "Service"⟩, ⟨"test", "Flow"⟩, ⟨"test", "ırmak"⟩, ⟨"atlas", "Irmak"⟩,
    ⟨"test", "Şehir"⟩]

theorem Model.serviceClosure_rivers :
    Model.rivers.serviceClosure ⟨"test", "Service"⟩ = .ok Closure.rivers := by
  cbv

theorem Closure.own_rivers {space name : String}
    (mem : (space, name) ∈ [("test", "ırmak"), ("atlas", "Irmak"), ("test", "Şehir")]) :
    Closure.rivers.Own Model.rivers (.river space name) := by
  simp only [List.mem_cons, Prod.mk.injEq, List.not_mem_nil, or_false] at mem
  rcases mem with ⟨rfl, rfl⟩ | ⟨rfl, rfl⟩ | ⟨rfl, rfl⟩
  all_goals exact ⟨by decide +kernel, Model.get?_of_mem (by simp [Model.rivers]), by decide +kernel⟩

theorem BaseSymbols.modules_distinct_rivers :
    Model.rivers.serviceClosure ⟨"test", "Service"⟩ = .ok Closure.rivers ∧
      Closure.rivers.Own Model.rivers (.river "test" "ırmak") ∧
      Closure.rivers.Own Model.rivers (.river "atlas" "Irmak") ∧
      (Shape.river "test" "ırmak").id ≠ (Shape.river "atlas" "Irmak").id ∧
      ∃ x y spaceX spaceY,
        (BaseSymbols.mk Model.rivers {}).unconstrainedSymbol (.river "test" "ırmak") = .ok x ∧
        (BaseSymbols.mk Model.rivers {}).unconstrainedSymbol (.river "atlas" "Irmak") = .ok y ∧
        x.type.space = some spaceX ∧ y.type.space = some spaceY ∧ spaceX ≠ spaceY ∧
        x.type ≠ y.type := by
  have first : Closure.rivers.Own Model.rivers (.river "test" "ırmak") :=
    Closure.own_rivers (by simp)
  have second : Closure.rivers.Own Model.rivers (.river "atlas" "Irmak") :=
    Closure.own_rivers (by simp)
  have distinct : (Shape.river "test" "ırmak").id ≠ (Shape.river "atlas" "Irmak").id := by
    decide +kernel
  exact ⟨Model.serviceClosure_rivers, first, second, distinct,
    modules_distinct Model.rivers ⟨"test", "Service"⟩ Closure.rivers Model.serviceClosure_rivers
      ⟨Model.rivers, {}⟩ _ _ first second rfl rfl distinct⟩

end ServerSymbols
