import ServerSymbols.Proofs.Symbol.Defined
import ServerSymbols.Proofs.Symbol.Outcome

set_option autoImplicit false

/-
Where the types of symbols are defined. A symbol has a file exactly if the generated library defines
its type for the shape, and the type tells it as well: the library and the runtime keep their types
in modules of different names.
-/
namespace ServerSymbols

/-- Shapes whose type is a built-in one or one of the runtime, checked or not. -/
def ShapeType.isStandard : ShapeType → Bool
  | primitive _ | intEnum => true
  | _ => false

theorem ShapeType.kinds_of_isStandard {type : ShapeType} (standard : type.isStandard = true) :
    type.isDefined = false ∧ type.hasModule = false ∧ type.isCollection = false ∧
      type ≠ .resource := by
  cases type with
  | primitive kind | intEnum => exact ⟨rfl, rfl, rfl, by simp⟩
  | _ => cases standard

theorem ShapeType.kinds_of_isCollection {type : ShapeType} (collection : type.isCollection = true) :
    type.isDefined = false ∧ type.hasModule = true := by
  cases type with
  | list | set | map => exact ⟨rfl, rfl⟩
  | _ => cases collection

theorem ShapeType.cases_of_not_isDefined {type : ShapeType} (foreign : type.isDefined = false) :
    type.isStandard = true ∨ type.isCollection = true ∨ type = .resource := by
  cases type with
  | primitive kind | intEnum => exact Or.inl rfl
  | list | set | map => exact Or.inr (Or.inl rfl)
  | resource => exact Or.inr (Or.inr rfl)
  | struct | union | enum | operation | service => cases foreign

/-- Types that the generated library defines. Builders apart they are told by their modules: the
names of the library's modules do not end in `s` as those of the runtime do. -/
def TypeExpr.isLocal : TypeExpr → Bool
  | named name (some space) => name == "Builder" || space.toList.getLast? != some 's'
  | _ => false

theorem TypeExpr.isLocal_named (name : String) {space : String}
    (last : space.toList.getLast? ≠ some 's') : (named name (some space)).isLocal = true := by
  rw [isLocal, Bool.or_eq_true, bne_iff_ne]
  exact Or.inr last

/-- Both the file and the type tell whether the generated library defines the type. -/
structure Symbol.Placed (x : Symbol) (isLocal : Bool) : Prop where
  file : x.file.isSome = isLocal
  type : x.type.isLocal = isLocal

theorem Symbol.Placed.file_eq_none_iff {x : Symbol} {isLocal : Bool} (placed : x.Placed isLocal) :
    x.file = none ↔ isLocal = false := by
  rw [← placed.file, Option.isSome_eq_false_iff, Option.isNone_iff_eq_none]

namespace BaseSymbols

theorem placed_definedSymbol (id : ShapeId) {space : String} (file : String)
    (last : space.toList.getLast? ≠ some 's') : (definedSymbol id space file).Placed true :=
  ⟨rfl, TypeExpr.isLocal_named _ last⟩

theorem placed_wrapperSymbol (id : ShapeId) : (wrapperSymbol id).Placed true := by
  have last : (wrapperSpace id).toList.getLast? ≠ some 's' := by
    unfold wrapperSpace
    generalize "crate::unconstrained::" ++ Identifier.snakeCase id.name = front
    simp
  exact ⟨rfl, TypeExpr.isLocal_named _ last⟩

theorem placed_builderSymbol (id : ShapeId) : (builderSymbol id).Placed true :=
  ⟨rfl, rfl⟩

theorem isLocal_primitiveType (runtime : RuntimeConfig) (kind : Primitive) :
    (primitiveType runtime kind).isLocal = false := by
  have last : runtime.dataModule.toList.getLast? = some 's' := by
    simp [RuntimeConfig.dataModule]
  cases kind <;> simp [primitiveType, TypeExpr.isLocal, last]

variable {b : BaseSymbols} {id : ShapeId} {shape : Shape} {x : Symbol}

theorem exists_get?_of_symbol (resolved : b.symbol id = .ok x) :
    ∃ shape, b.model.get? id = some shape := by
  cases look : b.model.get? id with
  | some shape => exact ⟨shape, rfl⟩
  | none =>
    rw [symbol_eq, look] at resolved
    cases resolved

/-- A base symbol has a file exactly if the shape gives its name to a type. -/
theorem placed_of_symbol (found : b.model.get? id = some shape) (resolved : b.symbol id = .ok x) :
    x.Placed shape.type.isDefined := by
  have equation := b.symbol_eq id
  rw [resolved, found] at equation
  dsimp only at equation
  unfold shapeSymbol at equation
  unfold Shape.type
  cases kind : shape.kind with
  | struct members | union members | enum variants | operation input output errors
  | service operations resources =>
    rw [kind] at equation
    cases equation
    exact placed_definedSymbol _ _ (by decide +kernel)
  | list member =>
    obtain ⟨item, _, rfl⟩ := symbol_sequence found (Or.inl kind) resolved
    exact ⟨rfl, rfl⟩
  | set member =>
    obtain ⟨item, _, rfl⟩ := symbol_sequence found (Or.inr kind) resolved
    exact ⟨rfl, rfl⟩
  | map key value =>
    obtain ⟨keys, values, _, _, rfl⟩ := symbol_map found kind resolved
    exact ⟨rfl, rfl⟩
  | primitive kind' =>
    rw [kind] at equation
    cases equation
    exact ⟨rfl, isLocal_primitiveType b.runtime kind'⟩
  | intEnum variants =>
    rw [kind] at equation
    cases equation
    exact ⟨rfl, isLocal_primitiveType b.runtime .integer⟩
  | resource identifiers operations resources =>
    rw [kind] at equation
    cases equation

theorem unconstrainedSymbol_of_isStandard (standard : shape.type.isStandard = true) :
    b.unconstrainedSymbol shape = (b.symbol shape.id).map (·.withKind .raw) := by
  unfold Shape.type at standard
  unfold unconstrainedSymbol
  cases kind : shape.kind with
  | primitive kind' | intEnum variants => rfl
  | _ =>
    rw [kind] at standard
    cases standard

/-- An unconstrained symbol has a file exactly if the shape has a module for its unchecked data. -/
theorem placed_of_unconstrainedSymbol (found : b.model.get? id = some shape)
    (resolved : b.unconstrainedSymbol shape = .ok x) : x.Placed shape.type.hasModule := by
  have raw (standard : shape.type.isStandard = true) : x.Placed false := by
    rw [unconstrainedSymbol_of_isStandard standard, Model.id_of_get? found] at resolved
    cases base : b.symbol id with
    | error reason =>
      rw [base] at resolved
      cases resolved
    | ok symbol =>
      rw [base] at resolved
      cases resolved
      have placed := placed_of_symbol found base
      rw [(ShapeType.kinds_of_isStandard standard).1] at placed
      exact ⟨placed.file, placed.type⟩
  unfold unconstrainedSymbol at resolved
  unfold Shape.type at raw ⊢
  cases kind : shape.kind with
  | struct members =>
    rw [kind] at resolved
    cases resolved
    exact placed_builderSymbol shape.id
  | union members | list member | set member | map key value =>
    rw [kind] at resolved
    cases resolved
    exact placed_wrapperSymbol shape.id
  | enum variants =>
    rw [kind] at resolved
    cases resolved
    exact ⟨rfl, rfl⟩
  | primitive kind' | intEnum variants =>
    rw [kind] at raw
    exact raw rfl
  | operation input output errors | resource identifiers operations resources
  | service operations resources =>
    rw [kind] at resolved
    cases resolved

end BaseSymbols

namespace Context

variable {c : Context} {id : ShapeId} {x y : Symbol}

/-- The symbol of the shape, with or without regard to constraints. -/
def Answers (c : Context) (id : ShapeId) (x : Symbol) : Prop :=
  c.base.symbol id = .ok x ∨ c.Resolves id (.ok x)

/-- The symbol of a run is one of the two that the shape has. -/
theorem plainSymbol_cases (resolved : c.resolver.plainSymbol id = .ok x) :
    c.base.symbol id = .ok x ∨
      ∃ shape, c.model.get? id = some shape ∧ c.base.unconstrainedSymbol shape = .ok x := by
  unfold Resolver.plainSymbol at resolved
  cases reached : c.resolver.analysis.plainReaches id with
  | error reason =>
    rw [reached] at resolved
    cases resolved
  | ok reaches =>
    rw [reached] at resolved
    cases reaches with
    | false => exact Or.inl resolved
    | true =>
      cases look : c.model.get? id with
      | none =>
        rw [expectShape_of_missing look] at resolved
        cases resolved
      | some shape =>
        rw [expectShape_of_get? look] at resolved
        exact Or.inr ⟨shape, rfl, resolved⟩

/-- Whatever a run answers with, the file and the type of the symbol are of one place. -/
theorem exists_placed (answers : c.Answers id x) : ∃ isLocal, x.Placed isLocal := by
  have ofBase (resolved : c.base.symbol id = .ok x) : ∃ isLocal, x.Placed isLocal := by
    obtain ⟨shape, look⟩ := BaseSymbols.exists_get?_of_symbol resolved
    exact ⟨_, BaseSymbols.placed_of_symbol look resolved⟩
  rcases answers with resolved | resolves
  · exact ofBase resolved
  · rcases plainSymbol_cases (resolves_iff.mp resolves) with resolved | ⟨shape, look, resolved⟩
    · exact ofBase resolved
    · exact ⟨_, BaseSymbols.placed_of_unconstrainedSymbol look resolved⟩

/-- No type that is defined elsewhere is one that the library defines for a shape. -/
theorem type_ne_of_file (first : c.Answers id x) (external : x.file = none) {other : ShapeId}
    (second : c.Answers other y) (generated : y.file ≠ none) : x.type ≠ y.type := by
  obtain ⟨placeX, placedX⟩ := exists_placed first
  obtain ⟨placeY, placedY⟩ := exists_placed second
  intro same
  have place : placeX = placeY := by rw [← placedX.type, ← placedY.type, same]
  exact generated (placedY.file_eq_none_iff.mpr (place ▸ placedX.file_eq_none_iff.mp external))

end Context

end ServerSymbols
