import ServerSymbols.Proofs.Symbol.Placed

set_option autoImplicit false

/-
Shapes that the check for clashing names leaves out: those of the prelude's namespace. The
primitives that every model has do not need it, as no type is generated for them. A model may add
other shapes to the namespace, and which of these need no type of their own is a matter of their
kinds and members.
-/
namespace ServerSymbols

/-- A shape of the closure whose name may be that of another one. -/
structure Closure.Exempt (m : Model) (c : Closure) (shape : Shape) : Prop where
  listed : shape.id ∈ c.ids
  found : m.get? shape.id = some shape
  exempt : shape.id.isPrelude = true

/-- The primitives that every model has are among its exempt shapes. -/
theorem Closure.exempt_of_prelude {m : Model} {c : Closure} {shape : Shape}
    (builtin : shape ∈ Shape.prelude) (listed : shape.id ∈ c.ids) : c.Exempt m shape where
  listed := listed
  found := Model.get?_of_mem (m.prelude_first.subset builtin)
  exempt := by
    obtain ⟨kind, _, rfl⟩ := List.mem_map.mp builtin
    exact beq_self_eq_true _

/-- Only shapes that lead to no resource have symbols. -/
theorem BaseSymbols.not_endsIn_of_symbol {b : BaseSymbols} {id : ShapeId} {x : Symbol}
    (resolved : b.symbol id = .ok x) : ¬ ∃ resource, b.model.EndsIn id resource := by
  obtain ⟨shape, found⟩ := exists_get?_of_symbol resolved
  rcases b.decided ⟨shape, found⟩ with ⟨resource, _, failed⟩ | ⟨none_ends, _⟩
  · rw [resolved] at failed
    cases failed
  · exact none_ends

/-- The generated library defines no type for the shape: it is standard, or a collection that
reaches no constrained shape and is built from shapes that have symbols. -/
def Model.Foreign (m : Model) (shape : Shape) : Prop :=
  shape.type.isStandard = true ∨
    shape.isCollection = true ∧ ¬ m.ReachesConstrained shape.id ∧
      ¬ ∃ resource, m.EndsIn shape.id resource

namespace Context

variable {c : Context} {closure : Closure} {shape : Shape} {id : ShapeId} {x y : Symbol}

/-- The shape has symbols, with and without regard to constraints, and neither has a file. -/
def External (c : Context) (id : ShapeId) : Prop :=
  ∃ x y, c.base.symbol id = .ok x ∧ c.Resolves id (.ok y) ∧ x.file = none ∧ y.file = none

theorem external_of_isStandard (found : c.model.serviceClosure c.settings.service = .ok closure)
    (listed : shape.id ∈ closure.ids) (look : c.model.get? shape.id = some shape)
    (standard : shape.type.isStandard = true) : c.External shape.id := by
  obtain ⟨isDefined, hasModule, simple, other⟩ := ShapeType.kinds_of_isStandard standard
  obtain ⟨x, resolved, _⟩ := c.base.symbol_of_simple look simple other
  have placed := BaseSymbols.placed_of_symbol look resolved
  rw [isDefined] at placed
  have external := placed.file_eq_none_iff.mpr rfl
  by_cases reaches : c.model.ReachesConstrained shape.id
  · have raw := plainSymbol_eq_unconstrained found listed look reaches
    rw [BaseSymbols.unconstrainedSymbol_of_isStandard standard, resolved] at raw
    exact ⟨x, x.withKind .raw, resolved, resolves_iff.mpr raw, external, external⟩
  · exact ⟨x, x, resolved, resolved ▸ resolves_base found listed reaches, external, external⟩

theorem external_of_collection (found : c.model.serviceClosure c.settings.service = .ok closure)
    (listed : shape.id ∈ closure.ids) (look : c.model.get? shape.id = some shape)
    (collection : shape.isCollection = true) (free : ¬ c.model.ReachesConstrained shape.id)
    (ends : ¬ ∃ resource, c.model.EndsIn shape.id resource) : c.External shape.id := by
  rcases c.base.decided ⟨shape, look⟩ with ⟨resource, ends', _⟩ | ⟨_, x, resolved, _⟩
  · exact absurd ⟨resource, ends'⟩ ends
  · have placed := BaseSymbols.placed_of_symbol look resolved
    rw [(ShapeType.kinds_of_isCollection collection).1] at placed
    have external := placed.file_eq_none_iff.mpr rfl
    exact ⟨x, x, resolved, resolved ▸ resolves_base found listed free, external, external⟩

/-- Of the shapes of a service, exactly the foreign ones have symbols without a file. -/
theorem external_iff (found : c.model.serviceClosure c.settings.service = .ok closure)
    (listed : shape.id ∈ closure.ids) (look : c.model.get? shape.id = some shape) :
    c.External shape.id ↔ c.model.Foreign shape := by
  constructor
  · rintro ⟨x, y, resolved, resolves, externalX, externalY⟩
    have foreign : shape.type.isDefined = false :=
      (BaseSymbols.placed_of_symbol look resolved).file_eq_none_iff.mp externalX
    rcases ShapeType.cases_of_not_isDefined foreign with standard | collection | resource
    · exact Or.inl standard
    · refine Or.inr ⟨collection, fun reaches => ?_, BaseSymbols.not_endsIn_of_symbol resolved⟩
      have unchecked := plainSymbol_eq_unconstrained found listed look reaches
      rw [resolves_iff.mp resolves] at unchecked
      have placed := BaseSymbols.placed_of_unconstrainedSymbol look unchecked.symm
      have noModule := placed.file_eq_none_iff.mp externalY
      rw [(ShapeType.kinds_of_isCollection collection).2] at noModule
      cases noModule
    · have failed := c.base.symbol_of_resource look resource
      rw [resolved] at failed
      cases failed
  · rintro (standard | ⟨collection, free, ends⟩)
    · exact external_of_isStandard found listed look standard
    · exact external_of_collection found listed look collection free ends

/-- Either symbol of the shape is one without a file. -/
theorem External.file_eq_none (external : c.External id) (answers : c.Answers id x) :
    x.file = none := by
  obtain ⟨first, second, resolved, resolves, noFile, noFile'⟩ := external
  rcases answers with resolved' | resolves'
  · rw [resolved] at resolved'
    cases resolved'
    exact noFile
  · have same := (resolves_iff.mp resolves').symm.trans (resolves_iff.mp resolves)
    cases same
    exact noFile'

/-- A shape that the check leaves out of an accepted service has symbols without a file, with and
without regard to constraints, exactly if it is foreign, as the primitives that every model has are.
Then its types are none of those that the library defines for shapes. -/
theorem exempt_external (c : Context) (closure : Closure)
    (found : c.model.serviceClosure c.settings.service = .ok closure) :
    (∀ shape, closure.Exempt c.model shape →
      (c.External shape.id ↔ c.model.Foreign shape) ∧
      (c.External shape.id → ∀ other x y, c.Answers shape.id x → c.Answers other y →
        y.file ≠ none → x.type ≠ y.type)) ∧
    ∀ shape ∈ Shape.prelude, shape.id ∈ closure.ids →
      closure.Exempt c.model shape ∧ c.External shape.id := by
  refine ⟨fun shape exempt => ⟨external_iff found exempt.listed exempt.found, ?_⟩, ?_⟩
  · intro external other x y first second generated
    exact type_ne_of_file first (external.file_eq_none first) second generated
  · intro shape builtin listed
    have exempt := Closure.exempt_of_prelude (m := c.model) builtin listed
    obtain ⟨kind, _, rfl⟩ := List.mem_map.mp builtin
    exact ⟨exempt, external_of_isStandard found listed exempt.found rfl⟩

/-- A run for a service with a structure and a list in the namespace of the prelude. -/
def journal : Context where
  model := {
    shapes := Shape.prelude ++ [
      ⟨⟨"test", "Journal"⟩, .service [⟨"test", "Write"⟩] [], []⟩,
      ⟨⟨"test", "Write"⟩, .operation (some ⟨"test", "Note"⟩) (some (.prelude "Note")) [], []⟩,
      ⟨⟨"test", "Note"⟩, .struct [⟨"lines", .prelude "Lines", []⟩], []⟩,
      ⟨.prelude "Note", .struct [], []⟩,
      .ofList (.prelude "Lines") (.prelude "String")]
    prelude_first := List.prefix_append _ _
    nodup := by decide +kernel
    closed := by decide +kernel
    unnested := by cbv }
  settings := .forService ⟨"test", "Journal"⟩ "journal"

/-- What the service of `journal` leads to. -/
def journalClosure : Closure where
  root := ⟨"test", "Journal"⟩
  ids := [⟨"test", "Journal"⟩, ⟨"test", "Write"⟩, ⟨"test", "Note"⟩, .prelude "Lines",
    .prelude "String", .prelude "Note"]

theorem serviceClosure_journal :
    journal.model.serviceClosure journal.settings.service = .ok journalClosure := by cbv

/-- Nothing of the journal is constrained. -/
theorem not_reachesConstrained_journal (id : ShapeId) (mem : id ∈ journalClosure.ids) :
    ¬ journal.model.ReachesConstrained id := by
  apply Model.not_reachesConstrained journalClosure.ids
  · decide +kernel
  · exact mem

theorem exempt_external_journal :
    journal.model.serviceClosure journal.settings.service = .ok journalClosure ∧
      journalClosure.Exempt journal.model (.ofList (.prelude "Lines") (.prelude "String")) ∧
      journal.model.Foreign (.ofList (.prelude "Lines") (.prelude "String")) ∧
      journal.External (.prelude "Lines") ∧
      (∀ other x y, journal.Answers (.prelude "Lines") x → journal.Answers other y →
        y.file ≠ none → x.type ≠ y.type) ∧
      journal.External (.prelude "String") := by
  have exempt : journalClosure.Exempt journal.model
      (.ofList (.prelude "Lines") (.prelude "String")) :=
    ⟨by decide +kernel, Model.get?_of_mem (by simp [journal]), by decide +kernel⟩
  obtain ⟨others, builtins⟩ := exempt_external journal journalClosure serviceClosure_journal
  obtain ⟨same, apart⟩ := others _ exempt
  have string : ⟨.prelude "String", .primitive .string, []⟩ ∈ Shape.prelude := by
    simp [Shape.prelude, Primitive.all, Primitive.shapeName]
  have foreign : journal.model.Foreign (.ofList (.prelude "Lines") (.prelude "String")) := by
    have resolved : journal.base.symbol (.prelude "Lines") = .ok { type := .vec .string } := by cbv
    exact Or.inr ⟨rfl, not_reachesConstrained_journal _ exempt.listed,
      BaseSymbols.not_endsIn_of_symbol resolved⟩
  have external := same.mpr foreign
  exact ⟨serviceClosure_journal, exempt, foreign, external, apart external,
    (builtins _ string (by decide +kernel)).2⟩

/-- The structure that `journal` adds to the namespace of the prelude is left out of the check, and
is of the same type as the structure `Note` of the service. -/
theorem exempt_clash_journal :
    journal.model.serviceClosure journal.settings.service = .ok journalClosure ∧
      journalClosure.Exempt journal.model ⟨.prelude "Note", .struct [], []⟩ ∧
      ⟨"test", "Note"⟩ ∈ journalClosure.ids ∧
      ¬ journal.External (.prelude "Note") ∧
      ∃ x, x.file = some "src/model.rs" ∧
        journal.base.symbol (.prelude "Note") = .ok x ∧
        journal.Resolves (.prelude "Note") (.ok x) ∧
        journal.base.symbol ⟨"test", "Note"⟩ = .ok x ∧
        journal.Resolves ⟨"test", "Note"⟩ (.ok x) := by
  have exempt : journalClosure.Exempt journal.model ⟨.prelude "Note", .struct [], []⟩ :=
    ⟨by decide +kernel, Model.get?_of_mem (by simp [journal]), by decide +kernel⟩
  have listed : ⟨"test", "Note"⟩ ∈ journalClosure.ids := by decide +kernel
  have first : journal.base.symbol (.prelude "Note") =
      .ok { type := .named "Note" modelModule, file := modelFile } := by cbv
  have second : journal.base.symbol ⟨"test", "Note"⟩ =
      .ok { type := .named "Note" modelModule, file := modelFile } := by cbv
  refine ⟨serviceClosure_journal, exempt, listed, fun external => ?_, _, rfl, first, ?_, second, ?_⟩
  · have noFile := external.file_eq_none (Or.inl first)
    cases noFile
  · exact first ▸ resolves_base serviceClosure_journal exempt.listed
      (not_reachesConstrained_journal _ exempt.listed)
  · exact second ▸ resolves_base serviceClosure_journal listed
      (not_reachesConstrained_journal _ listed)

end Context

end ServerSymbols
