import ServerSymbols.Proofs.Symbol.Transparent

set_option autoImplicit false

/-
What a run can answer when it is asked for the symbol of a shape. There are five outcomes, and the
model decides which of them it is: names clash in the service, the shape is not part of it, the
shape reaches a constrained one, its collections end in a resource, or it has its base symbol.
-/
namespace ServerSymbols

theorem Shape.not_resource_of_collection {shape : Shape} (collection : shape.isCollection = true) :
    shape.type ≠ .resource := by
  intro resource
  unfold isCollection at collection
  rw [resource] at collection
  cases collection

namespace Model

variable {m : Model} {id resource : ShapeId} {shape : Shape}

def IsResource (m : Model) (id : ShapeId) : Prop :=
  ∃ shape, m.get? id = some shape ∧ shape.type = .resource

/-- The shape is this resource, or a collection from which a chain of members of collections leads
to it. -/
def EndsIn (m : Model) (id resource : ShapeId) : Prop :=
  Relation.ReflTransGen m.Holds id resource ∧ m.IsResource resource

theorem EndsIn.of_holds {target : ShapeId} (holds : m.Holds id target)
    (ends : m.EndsIn target resource) : m.EndsIn id resource :=
  ⟨Relation.ReflTransGen.head holds ends.1, ends.2⟩

/-- A chain from a shape that is no resource goes on from one of its targets. -/
theorem EndsIn.exists_target (found : m.get? id = some shape) (other : shape.type ≠ .resource)
    (ends : m.EndsIn id resource) :
    shape.isCollection = true ∧ ∃ target ∈ shape.targets, m.EndsIn target resource := by
  obtain ⟨chain, last⟩ := ends
  rcases Relation.ReflTransGen.cases_head chain with rfl | ⟨target, holds, onward⟩
  · obtain ⟨known, look, isResource⟩ := last
    rw [found] at look
    cases look
    exact absurd isResource other
  · obtain ⟨known, look, collection, listed⟩ := holds
    rw [found] at look
    cases look
    exact ⟨collection, target, listed, onward, last⟩

/-- Only data shapes reach a constrained shape. -/
theorem ReachesConstrained.isData (reaches : m.ReachesConstrained id) :
    ∃ shape, m.get? id = some shape ∧ shape.isData = true := by
  obtain ⟨last, path, shape, found, constrained⟩ := reaches
  rcases Relation.ReflTransGen.cases_head path with rfl | ⟨target, ⟨first, look, listed⟩, _⟩
  · exact ⟨shape, found, Shape.isData_of_isConstrained constrained⟩
  · exact ⟨first, look, Shape.isData_of_mem_targets listed⟩

end Model

namespace BaseSymbols

variable (b : BaseSymbols) {id : ShapeId} {shape : Shape}

theorem symbol_of_resource (found : b.model.get? id = some shape) (kind : shape.type = .resource) :
    b.symbol id = .error (.unhandledType id .resource) := by
  rw [symbol_eq, found, ← Model.id_of_get? found]
  dsimp only
  unfold Shape.type at kind
  unfold shapeSymbol Shape.type
  cases which : shape.kind with
  | resource identifiers operations resources => rfl
  | _ =>
    rw [which] at kind
    cases kind

/-- Shapes other than resources and collections have symbols, whatever their members are. -/
theorem symbol_of_simple (found : b.model.get? id = some shape)
    (simple : shape.isCollection = false) (other : shape.type ≠ .resource) :
    ∃ symbol, b.symbol id = .ok symbol ∧ symbol.kind = .domain := by
  rw [symbol_eq, found]
  dsimp only
  unfold Shape.isCollection Shape.type at simple
  unfold Shape.type at other
  unfold shapeSymbol
  cases which : shape.kind with
  | list member | set member | map key value =>
    rw [which] at simple
    cases simple
  | resource identifiers operations resources =>
    rw [which] at other
    exact absurd rfl other
  | _ => exact ⟨_, rfl, rfl⟩

/-- A base symbol is missing exactly if a chain of collections leads to a resource, and the error
names such a resource. -/
def Decided (b : BaseSymbols) (id : ShapeId) : Prop :=
  (∃ resource, b.model.EndsIn id resource ∧
    b.symbol id = .error (.unhandledType resource .resource)) ∨
  (¬ ∃ resource, b.model.EndsIn id resource) ∧
    ∃ symbol, b.symbol id = .ok symbol ∧ symbol.kind = .domain

theorem decided_of_sequence {member : Member} (found : b.model.get? id = some shape)
    (kind : shape.kind = .list member ∨ shape.kind = .set member)
    (inner : b.Decided member.target) : b.Decided id := by
  obtain ⟨collection, targets⟩ := Shape.collection_of_sequence kind
  have other := Shape.not_resource_of_collection collection
  have same := b.symbol_eq_sequence found kind
  have holds := Model.holds_of_sequence found kind
  rcases inner with ⟨resource, ends, failed⟩ | ⟨none_ends, item, resolved, _⟩
  · refine Or.inl ⟨resource, ends.of_holds holds, ?_⟩
    rw [same, failed]
    rfl
  · refine Or.inr ⟨fun ⟨resource, ends⟩ => ?_, { type := .vec item.type }, ?_, rfl⟩
    · obtain ⟨_, target, listed, onward⟩ := ends.exists_target found other
      rw [targets, List.mem_singleton] at listed
      exact none_ends ⟨resource, listed ▸ onward⟩
    · rw [same, resolved]
      rfl

/-- The key of a map is asked for before its value. -/
theorem decided_of_map {key value : Member} (found : b.model.get? id = some shape)
    (kind : shape.kind = .map key value) (keys : b.Decided key.target)
    (values : b.Decided value.target) : b.Decided id := by
  obtain ⟨collection, targets⟩ := Shape.collection_of_map kind
  have other := Shape.not_resource_of_collection collection
  have same := b.symbol_eq_map found kind
  obtain ⟨holdsKey, holdsValue⟩ := Model.holds_of_map found kind
  rcases keys with ⟨resource, ends, failed⟩ | ⟨none_key, keySymbol, resolvedKey, _⟩
  · refine Or.inl ⟨resource, ends.of_holds holdsKey, ?_⟩
    rw [same, failed]
    rfl
  rcases values with ⟨resource, ends, failed⟩ | ⟨none_value, valueSymbol, resolvedValue, _⟩
  · refine Or.inl ⟨resource, ends.of_holds holdsValue, ?_⟩
    rw [same, resolvedKey, failed]
    rfl
  · refine Or.inr ⟨fun ⟨resource, ends⟩ => ?_,
      { type := .map keySymbol.type valueSymbol.type }, ?_, rfl⟩
    · obtain ⟨_, target, listed, onward⟩ := ends.exists_target found other
      rw [targets, List.mem_pair] at listed
      rcases listed with rfl | rfl
      · exact none_key ⟨resource, onward⟩
      · exact none_value ⟨resource, onward⟩
    · rw [same, resolvedKey, resolvedValue]
      rfl

/-- The chains of collections of a model are finite, so each ends somewhere. -/
theorem decided (defined : ∃ shape, b.model.get? id = some shape) : b.Decided id := by
  induction id using b.model.holds_wellFounded.induction with
  | _ id ih =>
    obtain ⟨shape, found⟩ := defined
    have inner (target : ShapeId) (collection : shape.isCollection = true)
        (listed : target ∈ shape.targets) : b.Decided target :=
      ih target ⟨shape, found, collection, listed⟩
        (Model.exists_get?_of_ref found (ShapeKind.targets_subset_refs _ listed))
    cases collection : shape.isCollection with
    | true =>
      rcases Shape.kind_of_collection collection with ⟨member, kind⟩ | ⟨key, value, kind⟩
      · have targets := (Shape.collection_of_sequence kind).2
        exact b.decided_of_sequence found kind (inner _ collection (by simp [targets]))
      · have targets := (Shape.collection_of_map kind).2
        exact b.decided_of_map found kind (inner _ collection (by simp [targets]))
          (inner _ collection (by simp [targets]))
    | false =>
      by_cases kind : shape.type = .resource
      · have ends : b.model.EndsIn id id := ⟨Relation.ReflTransGen.refl, shape, found, kind⟩
        exact Or.inl ⟨id, ends, b.symbol_of_resource found kind⟩
      · refine Or.inr ⟨fun ⟨resource, ends⟩ => ?_, b.symbol_of_simple found collection kind⟩
        have nested := (ends.exists_target found kind).1
        rw [collection] at nested
        cases nested

/-- A data shape has an unconstrained symbol, which is one for data that is not checked yet. -/
theorem unconstrainedSymbol_of_isData (found : b.model.get? id = some shape)
    (data : shape.isData = true) :
    ∃ symbol, b.unconstrainedSymbol shape = .ok symbol ∧ symbol.kind ≠ .domain := by
  have raw (simple : shape.isCollection = false) (other : shape.type ≠ .resource) :
      ∃ symbol, (b.symbol shape.id).map (·.withKind .raw) = .ok symbol ∧ symbol.kind ≠ .domain := by
    obtain ⟨symbol, resolved, _⟩ := b.symbol_of_simple found simple other
    refine ⟨symbol.withKind .raw, ?_, by simp [Symbol.withKind]⟩
    rw [Model.id_of_get? found, resolved]
    rfl
  unfold Shape.isData at data
  unfold Shape.isCollection at raw
  unfold Shape.type at data raw
  unfold unconstrainedSymbol
  cases which : shape.kind with
  | list member | set member | map key value | union members =>
    exact ⟨_, rfl, by simp [wrapperSymbol]⟩
  | struct members => exact ⟨_, rfl, by simp [builderSymbol]⟩
  | enum variants => exact ⟨_, rfl, by simp⟩
  | primitive kind | intEnum variants =>
    rw [which] at raw
    exact raw rfl (by simp [ShapeKind.type])
  | operation input output errors | resource identifiers operations resources
  | service operations resources =>
    rw [which] at data
    cases data

end BaseSymbols

namespace Context

/-- A run starts for a service of the model only. -/
theorem service_of_make {m : Model} {s : Settings} {c : Context} (made : make m s = .ok c) :
    c = ⟨m, s⟩ ∧ ∃ shape, m.expectService s.service = .ok shape := by
  unfold make at made
  cases expected : m.expectService s.service with
  | error reason =>
    rw [expected] at made
    cases made
  | ok shape =>
    rw [expected] at made
    cases made
    exact ⟨rfl, shape, rfl⟩

variable {c : Context} {closure : Closure} {id : ShapeId}

theorem plainReaches_of_rejected {reason : ModelError}
    (rejected : c.model.serviceClosure c.settings.service = .error reason) (id : ShapeId) :
    c.analysis.plainReaches id = .error (.ofModel reason) := by
  unfold Analysis.plainReaches
  rw [compute_of_rejected rejected]
  rfl

theorem plainReaches_of_outside (found : c.model.serviceClosure c.settings.service = .ok closure)
    (outside : id ∉ closure.ids) : c.analysis.plainReaches id = .error (.unknownShape id) := by
  obtain ⟨result, computed, same, _⟩ := compute_of_accepted found
  have unknown : result.reaches? id = none := by
    rw [Reachability.reaches?_eq_none_iff, same]
    exact outside
  unfold Analysis.plainReaches
  rw [computed]
  simp only [bind, Except.bind, unknown]

theorem plainSymbol_of_error {reason : SymbolError}
    (unknown : c.analysis.plainReaches id = .error reason) :
    c.resolver.plainSymbol id = .error reason := by
  unfold Resolver.plainSymbol
  rw [show c.resolver.analysis.plainReaches id = .error reason from unknown]
  rfl

theorem plainSymbol_of_rejected {reason : ModelError}
    (rejected : c.model.serviceClosure c.settings.service = .error reason) (id : ShapeId) :
    c.resolver.plainSymbol id = .error (.ofModel reason) :=
  plainSymbol_of_error (plainReaches_of_rejected rejected id)

theorem plainSymbol_of_outside (found : c.model.serviceClosure c.settings.service = .ok closure)
    (outside : id ∉ closure.ids) : c.resolver.plainSymbol id = .error (.unknownShape id) :=
  plainSymbol_of_error (plainReaches_of_outside found outside)

theorem plainReaches_of_reaching
    (found : c.model.serviceClosure c.settings.service = .ok closure)
    (mem : id ∈ closure.ids) (reaches : c.model.ReachesConstrained id) :
    c.resolver.analysis.plainReaches id = .ok true := by
  obtain ⟨answer, reached, right⟩ := plainReaches_eq found mem
  exact right.mpr reaches ▸ reached

theorem expectShape_of_get? {shape : Shape} (look : c.model.get? id = some shape) :
    c.resolver.expectShape id = .ok shape := by
  unfold Resolver.expectShape
  rw [show c.resolver.base.model.get? id = some shape from look]

theorem expectShape_of_missing (missing : c.model.get? id = none) :
    c.resolver.expectShape id = .error (.unknownShape id) := by
  unfold Resolver.expectShape
  rw [show c.resolver.base.model.get? id = none from missing]

theorem plainSymbol_eq_unconstrained {shape : Shape}
    (found : c.model.serviceClosure c.settings.service = .ok closure) (mem : id ∈ closure.ids)
    (look : c.model.get? id = some shape) (reaches : c.model.ReachesConstrained id) :
    c.resolver.plainSymbol id = c.base.unconstrainedSymbol shape := by
  unfold Resolver.plainSymbol
  rw [plainReaches_of_reaching found mem reaches]
  simp only [bind, Except.bind, ↓reduceIte, expectShape_of_get? look]
  rfl

theorem plainSymbol_of_reaching (found : c.model.serviceClosure c.settings.service = .ok closure)
    (mem : id ∈ closure.ids) (reaches : c.model.ReachesConstrained id) :
    ∃ symbol, c.resolver.plainSymbol id = .ok symbol ∧ symbol.kind ≠ .domain := by
  obtain ⟨shape, look, data⟩ := reaches.isData
  rw [plainSymbol_eq_unconstrained found mem look reaches]
  exact c.base.unconstrainedSymbol_of_isData look data

/-- A run that has started answers in one of five ways, whatever it was asked before. If names clash
in the service, this is the answer for every shape. Else a shape that is not part of the service is
unknown; a shape that reaches a constrained one has a symbol for data that is not checked yet; a
shape whose collections lead to a resource has no symbol, as the answer names such a resource; and
every other shape has a symbol for valid data. -/
theorem symbol_outcome (m : Model) (s : Settings) (c : Context) (made : make m s = .ok c) :
    (∃ first second, m.serviceClosure s.service = .error (.conflictingNames first second) ∧
      ∀ id, c.Resolves id (.error (.model (.conflictingNames first second)))) ∨
    ∃ closure, m.serviceClosure s.service = .ok closure ∧ ∀ id,
      (id ∉ closure.ids ∧ c.Resolves id (.error (.unknownShape id))) ∨
      (id ∈ closure.ids ∧ m.ReachesConstrained id ∧
        ∃ symbol, c.Resolves id (.ok symbol) ∧ symbol.kind ≠ .domain) ∨
      (id ∈ closure.ids ∧ ¬ m.ReachesConstrained id ∧
        ∃ resource, m.EndsIn id resource ∧
          c.Resolves id (.error (.unhandledType resource .resource))) ∨
      (id ∈ closure.ids ∧ ¬ m.ReachesConstrained id ∧ (¬ ∃ resource, m.EndsIn id resource) ∧
        ∃ symbol, c.Resolves id (.ok symbol) ∧ symbol.kind = .domain) := by
  obtain ⟨rfl, shape, expected⟩ := service_of_make made
  have answers (id : ShapeId) := (Context.mk m s).resolves_plainSymbol id
  rcases Model.serviceClosure_cases expected with ⟨closure, found⟩ | ⟨first, second, rejected⟩
  · refine Or.inr ⟨closure, found, fun id => ?_⟩
    by_cases mem : id ∈ closure.ids
    · by_cases reaches : m.ReachesConstrained id
      · obtain ⟨symbol, resolved, unchecked⟩ :=
          plainSymbol_of_reaching (c := ⟨m, s⟩) found mem reaches
        exact Or.inr (Or.inl ⟨mem, reaches, symbol, resolved ▸ answers id, unchecked⟩)
      · have base := resolves_base (c := ⟨m, s⟩) found mem reaches
        obtain ⟨known, look, _⟩ := (Model.serviceClosure_closed found).refs id mem
        rcases (Context.mk m s).base.decided ⟨known, look⟩ with
          ⟨resource, ends, failed⟩ | ⟨none_ends, symbol, resolved, valid⟩
        · exact Or.inr (Or.inr (Or.inl ⟨mem, reaches, resource, ends, failed ▸ base⟩))
        · exact Or.inr (Or.inr (Or.inr ⟨mem, reaches, none_ends, symbol, resolved ▸ base, valid⟩))
    · exact Or.inl ⟨mem, plainSymbol_of_outside (c := ⟨m, s⟩) found mem ▸ answers id⟩
  · refine Or.inl ⟨first, second, rejected, fun id => ?_⟩
    exact plainSymbol_of_rejected (c := ⟨m, s⟩) rejected id ▸ answers id

/-- A run for a service with a map of lists of a resource. -/
def library : Context where
  model := {
    shapes := Shape.prelude ++ [
      ⟨⟨"test", "Library"⟩, .service [⟨"test", "Lend"⟩] [⟨"test", "Book"⟩], []⟩,
      ⟨⟨"test", "Book"⟩, .resource [] [] [], []⟩,
      ⟨⟨"test", "Lend"⟩, .operation (some ⟨"test", "Loan"⟩) none [], []⟩,
      ⟨⟨"test", "Loan"⟩, .struct [⟨"shelves", ⟨"test", "Shelves"⟩, []⟩,
        ⟨"due", .prelude "String", [.required]⟩], []⟩,
      .ofMap ⟨"test", "Shelves"⟩ (.prelude "String") ⟨"test", "Books"⟩,
      .ofList ⟨"test", "Books"⟩ ⟨"test", "Book"⟩]
    prelude_first := List.prefix_append _ _
    nodup := by decide +kernel
    closed := by decide +kernel
    unnested := by cbv }
  settings := .forService ⟨"test", "Library"⟩ "library"

theorem symbol_outcome_library :
    make library.model library.settings = .ok library ∧
      ((∃ first second, library.model.serviceClosure library.settings.service =
          .error (.conflictingNames first second) ∧
        ∀ id, library.Resolves id (.error (.model (.conflictingNames first second)))) ∨
      ∃ closure, library.model.serviceClosure library.settings.service = .ok closure ∧ ∀ id,
        (id ∉ closure.ids ∧ library.Resolves id (.error (.unknownShape id))) ∨
        (id ∈ closure.ids ∧ library.model.ReachesConstrained id ∧
          ∃ symbol, library.Resolves id (.ok symbol) ∧ symbol.kind ≠ .domain) ∨
        (id ∈ closure.ids ∧ ¬ library.model.ReachesConstrained id ∧
          ∃ resource, library.model.EndsIn id resource ∧
            library.Resolves id (.error (.unhandledType resource .resource))) ∨
        (id ∈ closure.ids ∧ ¬ library.model.ReachesConstrained id ∧
          (¬ ∃ resource, library.model.EndsIn id resource) ∧
          ∃ symbol, library.Resolves id (.ok symbol) ∧ symbol.kind = .domain)) := by
  have made : make library.model library.settings = .ok library := by cbv
  exact ⟨made, symbol_outcome library.model library.settings library made⟩

end Context

end ServerSymbols
