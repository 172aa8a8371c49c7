import ServerSymbols.Proofs.Table.Content

set_option autoImplicit false

/-
Why a table cannot be made. A row fails only if a chain of collections leads from its shape to a
resource, and the last collection of this chain has a row of its own, which fails in any case. So
of an accepted service it is the collections right before a resource that decide.
-/
namespace ServerSymbols

/-- A member of the collection, or its key or value, has this resource as its target. -/
def Model.HoldsResource (m : Model) (id resource : ShapeId) : Prop :=
  m.Holds id resource ∧ m.IsResource resource

/-- Some collection of the closure holds a resource itself. -/
def Closure.Blocked (closure : Closure) (m : Model) : Prop :=
  ∃ id ∈ closure.ids, ∃ resource, m.HoldsResource id resource

theorem Model.HoldsResource.endsIn {m : Model} {id resource : ShapeId}
    (holds : m.HoldsResource id resource) : m.EndsIn id resource :=
  ⟨Relation.ReflTransGen.single holds.1, holds.2⟩

/-- The last collection of a chain that starts at no resource holds the resource itself. -/
theorem Model.EndsIn.exists_last {m : Model} {id resource : ShapeId} {shape : Shape}
    (ends : m.EndsIn id resource) (look : m.get? id = some shape)
    (other : shape.type ≠ .resource) :
    ∃ last, Relation.ReflTransGen m.Holds id last ∧ m.HoldsResource last resource := by
  obtain ⟨chain, isResource⟩ := ends
  rcases Relation.ReflTransGen.cases_tail chain with rfl | ⟨last, front, holds⟩
  · obtain ⟨known, same, kind⟩ := isResource
    rw [look] at same
    cases same
    exact absurd kind other
  · exact ⟨last, front, holds, isResource⟩

theorem Shape.not_resource_of_isData {shape : Shape} (data : shape.isData = true) :
    shape.type ≠ .resource := by
  intro resource
  unfold isData at data
  rw [resource] at data
  cases data

theorem Shape.isData_of_isCollection {shape : Shape} (collection : shape.isCollection = true) :
    shape.isData = true := by
  rcases kind_of_collection collection with ⟨member, kind | kind⟩ | ⟨key, value, kind⟩ <;>
    simp only [isData, type, kind, ShapeKind.type, ShapeType.isData]

/-! ### Wrappers -/

namespace Shape

variable {symbolOf : ShapeId → Except SymbolError Symbol} {shape : Shape} {reason : SymbolError}

theorem held_of_sequence {member : Member}
    (kind : shape.kind = .list member ∨ shape.kind = .set member) :
    shape.held symbolOf = (symbolOf member.target).map fun item => some (.vec item.type) := by
  unfold held
  rcases kind with kind | kind <;> rw [kind] <;> dsimp only <;> cases symbolOf member.target <;> rfl

theorem held_of_map {key value : Member} (kind : shape.kind = .map key value) :
    shape.held symbolOf = (symbolOf key.target).bind fun keys =>
      (symbolOf value.target).map fun values => some (.map keys.type values.type) := by
  unfold held
  rw [kind]
  dsimp only
  cases symbolOf key.target with
  | error reason => rfl
  | ok keys => cases symbolOf value.target <;> rfl

/-- What a wrapper holds is missing only because the symbol of a target is. -/
theorem exists_target_of_held (failed : shape.held symbolOf = .error reason) :
    shape.isCollection = true ∧ ∃ target ∈ shape.targets, symbolOf target = .error reason := by
  cases collection : shape.isCollection with
  | false =>
    unfold isCollection type at collection
    unfold held at failed
    cases kind : shape.kind with
    | list member | set member | map key value =>
      rw [kind] at collection
      cases collection
    | _ =>
      rw [kind] at failed
      cases failed
  | true =>
    refine ⟨rfl, ?_⟩
    rcases kind_of_collection collection with ⟨member, kind⟩ | ⟨key, value, kind⟩
    · rw [held_of_sequence kind] at failed
      rw [(collection_of_sequence kind).2]
      cases item : symbolOf member.target with
      | ok symbol =>
        rw [item] at failed
        cases failed
      | error other =>
        rw [item] at failed
        cases failed
        exact ⟨_, List.mem_cons_self, item⟩
    · rw [held_of_map kind] at failed
      rw [(collection_of_map kind).2]
      cases keys : symbolOf key.target with
      | error other =>
        rw [keys] at failed
        cases failed
        exact ⟨_, List.mem_cons_self, keys⟩
      | ok keySymbol =>
        cases values : symbolOf value.target with
        | ok valueSymbol =>
          rw [keys, values] at failed
          cases failed
        | error other =>
          rw [keys, values] at failed
          cases failed
          exact ⟨_, List.mem_cons_of_mem _ List.mem_cons_self, values⟩

/-- A target without a symbol leaves the wrapper without contents. -/
theorem exists_error_of_target {target : ShapeId} (collection : shape.isCollection = true)
    (listed : target ∈ shape.targets) (failed : symbolOf target = .error reason) :
    ∃ other, shape.held symbolOf = .error other := by
  rcases kind_of_collection collection with ⟨member, kind⟩ | ⟨key, value, kind⟩
  · rw [(collection_of_sequence kind).2, List.mem_singleton] at listed
    rw [held_of_sequence kind, ← listed, failed]
    exact ⟨reason, rfl⟩
  · rw [(collection_of_map kind).2, List.mem_pair] at listed
    rw [held_of_map kind]
    cases keys : symbolOf key.target with
    | error other => exact ⟨other, rfl⟩
    | ok keySymbol =>
      rcases listed with rfl | rfl
      · rw [failed] at keys
        cases keys
      · rw [failed]
        exact ⟨reason, rfl⟩

end Shape

/-! ### Symbols -/

namespace Context

variable {c : Context} {closure : Closure} {id resource : ShapeId} {shape : Shape}
variable (found : c.model.serviceClosure c.settings.service = .ok closure)
include found

/-- Of the shapes of an accepted service, those without a symbol end in the resource that the error
names. -/
theorem endsIn_of_plainSymbol {reason : SymbolError} (mem : id ∈ closure.ids)
    (failed : c.resolver.plainSymbol id = .error reason) :
    ∃ resource, c.model.EndsIn id resource ∧ reason = .unhandledType resource .resource := by
  by_cases reaches : c.model.ReachesConstrained id
  · obtain ⟨symbol, resolved, _⟩ := plainSymbol_of_reaching found mem reaches
    rw [resolved] at failed
    cases failed
  · obtain ⟨shape, look, _⟩ := (Model.serviceClosure_closed found).refs id mem
    rw [plainSymbol_eq_base found mem reaches] at failed
    rcases c.base.decided ⟨shape, look⟩ with ⟨resource, ends, unhandled⟩ | ⟨_, symbol, resolved, _⟩
    · rw [unhandled] at failed
      cases failed
      exact ⟨resource, ends, rfl⟩
    · rw [resolved] at failed
      cases failed

theorem plainSymbol_of_endsIn (mem : id ∈ closure.ids) (free : ¬ c.model.ReachesConstrained id)
    (ends : c.model.EndsIn id resource) : ∃ reason, c.resolver.plainSymbol id = .error reason := by
  obtain ⟨shape, look, _⟩ := (Model.serviceClosure_closed found).refs id mem
  rw [plainSymbol_eq_base found mem free]
  rcases c.base.decided ⟨shape, look⟩ with ⟨_, _, unhandled⟩ | ⟨none_ends, _⟩
  · exact ⟨_, unhandled⟩
  · exact absurd ⟨resource, ends⟩ none_ends

/-- A resource describes no data, so it reaches nothing and has no symbol at all. -/
theorem plainSymbol_of_resource (mem : id ∈ closure.ids) (isResource : c.model.IsResource id) :
    ∃ reason, c.resolver.plainSymbol id = .error reason := by
  have free : ¬ c.model.ReachesConstrained id := by
    intro reaches
    obtain ⟨shape, look, data⟩ := reaches.isData
    obtain ⟨other, same, kind⟩ := isResource
    rw [look] at same
    cases same
    exact Shape.not_resource_of_isData data kind
  exact plainSymbol_of_endsIn found mem free ⟨Relation.ReflTransGen.refl, isResource⟩

theorem plainWrapped_of_reaching (mem : id ∈ closure.ids) (look : c.model.get? id = some shape)
    (reaches : c.model.ReachesConstrained id) :
    c.resolver.plainWrapped id = shape.held c.resolver.plainSymbol := by
  rw [Resolver.plainWrapped_eq, plainReaches_of_reaching found mem reaches,
    expectShape_of_get? look]
  rfl

theorem endsIn_of_plainWrapped {reason : SymbolError} (mem : id ∈ closure.ids)
    (failed : c.resolver.plainWrapped id = .error reason) :
    ∃ resource, c.model.EndsIn id resource ∧ reason = .unhandledType resource .resource := by
  have closed := Model.serviceClosure_closed found
  obtain ⟨shape, look, _⟩ := closed.refs id mem
  by_cases reaches : c.model.ReachesConstrained id
  · rw [plainWrapped_of_reaching found mem look reaches] at failed
    obtain ⟨collection, target, listed, missing⟩ := Shape.exists_target_of_held failed
    have holds : c.model.Holds id target := ⟨shape, look, collection, listed⟩
    obtain ⟨resource, ends, same⟩ :=
      endsIn_of_plainSymbol found (closed.step mem holds.step) missing
    exact ⟨resource, ends.of_holds holds, same⟩
  · rw [plainWrapped_of_free (plainReaches_of_free found mem reaches)] at failed
    cases failed

end Context

/-! ### Rows -/

namespace Table

/-- What went wrong, whatever was tried. -/
def RowError.cause : RowError → SymbolError
  | symbol error => error
  | unresolved _ error => error

variable {c : Context} {closure : Closure} {r : Reachability} {shape : Shape} {reason : RowError}

section Row

variable (found : c.model.serviceClosure c.settings.service = .ok closure)
variable (mem : shape.id ∈ closure.ids)
include found mem

theorem endsIn_of_plainRow? (failed : plainRow? c.resolver r false shape = .error reason) :
    ∃ resource, c.model.EndsIn shape.id resource ∧
      reason.cause = .unhandledType resource .resource := by
  unfold plainRow? at failed
  cases resolved : c.resolver.plainSymbol shape.id with
  | error missing =>
    rw [resolved] at failed
    cases failed
    exact Context.endsIn_of_plainSymbol found mem resolved
  | ok symbol =>
    cases wrapped : c.resolver.plainWrapped shape.id with
    | error missing =>
      rw [resolved, wrapped] at failed
      cases failed
      exact Context.endsIn_of_plainWrapped found mem wrapped
    | ok held =>
      rw [resolved, wrapped] at failed
      cases failed

/-- A collection that holds a resource has no row: if it reaches no constrained shape, it has no
symbol; if it does, its wrapper has no contents. -/
theorem plainRow?_of_holdsResource {resource : ShapeId}
    (look : c.model.get? shape.id = some shape) (holds : c.model.HoldsResource shape.id resource) :
    ∃ reason, plainRow? c.resolver r false shape = .error reason := by
  unfold plainRow?
  by_cases reaches : c.model.ReachesConstrained shape.id
  · obtain ⟨symbol, resolved, _⟩ := Context.plainSymbol_of_reaching found mem reaches
    obtain ⟨⟨known, same, collection, listed⟩, isResource⟩ := id holds
    rw [look] at same
    cases same
    have inside := (Model.serviceClosure_closed found).step mem holds.1.step
    obtain ⟨missing, failed⟩ := Context.plainSymbol_of_resource found inside isResource
    obtain ⟨other, held⟩ := Shape.exists_error_of_target collection listed failed
    rw [resolved, Context.plainWrapped_of_reaching found mem look reaches, held]
    exact ⟨_, rfl⟩
  · obtain ⟨missing, failed⟩ := Context.plainSymbol_of_endsIn found mem reaches holds.endsIn
    rw [failed]
    exact ⟨_, rfl⟩

end Row

/-! ### Tables -/

/-- Rows that cannot be made are those of a data shape whose row cannot be made. -/
theorem exists_row_of_plainRowsOf {ids : List ShapeId}
    (defined : ∀ id ∈ ids, ∃ shape, c.model.get? id = some shape)
    (failed : plainRowsOf c r false ids = .error reason) :
    ∃ id ∈ ids, ∃ shape, c.model.get? id = some shape ∧ shape.isData = true ∧
      plainRow? c.resolver r false shape = .error reason := by
  induction ids with
  | nil => cases failed
  | cons id rest ih =>
    obtain ⟨shape, look⟩ := defined id List.mem_cons_self
    have later (failed : plainRowsOf c r false rest = .error reason) :
        ∃ other ∈ id :: rest, ∃ shape, c.model.get? other = some shape ∧ shape.isData = true ∧
          plainRow? c.resolver r false shape = .error reason := by
      obtain ⟨other, mem, row⟩ := ih (fun v mem => defined v (List.mem_cons_of_mem _ mem)) failed
      exact ⟨other, List.mem_cons_of_mem _ mem, row⟩
    cases data : shape.isData with
    | false =>
      rw [plainRowsOf_of_other r false rest look data] at failed
      exact later failed
    | true =>
      rw [plainRowsOf_of_data r false rest look data] at failed
      cases first : plainRow? c.resolver r false shape with
      | error other =>
        rw [first] at failed
        cases failed
        exact ⟨id, List.mem_cons_self, shape, look, data, first⟩
      | ok row =>
        cases others : plainRowsOf c r false rest with
        | error other =>
          rw [first, others] at failed
          cases failed
          exact later others
        | ok rows =>
          rw [first, others] at failed
          cases failed

/-- One row that cannot be made is enough. -/
theorem plainRowsOf_of_row {ids : List ShapeId} {id : ShapeId}
    (defined : ∀ id ∈ ids, ∃ shape, c.model.get? id = some shape) (mem : id ∈ ids)
    (look : c.model.get? id = some shape) (data : shape.isData = true)
    (failed : plainRow? c.resolver r false shape = .error reason) :
    ∃ other, plainRowsOf c r false ids = .error other := by
  induction ids with
  | nil => cases mem
  | cons first rest ih =>
    obtain ⟨known, look'⟩ := defined first List.mem_cons_self
    rcases List.mem_cons.mp mem with rfl | later
    · rw [plainRowsOf_of_data r false rest look data, failed]
      exact ⟨reason, rfl⟩
    · obtain ⟨other, rows⟩ := ih (fun v mem => defined v (List.mem_cons_of_mem _ mem)) later
      cases data' : known.isData with
      | false =>
        rw [plainRowsOf_of_other r false rest look' data', rows]
        exact ⟨other, rfl⟩
      | true =>
        rw [plainRowsOf_of_data r false rest look' data', rows]
        cases plainRow? c.resolver r false known <;> exact ⟨_, rfl⟩

/-- The table of an accepted service is that of its closure. -/
theorem exists_plainRows_eq (found : c.model.serviceClosure c.settings.service = .ok closure) :
    ∃ r, plainRows c false = plainRowsOf c r false closure.ids := by
  obtain ⟨r, analysed⟩ := Context.exists_analysed found
  refine ⟨r, ?_⟩
  rw [plainRows, analysed.computed, ← analysed.closure_eq]
  rfl

/-- Leaving rows out does not change whether the table can be made, nor the error. -/
theorem plainRows_error_iff (c : Context) (onlyUnconstrained : Bool) (reason : RowError) :
    plainRows c onlyUnconstrained = .error reason ↔ plainRows c false = .error reason := by
  cases onlyUnconstrained with
  | false => exact Iff.rfl
  | true =>
    rw [plainRows_filter]
    cases plainRows c false <;> simp [Except.map]

section Whole

variable {onlyUnconstrained : Bool}

/-- Names that clash leave no table. -/
theorem plainRows_of_rejected {first second : ShapeId}
    (rejected : c.model.serviceClosure c.settings.service =
      .error (.conflictingNames first second)) :
    plainRows c onlyUnconstrained =
      .error (.symbol (.model (.conflictingNames first second))) := by
  rw [plainRows, Context.compute_of_rejected rejected]
  rfl

variable (found : c.model.serviceClosure c.settings.service = .ok closure)
include found

theorem exists_shape_of_mem :
    ∀ id ∈ closure.ids, ∃ shape, c.model.get? id = some shape := by
  intro id mem
  obtain ⟨shape, look, _⟩ := (Model.serviceClosure_closed found).refs id mem
  exact ⟨shape, look⟩

/-- The last collection before the resource in which a row ends is in the closure like the row. -/
theorem exists_holdsResource_of_plainRows (failed : plainRows c onlyUnconstrained = .error reason) :
    ∃ id ∈ closure.ids, ∃ resource, c.model.HoldsResource id resource ∧
      reason.cause = .unhandledType resource .resource := by
  obtain ⟨r, table⟩ := exists_plainRows_eq found
  rw [plainRows_error_iff, table] at failed
  obtain ⟨id, mem, shape, look, data, row⟩ :=
    exists_row_of_plainRowsOf (exists_shape_of_mem found) failed
  obtain rfl := Model.id_of_get? look
  obtain ⟨resource, ends, cause⟩ := endsIn_of_plainRow? found mem row
  obtain ⟨last, chain, holds⟩ := ends.exists_last look (Shape.not_resource_of_isData data)
  have inside : last ∈ closure.ids :=
    Context.mem_of_visits (b := c.base) (Model.serviceClosure_closed found) mem chain
  exact ⟨last, inside, resource, holds, cause⟩

theorem plainRows_of_blocked (blocked : closure.Blocked c.model) :
    ∃ reason, plainRows c onlyUnconstrained = .error reason := by
  obtain ⟨id, mem, resource, holds⟩ := blocked
  obtain ⟨r, table⟩ := exists_plainRows_eq found
  obtain ⟨shape, look, collection, _⟩ := holds.1
  obtain rfl := Model.id_of_get? look
  obtain ⟨reason, failed⟩ := plainRow?_of_holdsResource (r := r) found mem look holds
  obtain ⟨other, rows⟩ := plainRowsOf_of_row (exists_shape_of_mem found) mem look
    (Shape.isData_of_isCollection collection) failed
  exact ⟨other, (plainRows_error_iff c onlyUnconstrained other).mpr (table.trans rows)⟩

theorem plainRows_of_not_blocked (clear : ¬ closure.Blocked c.model) :
    ∃ rows, plainRows c onlyUnconstrained = .ok rows := by
  cases table : plainRows c onlyUnconstrained with
  | ok rows => exact ⟨rows, rfl⟩
  | error reason =>
    obtain ⟨id, mem, resource, holds, _⟩ := exists_holdsResource_of_plainRows found table
    exact absurd ⟨id, mem, resource, holds⟩ clear

end Whole

end Table

namespace Context

/-- Whatever was asked before, this is the table, or the error in its place. -/
def Tabulates (c : Context) (onlyUnconstrained : Bool)
    (result : Except Table.RowError (List Table.Row)) : Prop :=
  ∀ calls : List Call, ((Table.rows c onlyUnconstrained).answer (c.after calls)).1 = result

theorem tabulates_plainRows (c : Context) (onlyUnconstrained : Bool) :
    c.Tabulates onlyUnconstrained (Table.plainRows c onlyUnconstrained) :=
  fun calls => (Table.gives_rows c onlyUnconstrained _ (c.sound_after calls)).1

/-- The table of a run that has started, with or without the rows of other shapes, cannot be made in
two cases only: names clash in the service, or some list, set or map of it has a member, key or
value that targets a resource. In the second case the error comes down to a resource that is such a
target. Whatever members structures and unions have, and whatever other shapes collections hold,
there is a table. -/
theorem rows_failure (m : Model) (s : Settings) (c : Context) (made : make m s = .ok c)
    (onlyUnconstrained : Bool) :
    ∃ result, c.Tabulates onlyUnconstrained result ∧
      ((∃ reason, result = .error reason) ↔
        (∃ first second, m.serviceClosure s.service = .error (.conflictingNames first second)) ∨
        ∃ closure, m.serviceClosure s.service = .ok closure ∧ closure.Blocked m) ∧
      (∀ first second, m.serviceClosure s.service = .error (.conflictingNames first second) →
        result = .error (.symbol (.model (.conflictingNames first second)))) ∧
      ∀ closure, m.serviceClosure s.service = .ok closure →
        (∀ reason, result = .error reason →
          ∃ id ∈ closure.ids, ∃ resource, m.HoldsResource id resource ∧
            reason.cause = .unhandledType resource .resource) ∧
        ((∀ shape, shape.id ∈ closure.ids → m.get? shape.id = some shape →
            shape.isCollection = true → ∀ target ∈ shape.targets, ¬ m.IsResource target) →
          ∃ rows, result = .ok rows) := by
  obtain ⟨rfl, shape, expected⟩ := service_of_make made
  refine ⟨_, tabulates_plainRows ⟨m, s⟩ onlyUnconstrained, ?_⟩
  rcases Model.serviceClosure_cases expected with ⟨closure, found⟩ | ⟨first, second, rejected⟩
  · refine ⟨⟨?_, ?_⟩, ?_, ?_⟩
    · rintro ⟨reason, failed⟩
      obtain ⟨id, mem, resource, holds, _⟩ :=
        Table.exists_holdsResource_of_plainRows (c := ⟨m, s⟩) found failed
      exact Or.inr ⟨closure, found, id, mem, resource, holds⟩
    · rintro (⟨first, second, rejected⟩ | ⟨other, same, blocked⟩)
      · rw [found] at rejected
        cases rejected
      · exact Table.plainRows_of_blocked (c := ⟨m, s⟩) same blocked
    · intro first second rejected
      rw [found] at rejected
      cases rejected
    · intro other same
      rw [found] at same
      cases same
      refine ⟨fun reason failed =>
        Table.exists_holdsResource_of_plainRows (c := ⟨m, s⟩) found failed, fun clear => ?_⟩
      refine Table.plainRows_of_not_blocked (c := ⟨m, s⟩) found ?_
      rintro ⟨id, mem, resource, ⟨shape, look, collection, listed⟩, isResource⟩
      obtain rfl := Model.id_of_get? look
      exact clear shape mem look collection resource listed isResource
  · have refused : Table.plainRows ⟨m, s⟩ onlyUnconstrained =
        .error (.symbol (.model (.conflictingNames first second))) :=
      Table.plainRows_of_rejected (c := ⟨m, s⟩) rejected
    refine ⟨iff_of_true ⟨_, refused⟩ (Or.inl ⟨first, second, rejected⟩), ?_, ?_⟩
    · intro first' second' rejected'
      rw [rejected] at rejected'
      cases rejected'
      exact refused
    · intro closure found
      rw [rejected] at found
      cases found

theorem rows_failure_library :
    make library.model library.settings = .ok library ∧
      ∃ result, library.Tabulates true result ∧
        ((∃ reason, result = .error reason) ↔
          (∃ first second, library.model.serviceClosure library.settings.service =
            .error (.conflictingNames first second)) ∨
          ∃ closure, library.model.serviceClosure library.settings.service = .ok closure ∧
            closure.Blocked library.model) ∧
        (∀ first second, library.model.serviceClosure library.settings.service =
            .error (.conflictingNames first second) →
          result = .error (.symbol (.model (.conflictingNames first second)))) ∧
        ∀ closure, library.model.serviceClosure library.settings.service = .ok closure →
          (∀ reason, result = .error reason →
            ∃ id ∈ closure.ids, ∃ resource, library.model.HoldsResource id resource ∧
              reason.cause = .unhandledType resource .resource) ∧
          ((∀ shape, shape.id ∈ closure.ids → library.model.get? shape.id = some shape →
              shape.isCollection = true →
              ∀ target ∈ shape.targets, ¬ library.model.IsResource target) →
            ∃ rows, result = .ok rows) := by
  have made : make library.model library.settings = .ok library := by cbv
  exact ⟨made, rows_failure library.model library.settings library made true⟩

-- The map of lists of books is asked for first; the error names what the lists hold.
example : (Table.plainRows library true).mapError (·.cause) =
    .error (.unhandledType ⟨"test", "Book"⟩ .resource) := by cbv

end Context

end ServerSymbols
