import ServerSymbols.Proofs.Symbol.Outline

set_option autoImplicit false

/-
What is left when all wrappers are replaced by what they hold: the base type once more, with
unconstrained types at those of its ends that need them. While wrappers are replaced, this type is
known beforehand, and no replacement changes it.
-/
namespace ServerSymbols.Context

/-- The second type is the base type of the shape, but for the shapes that are no collections at
the ends of its chains of collections: those that reach a constrained shape have their
unconstrained types instead. -/
inductive Relaxes (c : Context) : ShapeId → TypeExpr → TypeExpr → Prop where
  | free {id : ShapeId} {shape : Shape} {base : Symbol} (look : c.model.get? id = some shape)
    (simple : shape.isCollection = false) (free : ¬ c.model.ReachesConstrained id)
    (resolved : c.base.symbol id = .ok base) : Relaxes c id base.type base.type
  | constrained {id : ShapeId} {shape : Shape} {base unconstrained : Symbol}
    (look : c.model.get? id = some shape) (simple : shape.isCollection = false)
    (reaches : c.model.ReachesConstrained id) (resolved : c.base.symbol id = .ok base)
    (relaxed : c.base.unconstrainedSymbol shape = .ok unconstrained) :
    Relaxes c id base.type unconstrained.type
  | sequence {id : ShapeId} {shape : Shape} {member : Member} {item item' : TypeExpr}
    (look : c.model.get? id = some shape)
    (kind : shape.kind = .list member ∨ shape.kind = .set member)
    (items : Relaxes c member.target item item') : Relaxes c id (.vec item) (.vec item')
  | mapping {id : ShapeId} {shape : Shape} {key value : Member}
    {keyType keyType' valueType valueType' : TypeExpr} (look : c.model.get? id = some shape)
    (kind : shape.kind = .map key value) (keys : Relaxes c key.target keyType keyType')
    (values : Relaxes c value.target valueType valueType') :
    Relaxes c id (.map keyType valueType) (.map keyType' valueType')

/-- Wrappers can be replaced until there are none, which comes after finitely many replacements in
whatever order; then this type is left. -/
structure ExpandsTo (c : Context) (start : Outline) (result : TypeExpr) : Prop where
  ends : c.Ends start
  exists_last : ∃ last, Relation.ReflTransGen c.Replaces start last ∧
    ∀ id ∈ last.shapes, ¬ c.model.IsWrapper id
  stands : ∀ outline, Relation.ReflTransGen c.Replaces start outline → ∃ type, c.Stands outline type
  replaces_iff : ∀ outline, Relation.ReflTransGen c.Replaces start outline →
    ((∃ next, c.Replaces outline next) ↔ ∃ id ∈ outline.shapes, c.model.IsWrapper id)
  result_iff : ∀ outline, Relation.ReflTransGen c.Replaces start outline →
    (∀ id ∈ outline.shapes, ¬ c.model.IsWrapper id) → ∀ type, c.Stands outline type ↔ type = result

variable {c : Context} {closure : Closure} {id : ShapeId} {shape : Shape} {outline : Outline}
  {base result : TypeExpr}

/-! ### What the run answers -/

/-- The shape belongs to the service, and no chain of collections leads from it to a resource. -/
structure Regular (c : Context) (closure : Closure) (id : ShapeId) : Prop where
  mem : id ∈ closure.ids
  no_resource : ¬ ∃ resource, c.model.EndsIn id resource

theorem Regular.of_holds {target : ShapeId} (regular : c.Regular closure id)
    (closed : closure.Closed c.model) (holds : c.model.Holds id target) :
    c.Regular closure target := by
  constructor
  · exact closed.step regular.mem holds.step
  · rintro ⟨resource, ends⟩
    exact regular.no_resource ⟨resource, ends.of_holds holds⟩

theorem Regular.base_symbol (regular : c.Regular closure id) (look : c.model.get? id = some shape) :
    ∃ base, c.base.symbol id = .ok base := by
  rcases c.base.decided ⟨shape, look⟩ with ⟨resource, ends, _⟩ | ⟨_, base, resolved, _⟩
  · exact absurd ⟨resource, ends⟩ regular.no_resource
  · exact ⟨base, resolved⟩

section Service

variable (found : c.model.serviceClosure c.settings.service = .ok closure)
include found

theorem wraps_of_sequence {member : Member} {item : Symbol} (mem : id ∈ closure.ids)
    (reaches : c.model.ReachesConstrained id) (look : c.model.get? id = some shape)
    (kind : shape.kind = .list member ∨ shape.kind = .set member)
    (resolved : c.resolver.plainSymbol member.target = .ok item) :
    c.Wraps id (.ok (some (.vec item.type))) := by
  have same : c.resolver.plainWrapped id = .ok (some (.vec item.type)) := by
    unfold Resolver.plainWrapped
    rw [plainReaches_of_reaching found mem reaches, expectShape_of_get? look]
    rcases kind with kind | kind <;> simp [bind, Except.bind, pure, Except.pure, kind, resolved]
  exact same ▸ c.wraps_plainWrapped id

theorem wraps_of_map {key value : Member} {keySymbol valueSymbol : Symbol} (mem : id ∈ closure.ids)
    (reaches : c.model.ReachesConstrained id) (look : c.model.get? id = some shape)
    (kind : shape.kind = .map key value)
    (resolvedKey : c.resolver.plainSymbol key.target = .ok keySymbol)
    (resolvedValue : c.resolver.plainSymbol value.target = .ok valueSymbol) :
    c.Wraps id (.ok (some (.map keySymbol.type valueSymbol.type))) := by
  have same : c.resolver.plainWrapped id = .ok (some (.map keySymbol.type valueSymbol.type)) := by
    unfold Resolver.plainWrapped
    rw [plainReaches_of_reaching found mem reaches, expectShape_of_get? look]
    simp [bind, Except.bind, pure, Except.pure, kind, resolvedKey, resolvedValue]
  exact same ▸ c.wraps_plainWrapped id

theorem Regular.symbol (regular : c.Regular closure id) :
    ∃ symbol, c.resolver.plainSymbol id = .ok symbol ∧ c.SymbolType id symbol.type := by
  have resolves := c.resolves_plainSymbol id
  by_cases reaches : c.model.ReachesConstrained id
  · obtain ⟨symbol, resolved, _⟩ := plainSymbol_of_reaching found regular.mem reaches
    exact ⟨symbol, resolved, symbol, resolved ▸ resolves, rfl⟩
  · obtain ⟨shape, look, _⟩ := (Model.serviceClosure_closed found).refs id regular.mem
    obtain ⟨symbol, resolved⟩ := regular.base_symbol look
    rw [← plainSymbol_eq_base found regular.mem reaches] at resolved
    exact ⟨symbol, resolved, symbol, resolved ▸ resolves, rfl⟩

/-- What a wrapper holds is made from what its members' targets resolve to. -/
theorem Regular.replaces (regular : c.Regular closure id) (isWrapper : c.model.IsWrapper id) :
    ∃ contents, c.Replaces (.shape id) contents := by
  have ⟨shape, look, collection, reaches⟩ := isWrapper
  have closed := Model.serviceClosure_closed found
  rcases Shape.kind_of_collection collection with ⟨member, kind⟩ | ⟨key, value, kind⟩
  · have holds := Model.holds_of_sequence look kind
    obtain ⟨item, resolved, items⟩ := (regular.of_holds closed holds).symbol found
    have wraps := wraps_of_sequence found regular.mem reaches look kind resolved
    exact ⟨_, .wrapper isWrapper look (Shape.contents?_of_sequence kind) wraps
      (.vec (.shape items))⟩
  · obtain ⟨holdsKey, holdsValue⟩ := Model.holds_of_map look kind
    obtain ⟨_, resolvedKey, keys⟩ := (regular.of_holds closed holdsKey).symbol found
    obtain ⟨_, resolvedValue, values⟩ := (regular.of_holds closed holdsValue).symbol found
    have wraps := wraps_of_map found regular.mem reaches look kind resolvedKey resolvedValue
    exact ⟨_, .wrapper isWrapper look (Shape.contents?_of_map kind) wraps
      (.map (.shape keys) (.shape values))⟩

end Service

/-! ### Relaxed types -/

theorem Relaxes.base_symbol (relaxes : c.Relaxes id base result) :
    ∃ symbol, c.base.symbol id = .ok symbol ∧ symbol.type = base := by
  induction relaxes with
  | free _ _ _ resolved => exact ⟨_, resolved, rfl⟩
  | constrained _ _ _ resolved _ => exact ⟨_, resolved, rfl⟩
  | sequence look kind _ ih =>
    obtain ⟨item, resolved, rfl⟩ := ih
    have same := c.base.symbol_eq_sequence look kind
    rw [resolved] at same
    exact ⟨_, same, rfl⟩
  | mapping look kind _ _ ihKey ihValue =>
    obtain ⟨keys, resolvedKey, rfl⟩ := ihKey
    obtain ⟨values, resolvedValue, rfl⟩ := ihValue
    have same := c.base.symbol_eq_map look kind
    rw [resolvedKey, resolvedValue] at same
    exact ⟨_, same, rfl⟩

/-- Where no constrained shape is reached, all ends keep their types. -/
theorem Relaxes.eq_of_free (relaxes : c.Relaxes id base result)
    (free : ¬ c.model.ReachesConstrained id) : result = base := by
  induction relaxes with
  | free _ _ _ _ => rfl
  | constrained _ _ reaches _ _ => exact absurd reaches free
  | sequence look kind _ ih =>
    have step := (Model.holds_of_sequence look kind).step
    rw [ih fun reaches => free (reaches.of_step step)]
  | mapping look kind _ _ ihKey ihValue =>
    obtain ⟨holdsKey, holdsValue⟩ := Model.holds_of_map look kind
    rw [ihKey fun reaches => free (reaches.of_step holdsKey.step),
      ihValue fun reaches => free (reaches.of_step holdsValue.step)]

theorem Regular.relaxes (closed : closure.Closed c.model) (regular : c.Regular closure id) :
    ∃ base result, c.Relaxes id base result := by
  induction id using c.model.holds_wellFounded.induction with
  | _ id ih =>
    obtain ⟨shape, look, _⟩ := closed.refs id regular.mem
    cases collection : shape.isCollection with
    | true =>
      rcases Shape.kind_of_collection collection with ⟨member, kind⟩ | ⟨key, value, kind⟩
      · have holds := Model.holds_of_sequence look kind
        obtain ⟨item, item', items⟩ := ih _ holds (regular.of_holds closed holds)
        exact ⟨.vec item, .vec item', .sequence look kind items⟩
      · obtain ⟨holdsKey, holdsValue⟩ := Model.holds_of_map look kind
        obtain ⟨keyType, keyType', keys⟩ := ih _ holdsKey (regular.of_holds closed holdsKey)
        obtain ⟨valueType, valueType', values⟩ :=
          ih _ holdsValue (regular.of_holds closed holdsValue)
        exact ⟨.map keyType valueType, .map keyType' valueType', .mapping look kind keys values⟩
    | false =>
      obtain ⟨base, resolved⟩ := regular.base_symbol look
      by_cases reaches : c.model.ReachesConstrained id
      · obtain ⟨data, same, isData⟩ := reaches.isData
        rw [look] at same
        cases same
        obtain ⟨unconstrained, relaxed, _⟩ := c.base.unconstrainedSymbol_of_isData look isData
        exact ⟨_, _, .constrained look collection reaches resolved relaxed⟩
      · exact ⟨_, _, .free look collection reaches resolved⟩

/-- A shape that has no wrapper resolves to what it is relaxed to. -/
theorem Relaxes.symbolType (found : c.model.serviceClosure c.settings.service = .ok closure)
    (mem : id ∈ closure.ids) (relaxes : c.Relaxes id base result)
    (plain : ¬ c.model.IsWrapper id) : c.SymbolType id result := by
  obtain ⟨symbol, resolved, same⟩ := relaxes.base_symbol
  by_cases reaches : c.model.ReachesConstrained id
  · cases relaxes with
    | free _ _ free _ => exact absurd reaches free
    | constrained look _ _ _ relaxed =>
      have resolves := plainSymbol_eq_unconstrained found mem look reaches ▸ c.resolves_plainSymbol id
      exact ⟨_, relaxed ▸ resolves, rfl⟩
    | sequence look kind _ =>
      exact absurd ⟨_, look, (Shape.collection_of_sequence kind).1, reaches⟩ plain
    | mapping look kind _ _ =>
      exact absurd ⟨_, look, (Shape.collection_of_map kind).1, reaches⟩ plain
  · have resolves := resolves_base found mem reaches
    rw [relaxes.eq_of_free reaches]
    exact ⟨symbol, resolved ▸ resolves, same⟩

/-! ### What is left -/

/-- What an outline comes to in the end: each shape in it is relaxed. -/
def Settles (c : Context) (closure : Closure) : Outline → TypeExpr → Prop :=
  Outline.Fills fun id result => c.Regular closure id ∧ ∃ base, c.Relaxes id base result

theorem Settles.contents {contents : Outline} (closed : closure.Closed c.model)
    (regular : c.Regular closure id) (relaxes : c.Relaxes id base result)
    (look : c.model.get? id = some shape) (collection : shape.isCollection = true)
    (made : shape.contents? = some contents) : c.Settles closure contents result := by
  cases relaxes with
  | free same simple _ _ | constrained same simple _ _ _ =>
    rw [look] at same
    cases same
    rw [collection] at simple
    cases simple
  | sequence same kind items =>
    rw [look] at same
    cases same
    rw [Shape.contents?_of_sequence kind] at made
    cases made
    have target := regular.of_holds closed (Model.holds_of_sequence look kind)
    exact .vec (.shape ⟨target, _, items⟩)
  | mapping same kind keys values =>
    rw [look] at same
    cases same
    rw [Shape.contents?_of_map kind] at made
    cases made
    obtain ⟨holdsKey, holdsValue⟩ := Model.holds_of_map look kind
    exact .map (.shape ⟨regular.of_holds closed holdsKey, _, keys⟩)
      (.shape ⟨regular.of_holds closed holdsValue, _, values⟩)

/-- A replacement does not change what an outline comes to. -/
theorem Settles.replace {next : Outline} (closed : closure.Closed c.model)
    (settles : c.Settles closure outline result) (step : c.Replaces outline next) :
    c.Settles closure next result := by
  induction step generalizing result with
  | wrapper isWrapper look made _ _ =>
    obtain ⟨shape, same, collection, _⟩ := isWrapper
    rw [look] at same
    cases same
    cases settles with
    | shape fits =>
      obtain ⟨regular, base, relaxes⟩ := fits
      exact .contents closed regular relaxes look collection made
  | item _ ih =>
    cases settles with
    | vec items => exact .vec (ih items)
  | key _ ih =>
    cases settles with
    | map keys values => exact .map (ih keys) values
  | value _ ih =>
    cases settles with
    | map keys values => exact .map keys (ih values)

theorem Settles.replaceAll {last : Outline} (closed : closure.Closed c.model)
    (settles : c.Settles closure outline result)
    (steps : Relation.ReflTransGen c.Replaces outline last) : c.Settles closure last result := by
  induction steps with
  | refl => exact settles
  | tail _ step ih => exact ih.replace closed step

section Service

variable (found : c.model.serviceClosure c.settings.service = .ok closure)
include found

theorem Settles.exists_replaces (settles : c.Settles closure outline result)
    (wrapper : ∃ id ∈ outline.shapes, c.model.IsWrapper id) : ∃ next, c.Replaces outline next := by
  obtain ⟨id, mem, isWrapper⟩ := wrapper
  obtain ⟨_, regular, _⟩ := settles.exists_of_mem mem
  exact exists_replaces_of_mem mem (regular.replaces found isWrapper)

theorem Settles.stands (settles : c.Settles closure outline result) :
    ∃ type, c.Stands outline type := by
  apply Outline.exists_fills
  intro id mem
  obtain ⟨_, regular, _⟩ := settles.exists_of_mem mem
  obtain ⟨symbol, _, fits⟩ := regular.symbol found
  exact ⟨symbol.type, fits⟩

theorem Settles.stands_result (settles : c.Settles closure outline result)
    (plain : ∀ id ∈ outline.shapes, ¬ c.model.IsWrapper id) : c.Stands outline result := by
  apply settles.imp
  rintro id mem type ⟨regular, base, relaxes⟩
  exact relaxes.symbolType found regular.mem (plain id mem)

theorem Settles.exists_last (settles : c.Settles closure outline result) :
    ∃ last, Relation.ReflTransGen c.Replaces outline last ∧
      ∀ id ∈ last.shapes, ¬ c.model.IsWrapper id := by
  induction c.ends outline with
  | intro outline _ ih =>
    by_cases wrapper : ∃ id ∈ outline.shapes, c.model.IsWrapper id
    · obtain ⟨next, step⟩ := settles.exists_replaces found wrapper
      have onward := settles.replace (Model.serviceClosure_closed found) step
      obtain ⟨last, steps, plain⟩ := ih next step onward
      exact ⟨last, .head step steps, plain⟩
    · push Not at wrapper
      exact ⟨outline, .refl, wrapper⟩

theorem Settles.expandsTo {start : Outline} (settles : c.Settles closure start result) :
    c.ExpandsTo start result := by
  have along {outline : Outline} (steps : Relation.ReflTransGen c.Replaces start outline) :
      c.Settles closure outline result :=
    settles.replaceAll (Model.serviceClosure_closed found) steps
  constructor
  case ends => exact c.ends start
  case exists_last => exact settles.exists_last found
  case stands => exact fun outline steps => (along steps).stands found
  case replaces_iff =>
    intro outline steps
    constructor
    · rintro ⟨next, step⟩
      exact step.exists_wrapper
    · exact (along steps).exists_replaces found
  case result_iff =>
    intro outline steps plain type
    have stands := (along steps).stands_result found plain
    constructor
    · exact fun other => other.unique stands
    · rintro rfl
      exact stands

end Service

/-- Take a shape of an accepted service, a list, set or map above all, from which no chain of
collections leads to a resource. If wrappers are replaced by the types that they hold, one at a time
from the shape's symbol on, this ends; what is left is the base type of the shape with the
unconstrained types of those of its ends that reach a constrained shape. -/
theorem symbol_expandsTo (c : Context) (closure : Closure)
    (found : c.model.serviceClosure c.settings.service = .ok closure) (id : ShapeId)
    (mem : id ∈ closure.ids) (no_resource : ¬ ∃ resource, c.model.EndsIn id resource) :
    ∃ base result, c.base.symbol id = .ok base ∧ c.Relaxes id base.type result ∧
      c.ExpandsTo (.shape id) result := by
  have regular : c.Regular closure id := ⟨mem, no_resource⟩
  obtain ⟨type, result, relaxes⟩ := regular.relaxes (Model.serviceClosure_closed found)
  obtain ⟨base, resolved, rfl⟩ := relaxes.base_symbol
  have settles : c.Settles closure (.shape id) result := .shape ⟨regular, base.type, relaxes⟩
  exact ⟨base, result, resolved, relaxes, settles.expandsTo found⟩

theorem symbol_expandsTo_forest :
    forest.model.serviceClosure forest.settings.service = .ok forestClosure ∧
      ⟨"test", "Forest"⟩ ∈ forestClosure.ids ∧
      (¬ ∃ resource, forest.model.EndsIn ⟨"test", "Forest"⟩ resource) ∧
      ∃ base result, forest.base.symbol ⟨"test", "Forest"⟩ = .ok base ∧
        forest.Relaxes ⟨"test", "Forest"⟩ base.type result ∧
        forest.ExpandsTo (.shape ⟨"test", "Forest"⟩) result := by
  have found := serviceClosure_forest
  have mem : ⟨"test", "Forest"⟩ ∈ forestClosure.ids := by decide +kernel
  have no_resource : ¬ ∃ resource, forest.model.EndsIn ⟨"test", "Forest"⟩ resource := by
    rintro ⟨_, _, shape, look, resource⟩
    have none_listed : ∀ shape ∈ forest.model.shapes, shape.type ≠ .resource := by decide +kernel
    exact none_listed shape (Model.mem_of_get? look) resource
  exact ⟨found, mem, no_resource,
    symbol_expandsTo forest forestClosure found ⟨"test", "Forest"⟩ mem no_resource⟩

-- The base type of a forest is a vector of trees; its wrapper holds a vector of their builders.
example : forest.resolver.plainWrapped ⟨"test", "Forest"⟩ =
    .ok (some (.vec (.named "Builder" "crate::model::tree"))) := by cbv

end ServerSymbols.Context
