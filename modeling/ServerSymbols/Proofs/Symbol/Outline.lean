import ServerSymbols.Proofs.Symbol.Outcome

set_option autoImplicit false

/-
Types that are partly given by shapes. A wrapper is a type without parts, so what it holds is known
by asking for it; put in the place of the wrapper, it may bring further wrappers along. As no
collection stands inside itself, this comes to an end.
-/
namespace ServerSymbols

/-- A type some parts of which are given by shapes. It tells wrappers from all other types, and from
wrappers with the same name. -/
inductive Outline where
  | shape (id : ShapeId)
  | vec (item : Outline)
  | map (key value : Outline)

namespace Outline

def shapes : Outline → List ShapeId
  | shape id => [id]
  | vec item => item.shapes
  | map key value => key.shapes ++ value.shapes

/-- The type has one of the types of each shape in the place of the shape. -/
inductive Fills (types : ShapeId → TypeExpr → Prop) : Outline → TypeExpr → Prop where
  | shape {id : ShapeId} {type : TypeExpr} (fits : types id type) : Fills types (.shape id) type
  | vec {item : Outline} {type : TypeExpr} (items : Fills types item type) :
    Fills types (.vec item) (.vec type)
  | map {key value : Outline} {keyType valueType : TypeExpr} (keys : Fills types key keyType)
    (values : Fills types value valueType) : Fills types (.map key value) (.map keyType valueType)

variable {types types' : ShapeId → TypeExpr → Prop} {outline : Outline} {type type' : TypeExpr}

theorem exists_fills (each : ∀ id ∈ outline.shapes, ∃ type, types id type) :
    ∃ type, Fills types outline type := by
  induction outline with
  | shape id =>
    obtain ⟨type, fits⟩ := each id (List.mem_singleton_self id)
    exact ⟨type, .shape fits⟩
  | vec item ih =>
    obtain ⟨type, items⟩ := ih each
    exact ⟨.vec type, .vec items⟩
  | map key value ihKey ihValue =>
    obtain ⟨keyType, keys⟩ := ihKey fun id mem => each id (List.mem_append_left _ mem)
    obtain ⟨valueType, values⟩ := ihValue fun id mem => each id (List.mem_append_right _ mem)
    exact ⟨.map keyType valueType, .map keys values⟩

namespace Fills

theorem exists_of_mem (fills : Fills types outline type) {id : ShapeId}
    (mem : id ∈ outline.shapes) : ∃ type, types id type := by
  induction fills with
  | @shape _ type fits =>
    cases List.mem_singleton.mp mem
    exact ⟨type, fits⟩
  | vec _ ih => exact ih mem
  | map _ _ ihKey ihValue =>
    rcases List.mem_append.mp mem with inKey | inValue
    · exact ihKey inKey
    · exact ihValue inValue

theorem imp (fills : Fills types outline type)
    (same : ∀ id ∈ outline.shapes, ∀ type, types id type → types' id type) :
    Fills types' outline type := by
  induction fills with
  | shape fits => exact .shape (same _ (List.mem_singleton_self _) _ fits)
  | vec _ ih => exact .vec (ih same)
  | map _ _ ihKey ihValue =>
    apply Fills.map
    · exact ihKey fun id mem => same id (List.mem_append_left _ mem)
    · exact ihValue fun id mem => same id (List.mem_append_right _ mem)

theorem unique (single : ∀ id type type', types id type → types id type' → type = type')
    (fills : Fills types outline type) (fills' : Fills types outline type') : type = type' := by
  induction fills generalizing type' with
  | shape fits =>
    cases fills' with
    | shape fits' => exact single _ _ _ fits fits'
  | vec _ ih =>
    cases fills' with
    | vec items => rw [ih items]
  | map _ _ ihKey ihValue =>
    cases fills' with
    | map keys values => rw [ihKey keys, ihValue values]

end Fills

end Outline

/-- What the type of a collection is made from. -/
def Shape.contents? (shape : Shape) : Option Outline :=
  match shape.kind with
  | .list member | .set member => some (.vec (.shape member.target))
  | .map key value => some (.map (.shape key.target) (.shape value.target))
  | _ => none

theorem Shape.contents?_of_sequence {shape : Shape} {member : Member}
    (kind : shape.kind = .list member ∨ shape.kind = .set member) :
    shape.contents? = some (.vec (.shape member.target)) := by
  unfold contents?
  rcases kind with kind | kind <;> rw [kind]

theorem Shape.contents?_of_map {shape : Shape} {key value : Member}
    (kind : shape.kind = .map key value) :
    shape.contents? = some (.map (.shape key.target) (.shape value.target)) := by
  unfold contents?
  rw [kind]

/-- The shape is a collection with a wrapper, as it reaches a constrained shape. -/
def Model.IsWrapper (m : Model) (id : ShapeId) : Prop :=
  ∃ shape, m.get? id = some shape ∧ shape.isCollection = true ∧ m.ReachesConstrained id

namespace Context

/-- Whatever was asked before, the run says that the shape's wrapper holds this. -/
def Wraps (c : Context) (id : ShapeId) (result : Except SymbolError (Option TypeExpr)) : Prop :=
  ∀ calls : List Call, ((c.resolver.wrappedType id).answer (c.after calls)).1 = result

theorem wraps_plainWrapped (c : Context) (id : ShapeId) : c.Wraps id (c.resolver.plainWrapped id) :=
  fun calls => (c.resolver.keeps_sound.gives_wrappedType id _ (c.sound_after calls)).1

def SymbolType (c : Context) (id : ShapeId) (type : TypeExpr) : Prop :=
  ∃ symbol, c.Resolves id (.ok symbol) ∧ symbol.type = type

/-- Each shape stands for the type of its symbol. -/
def Stands (c : Context) : Outline → TypeExpr → Prop :=
  Outline.Fills c.SymbolType

/-- Somewhere in the first outline, the type that a wrapper holds takes the place of the wrapper. -/
inductive Replaces (c : Context) : Outline → Outline → Prop where
  | wrapper {id : ShapeId} {shape : Shape} {contents : Outline} {type : TypeExpr}
    (isWrapper : c.model.IsWrapper id) (look : c.model.get? id = some shape)
    (made : shape.contents? = some contents) (wraps : c.Wraps id (.ok (some type)))
    (stands : c.Stands contents type) : Replaces c (.shape id) contents
  | item {item item' : Outline} (step : Replaces c item item') :
    Replaces c (.vec item) (.vec item')
  | key {key key' value : Outline} (step : Replaces c key key') :
    Replaces c (.map key value) (.map key' value)
  | value {key value value' : Outline} (step : Replaces c value value') :
    Replaces c (.map key value) (.map key value')

variable {c : Context} {outline next : Outline}

theorem Stands.unique {type other : TypeExpr} (stands : c.Stands outline type)
    (stands' : c.Stands outline other) : type = other := by
  apply Outline.Fills.unique _ stands stands'
  rintro id _ _ ⟨symbol, resolves, rfl⟩ ⟨symbol', resolves', rfl⟩
  have same := (resolves []).symm.trans (resolves' [])
  cases same
  rfl

theorem Replaces.exists_wrapper (step : c.Replaces outline next) :
    ∃ id ∈ outline.shapes, c.model.IsWrapper id := by
  induction step with
  | @wrapper id _ _ _ isWrapper _ _ _ _ => exact ⟨id, List.mem_singleton_self id, isWrapper⟩
  | item _ ih => exact ih
  | key _ ih =>
    obtain ⟨id, mem, isWrapper⟩ := ih
    exact ⟨id, List.mem_append_left _ mem, isWrapper⟩
  | value _ ih =>
    obtain ⟨id, mem, isWrapper⟩ := ih
    exact ⟨id, List.mem_append_right _ mem, isWrapper⟩

/-- A shape that can be replaced can be replaced wherever it is. -/
theorem exists_replaces_of_mem {id : ShapeId} (mem : id ∈ outline.shapes)
    (alone : ∃ contents, c.Replaces (.shape id) contents) : ∃ next, c.Replaces outline next := by
  induction outline with
  | shape other =>
    cases List.mem_singleton.mp mem
    exact alone
  | vec item ih =>
    obtain ⟨next, step⟩ := ih mem
    exact ⟨.vec next, .item step⟩
  | map key value ihKey ihValue =>
    rcases List.mem_append.mp mem with inKey | inValue
    · obtain ⟨next, step⟩ := ihKey inKey
      exact ⟨.map next value, .key step⟩
    · obtain ⟨next, step⟩ := ihValue inValue
      exact ⟨.map key next, .value step⟩

/-! ### Replacing comes to an end -/

/-- There is no endless sequence of replacements from this outline on. -/
abbrev Ends (c : Context) (outline : Outline) : Prop :=
  Acc (fun next outline => c.Replaces outline next) outline

theorem ends_vec {item : Outline} (items : c.Ends item) : c.Ends (.vec item) := by
  induction items with
  | intro item _ ih =>
    apply Acc.intro
    intro next step
    cases step with
    | item step => exact ih _ step

theorem ends_map {key value : Outline} (keys : c.Ends key) (values : c.Ends value) :
    c.Ends (.map key value) := by
  induction keys generalizing value with
  | intro key _ ihKey =>
    induction values with
    | intro value rest ihValue =>
      apply Acc.intro
      intro next step
      cases step with
      | key step => exact ihKey _ step (Acc.intro value rest)
      | value step => exact ihValue _ step

/-- A wrapper is replaced by what stands inside it, and collections stand inside one another to a
finite depth only. -/
theorem ends_shape (c : Context) (id : ShapeId) : c.Ends (.shape id) := by
  induction id using c.model.holds_wellFounded.induction with
  | _ id ih =>
    apply Acc.intro
    intro next step
    cases step with
    | wrapper isWrapper look made _ _ =>
      obtain ⟨shape, same, collection, _⟩ := isWrapper
      rw [look] at same
      cases same
      rcases Shape.kind_of_collection collection with ⟨member, kind⟩ | ⟨key, value, kind⟩
      · rw [Shape.contents?_of_sequence kind] at made
        cases made
        exact ends_vec (ih _ (Model.holds_of_sequence look kind))
      · rw [Shape.contents?_of_map kind] at made
        cases made
        obtain ⟨keys, values⟩ := Model.holds_of_map look kind
        exact ends_map (ih _ keys) (ih _ values)

theorem ends (c : Context) (outline : Outline) : c.Ends outline := by
  induction outline with
  | shape id => exact c.ends_shape id
  | vec item ih => exact ends_vec ih
  | map key value ihKey ihValue => exact ends_map ihKey ihValue

end Context

end ServerSymbols
