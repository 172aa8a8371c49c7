import Mathlib
import ServerSymbols.Proofs.Document.Order
import ServerSymbols.Proofs.Model.Build

set_option autoImplicit false

/-
What the model of a document depends on. Of the traits only those that constrain are looked at, and
of the fields of a shape only those that its type uses. Documents that agree on these have the same
model, or the same error.
-/
namespace ServerSymbols.Document

open Json

/-! ### Traits -/

/-- The traits that constrain values. -/
def constraining : List String :=
  ["smithy.api#required", "smithy.api#uniqueItems", "smithy.api#length", "smithy.api#range",
    "smithy.api#pattern", "smithy.api#enum"]

def Traits.constraining (traits : Traits) : Traits :=
  traits.filter (·.1 ∈ Document.constraining)

theorem constraint?_of_not_mem {traitId : String} (foreign : traitId ∉ constraining)
    (value : Value) : constraint? traitId value = .ok none := by
  simp only [constraining, List.mem_cons, List.not_mem_nil, or_false, not_or] at foreign
  obtain ⟨required, unique, length, range, pattern, enum⟩ := foreign
  unfold constraint?
  split <;> first | contradiction | rfl

theorem constraints_cons (owner traitId : String) (value : Value) (rest : Traits) :
    constraints owner ((traitId, value) :: rest) =
      ((constraint? traitId value).mapError (.invalidTrait owner traitId)).bind fun first =>
        (constraints owner rest).map (first.toList ++ ·) := by
  rw [constraints]
  cases constraint? traitId value with
  | error fault => rfl
  | ok first => cases constraints owner rest <;> rfl

/-- Traits that constrain nothing have no influence. -/
theorem constraints_constraining (owner : String) (traits : Traits) :
    constraints owner traits.constraining = constraints owner traits := by
  induction traits with
  | nil => rfl
  | cons entry rest ih =>
    obtain ⟨traitId, value⟩ := entry
    unfold Traits.constraining at ih ⊢
    rw [List.filter_cons, constraints_cons]
    by_cases mem : traitId ∈ constraining
    · rw [if_pos (decide_eq_true mem), constraints_cons, ih]
    · rw [if_neg (by simpa using mem), ih, constraint?_of_not_mem mem]
      cases constraints owner rest <;> rfl

theorem constraints_congr {traits traits' : Traits}
    (same : traits.constraining = traits'.constraining) (owner : String) :
    constraints owner traits = constraints owner traits' := by
  rw [← constraints_constraining, same, constraints_constraining]

/-! ### Members -/

/-- The same target under the same constraints. -/
structure Member.Agree (m n : Member) : Prop where
  target : m.target = n.target
  traits : m.traits.constraining = n.traits.constraining

/-- What a member of an enum has to say. -/
def variantEntry (entry : String × Member) : String × Option Value :=
  (entry.1, entry.2.traits.lookup enumValueTrait)

/-- The shapes have the same type, agree on the fields that the type uses, and are under the same
constraints. -/
structure Shape.Agree (s t : Shape) : Prop where
  type : s.type = t.type
  traits : s.traits.constraining = t.traits.constraining
  members : s.type = "structure" ∨ s.type = "union" →
    List.Forall₂ (fun entry entry' => entry.1 = entry'.1 ∧ entry.2.Agree entry'.2)
      s.members t.members
  member : s.type = "list" ∨ s.type = "set" → Option.Rel Member.Agree s.member t.member
  entry : s.type = "map" →
    Option.Rel Member.Agree s.key t.key ∧ Option.Rel Member.Agree s.value t.value
  variants : s.type = "enum" ∨ s.type = "intEnum" →
    s.members.map variantEntry = t.members.map variantEntry
  operation : s.type = "operation" →
    s.input = t.input ∧ s.output = t.output ∧ s.errors = t.errors
  resource : s.type = "resource" →
    s.identifiers.map (·.2) = t.identifiers.map (·.2) ∧ s.lifecycle = t.lifecycle ∧
      s.operations = t.operations ∧ s.collectionOperations = t.collectionOperations ∧
      s.resources = t.resources
  service : s.type = "service" → s.operations = t.operations ∧ s.resources = t.resources

theorem toMember_congr {m n : Member} (agree : m.Agree n) (shape name : String) :
    toMember shape name m = toMember shape name n := by
  rw [toMember, toMember, agree.target, constraints_congr agree.traits]

theorem neededMember_congr {m n : Option Member} (agree : Option.Rel Member.Agree m n)
    (shape type name : String) :
    neededMember shape type name m = neededMember shape type name n := by
  cases agree with
  | none => rfl
  | some agree => exact toMember_congr agree shape name

/-! ### Shapes -/

theorem toMembers_congr {members members' : List (String × Member)}
    (agree : List.Forall₂ (fun entry entry' => entry.1 = entry'.1 ∧ entry.2.Agree entry'.2)
      members members') (shape : String) :
    toMembers shape members = toMembers shape members' := by
  refine Except.mapM_congr (agree.imp ?_)
  rintro ⟨name, m⟩ ⟨_, n⟩ ⟨rfl, agree⟩
  exact toMember_congr agree shape name

theorem variantTexts_congr {members members' : List (String × Member)}
    (same : members.map variantEntry = members'.map variantEntry) :
    (members.map fun (name, member) => variantText name member) =
      members'.map fun (name, member) => variantText name member := by
  have whole := congrArg
    (List.map fun entry : String × Option Value => (entry.2.bind Value.asString?).getD entry.1) same
  rw [List.map_map, List.map_map] at whole
  exact whole

theorem variantInts_congr {members members' : List (String × Member)}
    (same : members.map variantEntry = members'.map variantEntry) (shape : String) :
    (members.mapM fun (name, member) => variantInt shape name member) =
      members'.mapM fun (name, member) => variantInt shape name member := by
  have each : List.Forall₂ (fun entry entry' => variantEntry entry = variantEntry entry')
      members members' := by
    rw [← List.forall₂_eq_eq_eq, List.forall₂_map_left_iff, List.forall₂_map_right_iff] at same
    exact same
  refine Except.mapM_congr (each.imp ?_)
  rintro ⟨name, m⟩ ⟨name', n⟩ same
  simp only [variantEntry, Prod.mk.injEq] at same
  obtain ⟨rfl, same⟩ := same
  simp only [variantInt, same]

theorem toKind_congr {s t : Shape} (agree : s.Agree t) (id : String)
    (constraints : List Constraint) : toKind id s constraints = toKind id t constraints := by
  unfold toKind
  rw [← agree.type]
  split
  · next type => rw [toMembers_congr (agree.members (Or.inl type))]
  · next type => rw [toMembers_congr (agree.members (Or.inr type))]
  · next type => rw [neededMember_congr (agree.member (Or.inl type))]
  · next type => rw [neededMember_congr (agree.member (Or.inr type))]
  · next type =>
    rw [neededMember_congr (agree.entry type).1, neededMember_congr (agree.entry type).2]
  · next type => rw [variantTexts_congr (agree.variants (Or.inl type))]
  · next type => rw [variantInts_congr (agree.variants (Or.inr type))]
  · next type =>
    obtain ⟨input, output, errors⟩ := agree.operation type
    rw [input, output, errors]
  · next type =>
    obtain ⟨identifiers, lifecycle, operations, collectionOperations, resources⟩ :=
      agree.resource type
    rw [identifiers, lifecycle, operations, collectionOperations, resources]
  · next type =>
    obtain ⟨operations, resources⟩ := agree.service type
    rw [operations, resources]
  · rfl

theorem toShape_congr {s t : Shape} (agree : s.Agree t) (id : String) :
    toShape id s = toShape id t := by
  unfold toShape
  rw [constraints_congr agree.traits]
  simp only [toKind_congr agree]

/-! ### Documents -/

/-- The same keys in the same order, and shapes that agree. The versions do not matter. -/
def Agree (d e : Document) : Prop :=
  List.Forall₂ (fun entry entry' => entry.1 = entry'.1 ∧ Shape.Agree entry.2 entry'.2)
    d.shapes e.shapes

theorem toModel_congr {d e : Document} (agree : d.Agree e) : d.toModel = e.toModel := by
  have shapes : d.shapes.mapM (fun entry => toShape entry.1 entry.2) =
      e.shapes.mapM fun entry => toShape entry.1 entry.2 := by
    refine Except.mapM_congr (List.Forall₂.imp ?_ agree)
    rintro ⟨id, s⟩ ⟨_, t⟩ ⟨rfl, agree⟩
    exact toShape_congr agree id
  exact congrArg (Except.bind · Model.build) shapes

/-- Documents that agree on what their shapes' types use, and on the traits that constrain, have the
same model or the same error. In a document that is loaded, be it a value or a text, the fields of
the shapes may stand in any order. -/
theorem model_influence :
    (∀ d e : Document, d.Agree e → d.toModel = e.toModel) ∧
    (∀ (v w : Value) (m : Model), Reordered (.ofValue v) (.ofValue w) →
      Model.ofValue v = .ok m → Model.ofValue w = .ok m) ∧
    ∀ (text other : String) (m : Model),
      Reordered (scan nestingLimit text).got (scan nestingLimit other).got → Whole other →
      Model.ofText text = .ok m → Model.ofText other = .ok m :=
  ⟨fun _ _ agree => toModel_congr agree, fun _ _ _ reordered loaded =>
    ofValue_reordered reordered loaded, fun _ _ _ reordered whole loaded =>
    ofText_reordered reordered whole loaded⟩

/-- An integer enum with foreign traits, other targets and fields of other types; and a blob whose
fields change places. -/
theorem model_influence_examples :
    let value : String × Value := (enumValueTrait, .num (.int 1))
    let d : Document := ⟨"1.0", [("test#Level", {
      type := "intEnum", members := [("LOW", { target := "smithy.api#Unit", traits := [value] })]
      traits := [("smithy.api#documentation", .str "how much")] })]⟩
    let e : Document := ⟨"2.0", [("test#Level", {
      type := "intEnum", members := [("LOW", { target := "", traits := [value] })]
      operations := ["nothing"] })]⟩
    let v : Value := .obj [("smithy", .str "2"),
      ("shapes", .obj [("a#S", .obj [("type", .str "blob"), ("x", .null)])])]
    let w : Value := .obj [("smithy", .str "2"),
      ("shapes", .obj [("a#S", .obj [("x", .null), ("type", .str "blob")])])]
    let text := "[\"2\",\x7b\"a#S\":\x7b\"type\":\"blob\",\"x\":null\x7d\x7d]"
    let other := "[\"2\",\x7b\"a#S\":\x7b\"x\":null,\"type\":\"blob\"\x7d\x7d] "
    d.Agree e ∧ d.toModel = e.toModel ∧ Reordered (.ofValue v) (.ofValue w) ∧ Whole other ∧
      ∃ m, Model.ofValue v = .ok m ∧ Model.ofValue w = .ok m ∧
        Model.ofText text = .ok m ∧ Model.ofText other = .ok m := by
  intro value d e v w text other
  have agree : d.Agree e := by
    refine .cons ⟨rfl, ?_⟩ .nil
    constructor <;> simp [Traits.constraining, constraining, variantEntry, value]
  have swapped : FieldsReordered (.obj [(.text "type", .str "blob"), (.text "x", .null)] none)
      (.obj [(.text "x", .null), (.text "type", .str "blob")] none) :=
    .obj none (List.Perm.swap _ _ [])
  have reordered : Reordered (.ofValue v) (.ofValue w) :=
    .obj none (.cons ⟨rfl, Or.inl rfl⟩
      (.cons ⟨rfl, Or.inr ⟨rfl, .obj none (.cons ⟨rfl, swapped⟩ .nil)⟩⟩ .nil))
  have scanned : scan nestingLimit text = ⟨.arr [.str "2", .obj [(.text "a#S",
      .obj [(.text "type", .str "blob"), (.text "x", .null)] none)] none] none, some []⟩ := by cbv
  have scanned' : scan nestingLimit other = ⟨.arr [.str "2", .obj [(.text "a#S",
      .obj [(.text "x", .null), (.text "type", .str "blob")] none)] none] none, some [' ']⟩ := by
    cbv
  have reordered' : Reordered (scan nestingLimit text).got (scan nestingLimit other).got := by
    rw [scanned, scanned']
    exact .arr _ [] none (.obj none (.cons ⟨rfl, swapped⟩ .nil))
  have whole : Whole other := by
    rw [Whole, scanned']
    rfl
  have distinct : Shape.Distinct [⟨⟨"a", "S"⟩, .primitive .blob, []⟩] :=
    Shape.distinct_iff.mpr (by decide +kernel)
  have acyclic : (Shape.collectionGraph
      (Shape.prelude ++ [⟨⟨"a", "S"⟩, .primitive .blob, []⟩])).cycle? = none := by cbv
  obtain ⟨m, built⟩ := (Model.build_ok_iff [⟨⟨"a", "S"⟩, .primitive .blob, []⟩]).mpr
    ⟨distinct, Shape.complete_iff.mpr (by decide +kernel), by
      simp [Shape.circular_iff distinct, acyclic]⟩
  have made : (⟨"2", [("a#S", { type := "blob" })]⟩ : Document).toModel = .ok m := built
  have loaded : Model.ofValue v = .ok m := by
    have read : Document.ofValue v = .ok ⟨"2", [("a#S", { type := "blob" })]⟩ := by cbv
    rw [Model.ofValue, read]
    exact made
  have loaded' : Model.ofText text = .ok m := by
    have read : decode .text (scan nestingLimit text).got =
        .ok ⟨"2", [("a#S", { type := "blob" })]⟩ := by
      rw [scanned]
      cbv
    have read' : Document.ofText text = .ok ⟨"2", [("a#S", { type := "blob" })]⟩ :=
      decodeDocument_eq_ok.mpr ⟨read, by rw [Whole, scanned]; rfl⟩
    rw [Model.ofText, read']
    exact made
  exact ⟨agree, model_influence.1 d e agree, reordered, whole, m, loaded,
    model_influence.2.1 v w m reordered loaded, loaded',
    model_influence.2.2 text other m reordered' whole loaded'⟩

end ServerSymbols.Document
