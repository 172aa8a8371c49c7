import ServerSymbols.Proofs.Document.Faithful
import ServerSymbols.Proofs.Symbol.Outcome

set_option autoImplicit false

/-
Enums and integer enums of documents. Whichever way a document spells an enum, its values are listed
in a constraint, so that enums are never taken for types whose values need no check.
-/
namespace ServerSymbols

theorem exists_of_forall₂_right {α β : Type} {R : α → β → Prop} {xs : List α} {ys : List β} {y : β}
    (each : List.Forall₂ R xs ys) (mem : y ∈ ys) : ∃ x ∈ xs, R x y := by
  induction each with
  | nil => cases mem
  | cons related _ ih =>
    rcases List.mem_cons.mp mem with rfl | later
    · exact ⟨_, List.mem_cons_self, related⟩
    · obtain ⟨x, listed, related⟩ := ih later
      exact ⟨x, List.mem_cons_of_mem _ listed, related⟩

theorem exists_of_forall₂_left {α β : Type} {R : α → β → Prop} {xs : List α} {ys : List β} {x : α}
    (each : List.Forall₂ R xs ys) (mem : x ∈ xs) : ∃ y ∈ ys, R x y :=
  exists_of_forall₂_right (R := flip R) each.flip mem

/-- The constraint that lists the values of an enum or integer enum, and the type of a value that is
not checked yet. -/
inductive ShapeKind.Enumerates : ShapeKind → Constraint → TypeExpr → Prop where
  | enum (variants : List String) : Enumerates (.enum variants) (.enum variants) .string
  | intEnum (variants : List (String × Int32)) :
    Enumerates (.intEnum variants) (.intEnum (variants.map (·.2))) (.int 32)

namespace Document

open Json

/-! ### The constraint that lists the values -/

/-- An enum trait expresses nothing but the strings of its definitions. -/
theorem Expresses.eq_enum {value : Value} {variants : List String} {constraint : Constraint}
    (expresses : Expresses "smithy.api#enum" value (.enum variants))
    (other : Expresses "smithy.api#enum" value constraint) : constraint = .enum variants := by
  have unique : Relator.RightUnique fun (definition : Value) (text : String) =>
      definition.get? "value" = some (.str text) := by
    intro definition text text' first second
    cases first.symm.trans second
    rfl
  generalize same : "smithy.api#enum" = traitId at expresses other
  cases expresses with
  | enum each =>
    generalize same : "smithy.api#enum" = traitId at other
    cases other with
    | enum each' => rw [List.right_unique_forall₂' unique each each']
    | _ => simp at same

theorem exists_expressed {traits : Traits} {constraints : List Constraint} {traitId : String}
    {value : Value} (shown : ShowsTraits traits constraints)
    (given : traits.lookup traitId = some value) (constrains : traitId ∈ constraining) :
    ∃ constraint ∈ constraints, Expresses traitId value constraint := by
  obtain ⟨before, after, rfl, _⟩ := List.lookup_eq_some_iff.mp given
  have mem : (traitId, value) ∈ (before ++ (traitId, value) :: after).filter (·.1 ∈ constraining) :=
    List.mem_filter.mpr ⟨List.mem_append_right before List.mem_cons_self, by simpa using constrains⟩
  obtain ⟨constraint, listed, expresses⟩ := exists_of_forall₂_left shown mem
  exact ⟨constraint, listed, expresses⟩

/-- The values of an enum are listed whether its members, its trait or its integers give them. -/
theorem Shows.mem_constraints {entry : String × Shape} {shape : ServerSymbols.Shape}
    {listing : Constraint} {type : TypeExpr} (shows : Shows entry shape)
    (enumerates : shape.kind.Enumerates listing type) : listing ∈ shape.constraints := by
  obtain ⟨own, added, traits, kind, same⟩ := shows.parts
  rw [same]
  generalize shape.kind = shapeKind at kind enumerates
  cases enumerates with
  | enum variants =>
    cases kind with
    | enum => exact List.mem_append_right own List.mem_cons_self
    | text type given expresses =>
      obtain ⟨constraint, mem, other⟩ := exists_expressed traits given (by simp [constraining])
      rw [expresses.eq_enum other] at mem
      exact List.mem_append_left [] mem
  | intEnum variants =>
    cases kind with
    | intEnum => exact List.mem_append_right own List.mem_cons_self

/-- A shape of a document's model is one of the prelude or shown by an entry of the document. -/
theorem mem_prelude_or_shows {document : Document} {m : Model} (made : document.toModel = .ok m)
    {shape : ServerSymbols.Shape} (mem : shape ∈ m.shapes) :
    shape ∈ Shape.prelude ∨ ∃ entry ∈ document.shapes, Shows entry shape := by
  obtain ⟨shapes, shown, built⟩ := Except.bind_eq_ok.mp made
  rw [Model.shapes_of_build built] at mem
  rcases List.mem_append.mp mem with first | loaded
  · exact Or.inl first
  · exact Or.inr (exists_of_forall₂_right (shows_of_mapM shown) loaded)

end Document

/-! ### What follows from it -/

variable {shape : Shape} {listing : Constraint} {type : TypeExpr}

theorem Shape.isConstrained_of_enumerates (enumerates : shape.kind.Enumerates listing type)
    (mem : listing ∈ shape.constraints) : shape.isConstrained = true := by
  have data : shape.isData = true := by
    unfold Shape.isData Shape.type
    generalize shape.kind = kind at enumerates
    cases enumerates <;> rfl
  have own : shape.constraints.isEmpty = false := by
    rw [List.isEmpty_eq_false_iff]
    exact List.ne_nil_of_mem mem
  unfold Shape.isConstrained
  rw [data, own]
  rfl

theorem BaseSymbols.unconstrainedSymbol_of_enumerates {b : BaseSymbols}
    (found : b.model.get? shape.id = some shape)
    (enumerates : shape.kind.Enumerates listing type) :
    b.unconstrainedSymbol shape = .ok { type, kind := .raw } := by
  unfold unconstrainedSymbol
  rw [symbol_eq, found]
  dsimp only
  unfold shapeSymbol
  generalize shape.kind = kind at enumerates
  cases enumerates <;> rfl

namespace Document

/-- Let a shape of a document's model be an enum or integer enum. One of its constraints lists its
values, in their order and even if there are none. So the shape, and each shape from which members
lead to it, reaches a constrained shape in every service with it, whichever way this is found out;
and in a run for such a service, a string stands for the enum, or an integer of 32 bits, that is not
checked yet. -/
theorem enumeration_listed (document : Document) (m : Model) (made : document.toModel = .ok m)
    (shape : ServerSymbols.Shape) (mem : shape ∈ m.shapes) (listing : Constraint) (type : TypeExpr)
    (enumerates : shape.kind.Enumerates listing type) :
    listing ∈ shape.constraints ∧
      ∀ (s : Settings) (closure : Closure), m.serviceClosure s.service = .ok closure →
        shape.id ∈ closure.ids →
        (∀ strategy, ∃ r, Reachability.compute m closure strategy = .ok r ∧
          ∀ id ∈ closure.ids, m.MemberPath id shape.id → r.reaches? id = some true) ∧
        (Context.mk m s).Resolves shape.id (.ok { type, kind := .raw }) := by
  have listed : listing ∈ shape.constraints := by
    rcases mem_prelude_or_shows made mem with first | ⟨entry, _, shows⟩
    · obtain ⟨kind, _, rfl⟩ := List.mem_map.mp first
      cases enumerates
    · exact shows.mem_constraints enumerates
  have found := Model.get?_of_mem mem
  have constrained : m.IsConstrained shape.id :=
    ⟨shape, found, Shape.isConstrained_of_enumerates enumerates listed⟩
  refine ⟨listed, fun s closure accepted inside => ⟨fun strategy => ?_, ?_⟩⟩
  · have closed := Model.serviceClosure_closed accepted
    obtain ⟨marks, passes, computed, _⟩ := Reachability.compute_eq_ok closed strategy
    refine ⟨_, computed, fun id listed path => ?_⟩
    exact (Reachability.reaches?_of_compute closed computed listed).mpr ⟨_, path, constrained⟩
  · have reaches : m.ReachesConstrained shape.id := ⟨_, Relation.ReflTransGen.refl, constrained⟩
    have symbol := Context.plainSymbol_eq_unconstrained (c := ⟨m, s⟩) accepted inside found reaches
    have typed := BaseSymbols.unconstrainedSymbol_of_enumerates (b := (Context.mk m s).base)
      found enumerates
    rw [← typed, ← symbol]
    exact Context.resolves_plainSymbol _ shape.id

/-- An enum that is a string with a trait, and an integer enum without members. -/
def diary : Document where
  version := "2.0"
  shapes := [
    ("test#Diary", { type := "service", operations := ["test#Write"] }),
    ("test#Write", { type := "operation", input := some "test#Entry" }),
    ("test#Entry", { type := "structure", members := [
      ("mood", { target := "test#Mood" }), ("level", { target := "test#Level" })] }),
    ("test#Mood", { type := "string", traits := [("smithy.api#enum",
      .arr [.obj [("value", .str "good")], .obj [("value", .str "bad")]])] }),
    ("test#Level", { type := "intEnum" })]

end Document

def Shape.mood : Shape := .ofEnum ⟨"test", "Mood"⟩ ["good", "bad"]

def Shape.level : Shape := .ofIntEnum ⟨"test", "Level"⟩ []

/-- The shapes of `Document.diary`. -/
def Shape.diary : List Shape := [
  ⟨⟨"test", "Diary"⟩, .service [⟨"test", "Write"⟩] [], []⟩,
  ⟨⟨"test", "Write"⟩, .operation (some ⟨"test", "Entry"⟩) none [], []⟩,
  ⟨⟨"test", "Entry"⟩, .struct [⟨"mood", ⟨"test", "Mood"⟩, []⟩,
    ⟨"level", ⟨"test", "Level"⟩, []⟩], []⟩,
  .mood, .level]

def Model.diary : Model where
  shapes := Shape.prelude ++ Shape.diary
  prelude_first := List.prefix_append _ _
  nodup := by decide +kernel
  closed := by decide +kernel
  unnested := by cbv

/-- What the service of `Model.diary` leads to. -/
def Closure.diary : Closure where
  root := ⟨"test", "Diary"⟩
  ids := [⟨"test", "Diary"⟩, ⟨"test", "Write"⟩, ⟨"test", "Entry"⟩, ⟨"test", "Mood"⟩,
    ⟨"test", "Level"⟩]

namespace Document

theorem enumeration_listed_diary :
    let s : Settings := .forService ⟨"test", "Diary"⟩ "diary"
    diary.toModel = .ok Model.diary ∧
      Model.diary.serviceClosure s.service = .ok Closure.diary ∧
      (Shape.mood ∈ Model.diary.shapes ∧
        Shape.mood.kind.Enumerates (.enum ["good", "bad"]) .string ∧
        Shape.mood.id ∈ Closure.diary.ids ∧
        .enum ["good", "bad"] ∈ Shape.mood.constraints ∧
        (Context.mk Model.diary s).Resolves Shape.mood.id (.ok { type := .string, kind := .raw })) ∧
      Shape.level ∈ Model.diary.shapes ∧ Shape.level.kind.Enumerates (.intEnum []) (.int 32) ∧
      Shape.level.id ∈ Closure.diary.ids ∧ .intEnum [] ∈ Shape.level.constraints ∧
      ∀ strategy, ∃ r, Reachability.compute Model.diary Closure.diary strategy = .ok r ∧
        r.reaches? ⟨"test", "Entry"⟩ = some true := by
  intro s
  have shown : (diary.shapes.mapM fun entry => toShape entry.1 entry.2) = .ok Shape.diary := rfl
  have made : diary.toModel = .ok Model.diary :=
    Except.bind_eq_ok.mpr ⟨Shape.diary, shown, Model.build_of_shapes rfl⟩
  have found : Model.diary.serviceClosure s.service = .ok Closure.diary := by cbv
  have mood : Shape.mood ∈ Model.diary.shapes := by simp [Model.diary, Shape.diary]
  have level : Shape.level ∈ Model.diary.shapes := by simp [Model.diary, Shape.diary]
  have inside : Shape.mood.id ∈ Closure.diary.ids := by decide +kernel
  have inside' : Shape.level.id ∈ Closure.diary.ids := by decide +kernel
  obtain ⟨listed, follows⟩ :=
    enumeration_listed diary Model.diary made Shape.mood mood _ _ (.enum ["good", "bad"])
  obtain ⟨listed', follows'⟩ :=
    enumeration_listed diary Model.diary made Shape.level level _ _ (.intEnum [])
  have step : Model.diary.MemberPath ⟨"test", "Entry"⟩ Shape.level.id :=
    Relation.ReflTransGen.single ⟨_, rfl, by decide +kernel⟩
  refine ⟨made, found, ⟨mood, .enum _, inside, listed, (follows s _ found inside).2⟩, level,
    .intEnum [], inside', listed', fun strategy => ?_⟩
  obtain ⟨r, computed, reaches⟩ := (follows' s _ found inside').1 strategy
  exact ⟨r, computed, reaches _ (by decide +kernel) step⟩

end Document

end ServerSymbols
