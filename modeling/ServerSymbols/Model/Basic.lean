import ServerSymbols.Model.Error
import ServerSymbols.Digraph.Cycle

set_option autoImplicit false

/-
Models: graphs of shapes in which every reference has a target and every collection can be
unfolded to something that is no collection.
-/
namespace ServerSymbols

/-- The first id that occurs among `seen` or earlier in the list. -/
def firstRepeated? (seen : List ShapeId) : List ShapeId → Option ShapeId
  | [] => none
  | id :: rest => if id ∈ seen then some id else firstRepeated? (id :: seen) rest

theorem firstRepeated?_eq_none_iff {seen ids : List ShapeId} :
    firstRepeated? seen ids = none ↔ ids.Nodup ∧ ∀ id ∈ ids, id ∉ seen := by
  induction ids generalizing seen with
  | nil => simp [firstRepeated?]
  | cons id rest ih =>
    unfold firstRepeated?
    split
    · next h => simp [h]
    · next h =>
      rw [ih]
      simp only [List.nodup_cons, List.mem_cons, not_or, forall_eq_or_imp, h, not_false_eq_true,
        true_and]
      constructor
      · rintro ⟨nodup, fresh⟩
        exact ⟨⟨fun mem => (fresh id mem).1 rfl, nodup⟩, fun x mem => (fresh x mem).2⟩
      · rintro ⟨⟨notin, nodup⟩, fresh⟩
        exact ⟨nodup, fun x mem => ⟨fun eq => notin (eq ▸ mem), fresh x mem⟩⟩

namespace Shape

def ids (shapes : List Shape) : List ShapeId :=
  shapes.map (·.id)

/-- The first reference to a shape that is not among the shapes, with the shape that refers. -/
def danglingRef? (shapes : List Shape) : Option (ShapeId × ShapeId) :=
  shapes.findSome? fun shape =>
    (shape.refs.find? (· ∉ ids shapes)).map (shape.id, ·)

theorem mem_ids_of_danglingRef?_eq_none {shapes : List Shape} (h : danglingRef? shapes = none)
    (shape : Shape) (mem : shape ∈ shapes) (target : ShapeId) (ref : target ∈ shape.refs) :
    target ∈ ids shapes := by
  have none_found := List.findSome?_eq_none_iff.mp h shape mem
  rw [Option.map_eq_none_iff, List.find?_eq_none] at none_found
  simpa using none_found target ref

def indexOf? (shapes : List Shape) (id : ShapeId) : Option (Fin shapes.length) :=
  shapes.findFinIdx? (·.id == id)

/-- The members of collections that are collections again. -/
def collectionGraph (shapes : List Shape) : Digraph shapes.length :=
  .ofFn fun i =>
    if shapes[i].isCollection then
      (shapes[i].targets.filterMap (indexOf? shapes)).filter (shapes[·].isCollection)
    else []

end Shape

/-- The shapes in order of their definition, those of the prelude first. -/
structure Model where
  shapes : List Shape
  prelude_first : Shape.prelude <+: shapes
  nodup : (Shape.ids shapes).Nodup
  closed : ∀ shape ∈ shapes, ∀ target ∈ shape.refs, target ∈ Shape.ids shapes
  unnested : (Shape.collectionGraph shapes).cycle? = none

namespace Model

@[ext] theorem ext {m n : Model} (h : m.shapes = n.shapes) : m = n := by
  cases m; cases n; cases h; rfl

/-- Adds shapes to those of the prelude. Repeated ids are reported first, then references that
lead nowhere, then collections that contain themselves. -/
def build (added : List Shape) : Except ModelError Model :=
  let shapes := Shape.prelude ++ added
  match repeated : firstRepeated? [] (Shape.ids shapes) with
  | some id => .error (.duplicateShape id)
  | none =>
    match dangling : Shape.danglingRef? shapes with
    | some (shape, target) => .error (.unknownTarget shape target)
    | none =>
      match cycle : (Shape.collectionGraph shapes).cycle? with
      | some nodes => .error (.invalidRecursion (nodes.map (shapes[·].id)))
      | none => .ok {
          shapes
          prelude_first := List.prefix_append _ _
          nodup := (firstRepeated?_eq_none_iff.mp repeated).1
          closed := Shape.mem_ids_of_danglingRef?_eq_none dangling
          unnested := cycle }

def get? (m : Model) (id : ShapeId) : Option Shape :=
  m.shapes.find? (·.id == id)

def contains (m : Model) (id : ShapeId) : Bool :=
  (m.get? id).isSome

def expectShape (m : Model) (id : ShapeId) : Except ModelError Shape :=
  match m.get? id with
  | some shape => .ok shape
  | none => .error (.unknownShape id)

def expectService (m : Model) (id : ShapeId) : Except ModelError Shape := do
  let shape ← m.expectShape id
  if shape.type = .service then .ok shape else .error (.notService id shape.type)

def services (m : Model) : List Shape :=
  m.shapes.filter (·.type = .service)

def size (m : Model) : Nat :=
  m.shapes.length

end Model

end ServerSymbols
