import ServerSymbols.Document.Decode
import ServerSymbols.Document.Traits
import ServerSymbols.Model.Basic

set_option autoImplicit false

/-
From a document to a model.
-/
namespace ServerSymbols.Document

open Json

def targets (texts : List String) : Except ModelError (List ShapeId) :=
  texts.mapM ShapeId.read

def optionalTarget (text : Option String) : Except ModelError (Option ShapeId) :=
  match text with
  | none => .ok none
  | some text => (ShapeId.read text).map some

/-- The name of a member in messages. -/
def memberText (shape name : String) : String :=
  shape ++ "$" ++ name

def toMember (shape name : String) (member : Member) : Except ModelError ServerSymbols.Member := do
  let target ← ShapeId.read member.target
  let constraints ← constraints (memberText shape name) member.traits
  .ok { name, target, constraints }

def toMembers (shape : String) (members : List (String × Member)) :
    Except ModelError (List ServerSymbols.Member) :=
  members.mapM fun (name, member) => toMember shape name member

/-- A member that shapes of this type cannot do without. -/
def neededMember (shape type name : String) (member : Option Member) :
    Except ModelError ServerSymbols.Member :=
  match member with
  | some member => toMember shape name member
  | none => .error (.invalidTrait shape name (.missingMember type name))

def enumValueTrait : String := "smithy.api#enumValue"

/-- What a member of an enum stands for: the string of its trait, else its name. -/
def variantText (name : String) (member : Member) : String :=
  ((member.traits.lookup enumValueTrait).bind Value.asString?).getD name

/-- What a member of an integer enum stands for. It has to say so in its trait. -/
def variantInt (shape name : String) (member : Member) : Except ModelError (String × Int32) :=
  match (member.traits.lookup enumValueTrait).bind Value.asInt32? with
  | some value => .ok (name, value)
  | none => .error (.invalidTrait (memberText shape name) enumValueTrait .notInt32)

def enumConstraint? : Constraint → Option (List String)
  | .enum values => some values
  | _ => none

/-- The kind of a shape without members. A string with an enum trait is an enum. -/
def simpleKind (shape type : String) (constraints : List Constraint) :
    Except ModelError ShapeKind :=
  match Primitive.ofTypeName? type with
  | none => .error (.unsupportedType shape type)
  | some kind =>
    match if kind = .string then constraints.findSome? enumConstraint? else none with
    | some variants => .ok (.enum variants)
    | none => .ok (.primitive kind)

/-- The kind of a shape, and what the kind adds to the constraints of the traits. -/
def toKind (id : String) (shape : Shape) (constraints : List Constraint) :
    Except ModelError (ShapeKind × List Constraint) := do
  match shape.type with
  | "structure" => do
    let members ← toMembers id shape.members
    .ok (.struct members, [])
  | "union" => do
    let members ← toMembers id shape.members
    .ok (.union members, [])
  | "list" => do
    let member ← neededMember id "list" "member" shape.member
    .ok (.list member, [])
  | "set" => do
    let member ← neededMember id "set" "member" shape.member
    .ok (.set member, [])
  | "map" => do
    let key ← neededMember id "map" "key" shape.key
    let value ← neededMember id "map" "value" shape.value
    .ok (.map key value, [])
  | "enum" =>
    let variants := shape.members.map fun (name, member) => variantText name member
    .ok (.enum variants, [.enum variants])
  | "intEnum" => do
    let variants ← shape.members.mapM fun (name, member) => variantInt id name member
    .ok (.intEnum variants, [.intEnum (variants.map (·.2))])
  | "operation" => do
    let input ← optionalTarget shape.input
    let output ← optionalTarget shape.output
    let errors ← targets shape.errors
    .ok (.operation input output errors, [])
  | "resource" => do
    let identifiers ← targets (shape.identifiers.map (·.2))
    let operations ←
      targets (shape.lifecycle.targets ++ shape.operations ++ shape.collectionOperations)
    let resources ← targets shape.resources
    .ok (.resource identifiers operations resources, [])
  | "service" => do
    let operations ← targets shape.operations
    let resources ← targets shape.resources
    .ok (.service operations resources, [])
  | type => (simpleKind id type constraints).map (·, [])

def toShape (id : String) (shape : Shape) : Except ModelError ServerSymbols.Shape := do
  let shapeId ← ShapeId.read id
  let constraints ← constraints id shape.traits
  let (kind, added) ← toKind id shape constraints
  .ok { id := shapeId, kind, constraints := constraints ++ added }

end ServerSymbols.Document

namespace ServerSymbols

/-- The model of a document: its shapes in their order. -/
def Document.toModel (document : Document) : Except ModelError Model := do
  let shapes ← document.shapes.mapM fun (id, shape) => Document.toShape id shape
  Model.build shapes

namespace Model

def ofText (text : String) : Except ModelError Model := do
  let document ← (Document.ofText text).mapError .json
  document.toModel

def ofValue (value : Json.Value) : Except ModelError Model := do
  let document ← (Document.ofValue value).mapError .json
  document.toModel

end Model

end ServerSymbols
