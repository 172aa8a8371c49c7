import ServerSymbols.Shape
import ServerSymbols.Json.Error

set_option autoImplicit false

/-
What can be wrong with a model.
-/
namespace ServerSymbols

/-- What is wrong with the value of a trait, or with a part that a shape of its type needs. -/
inductive TraitFault where
  | missingMember (type name : String)
  | boundNotNatural (bound : String)
  | boundNotNumber (bound : String)
  | notString
  | notDefinitions
  | definitionWithoutValue
  | notInt32

def TraitFault.reason : TraitFault → String
  | missingMember type name => type ++ " shape is missing its '" ++ name ++ "' member"
  | boundNotNatural bound => "'" ++ bound ++ "' must be a non-negative integer"
  | boundNotNumber bound => "'" ++ bound ++ "' must be a number"
  | notString => "expected a string"
  | notDefinitions => "expected a list of enum definitions"
  | definitionWithoutValue => "enum definition without a string 'value'"
  | notInt32 => "intEnum member needs a 32-bit integer value"

inductive ModelError where
  /-- A text is no shape id. -/
  | invalidId (text : String) (fault : ShapeId.Fault)
  /-- A shape id is defined twice. -/
  | duplicateShape (id : ShapeId)
  /-- A shape refers to a shape that is not defined. -/
  | unknownTarget (shape target : ShapeId)
  /-- A shape was asked for that is not defined. -/
  | unknownShape (id : ShapeId)
  /-- A cycle runs through lists, sets and maps only. -/
  | invalidRecursion (cycle : List ShapeId)
  /-- A document has a shape of an unknown type. -/
  | unsupportedType (shape type : String)
  /-- The shape to generate is no service. -/
  | notService (shape : ShapeId) (found : ShapeType)
  /-- Two shapes of a service would get the same name in generated code. -/
  | conflictingNames (first second : ShapeId)
  | invalidTrait (owner traitId : String) (fault : TraitFault)
  /-- A document cannot be read. -/
  | json (error : Json.Error)

namespace ModelError

def invalidIdMessage (text : String) (fault : ShapeId.Fault) : String :=
  "invalid shape id '" ++ text ++ "': " ++ fault.reason

def message : ModelError → String
  | invalidId text fault => invalidIdMessage text fault
  | duplicateShape id => "shape '" ++ id.text ++ "' is defined more than once"
  | unknownTarget shape target =>
    "shape '" ++ shape.text ++ "' targets undefined shape '" ++ target.text ++ "'"
  | unknownShape id => "shape '" ++ id.text ++ "' is not defined in the model"
  | invalidRecursion cycle =>
    "recursive collection without an intervening structure or union: " ++
      " -> ".intercalate (cycle.map (·.text))
  | unsupportedType shape type =>
    "shape '" ++ shape ++ "' has unsupported type '" ++ type ++ "'"
  | notService shape found =>
    "shape '" ++ shape.text ++ "' is a " ++ found.name ++ ", expected a service"
  | conflictingNames first second =>
    "shapes '" ++ first.text ++ "' and '" ++ second.text ++ "' generate conflicting Rust names"
  | invalidTrait owner traitId fault =>
    "invalid trait '" ++ traitId ++ "' on '" ++ owner ++ "': " ++ fault.reason
  | json error => "invalid model JSON: " ++ error.message

end ModelError

/-- Reads a shape id; the error keeps the text. -/
def ShapeId.read (text : String) : Except ModelError ShapeId :=
  (ShapeId.parse text).mapError (.invalidId text)

end ServerSymbols
