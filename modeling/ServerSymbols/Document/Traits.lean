import ServerSymbols.Document.Basic
import ServerSymbols.Model.Error

set_option autoImplicit false

/-
The constraints that the traits of a document stand for.
-/
namespace ServerSymbols.Document

open Json

/-- An optional bound: nothing if the entry is missing or null, an error if it is no number of the
wanted kind. -/
def bound? {α : Type} (read : Value → Option α) (fault : String → TraitFault) (name : String)
    (value : Value) : Except TraitFault (Option α) :=
  match value.get? name with
  | none | some .null => .ok none
  | some bound =>
    match read bound with
    | some number => .ok (some number)
    | none => .error (fault name)

/-- The string of one definition in the list of an enum trait. -/
def definitionValue (definition : Value) : Except TraitFault String :=
  match (definition.get? "value").bind Value.asString? with
  | some value => .ok value
  | none => .error .definitionWithoutValue

def enumValues : List Value → Except TraitFault (List String)
  | [] => .ok []
  | definition :: rest => do
    let first ← definitionValue definition
    let others ← enumValues rest
    .ok (first :: others)

/-- The constraint of one trait; traits that constrain nothing have none. -/
def constraint? (traitId : String) (value : Value) : Except TraitFault (Option Constraint) :=
  match traitId with
  | "smithy.api#required" => .ok (some .required)
  | "smithy.api#uniqueItems" => .ok (some .uniqueItems)
  | "smithy.api#length" => do
    let min ← bound? Value.asUInt64? .boundNotNatural "min" value
    let max ← bound? Value.asUInt64? .boundNotNatural "max" value
    .ok (some (.length min max))
  | "smithy.api#range" => do
    let min ← bound? Value.asFloat? .boundNotNumber "min" value
    let max ← bound? Value.asFloat? .boundNotNumber "max" value
    .ok (some (.range min max))
  | "smithy.api#pattern" =>
    match value.asString? with
    | some text => .ok (some (.pattern text))
    | none => .error .notString
  | "smithy.api#enum" =>
    match value.asArray? with
    | some definitions => (enumValues definitions).map fun values => some (.enum values)
    | none => .error .notDefinitions
  | _ => .ok none

/-- The constraints of the traits of `owner`, in the order of the document. -/
def constraints (owner : String) : Traits → Except ModelError (List Constraint)
  | [] => .ok []
  | (traitId, value) :: rest => do
    let first ← (constraint? traitId value).mapError (.invalidTrait owner traitId)
    let others ← constraints owner rest
    .ok (first.toList ++ others)

end ServerSymbols.Document
