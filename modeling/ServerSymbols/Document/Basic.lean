import ServerSymbols.Json.Value

set_option autoImplicit false

/-
Model documents: the JSON form in which shapes are exchanged. Only the parts that say something
about symbols are kept, as texts that are not checked yet.
-/
namespace ServerSymbols.Document

/-- Traits by their ids. -/
abbrev Traits := List (String × Json.Value)

structure Member where
  target : String
  traits : Traits := []

/-- The operations that act on one resource as a whole. -/
structure Lifecycle where
  create : Option String := none
  put : Option String := none
  read : Option String := none
  update : Option String := none
  delete : Option String := none
  list : Option String := none

/-- The operations that are there, in a fixed order. -/
def Lifecycle.targets (l : Lifecycle) : List String :=
  [l.create, l.put, l.read, l.update, l.delete, l.list].filterMap id

/-- A shape of any type. The fields that its type does not use may be there, too. -/
structure Shape where
  type : String
  members : List (String × Member) := []
  member : Option Member := none
  key : Option Member := none
  value : Option Member := none
  input : Option String := none
  output : Option String := none
  errors : List String := []
  operations : List String := []
  resources : List String := []
  identifiers : List (String × String) := []
  lifecycle : Lifecycle := {}
  collectionOperations : List String := []
  traits : Traits := []

end ServerSymbols.Document

namespace ServerSymbols

structure Document where
  version : String
  shapes : List (String × Document.Shape)

end ServerSymbols
