set_option autoImplicit false

/-
Absolute shape ids, written `namespace#Name`.
-/
namespace ServerSymbols

structure ShapeId where
  space : String
  name : String
deriving DecidableEq

namespace ShapeId

/-- The namespace of the shapes that every model has. -/
def preludeSpace : String := "smithy.api"

def prelude (name : String) : ShapeId := ⟨preludeSpace, name⟩

def isPrelude (id : ShapeId) : Bool :=
  id.space == preludeSpace

/-- The written form. -/
def text (id : ShapeId) : String :=
  id.space ++ "#" ++ id.name

instance : ToString ShapeId := ⟨text⟩

/-- Why a text is no shape id. -/
inductive Fault where
  | noSeparator
  | emptySpace
  | emptyName
  | memberId
  | twoSeparators
deriving DecidableEq

def Fault.reason : Fault → String
  | .noSeparator => "missing '#'"
  | .emptySpace => "empty namespace"
  | .emptyName => "empty name"
  | .memberId => "member ids are not shape ids"
  | .twoSeparators => "more than one '#'"

/-- Reads a shape id; the first `#` separates namespace and name. -/
def parse (text : String) : Except Fault ShapeId :=
  let chars := text.toList
  let space := chars.takeWhile (· != '#')
  match chars.dropWhile (· != '#') with
  | [] => .error .noSeparator
  | _ :: name =>
    if space.isEmpty then .error .emptySpace
    else if name.isEmpty then .error .emptyName
    else if name.contains '$' then .error .memberId
    else if name.contains '#' then .error .twoSeparators
    else .ok ⟨String.ofList space, String.ofList name⟩

/-- By namespace and then by name, character by character. -/
def le (a b : ShapeId) : Bool :=
  a.space < b.space || (a.space == b.space && a.name ≤ b.name)

/-- The ids in ascending order, each once. -/
def sorted (ids : List ShapeId) : List ShapeId :=
  (ids.mergeSort le).eraseDups

end ShapeId

end ServerSymbols
