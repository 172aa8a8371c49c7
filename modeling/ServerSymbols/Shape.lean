import ServerSymbols.ShapeId
import ServerSymbols.Constraint

set_option autoImplicit false

/-
Shapes and their members: the nodes of a model and the references between them.
-/
namespace ServerSymbols

/-- The simple shapes, which have no members. -/
inductive Primitive where
  | blob
  | boolean
  | string
  | byte
  | short
  | integer
  | long
  | float
  | double
  | timestamp
  | document
  | bigInteger
  | bigDecimal
deriving DecidableEq

namespace Primitive

/-- All of them, in the order of the prelude. -/
def all : List Primitive :=
  [blob, boolean, string, byte, short, integer, long, float, double, timestamp, document,
    bigInteger, bigDecimal]

/-- The name of the prelude's shape of this kind. -/
def shapeName : Primitive → String
  | blob => "Blob"
  | boolean => "Boolean"
  | string => "String"
  | byte => "Byte"
  | short => "Short"
  | integer => "Integer"
  | long => "Long"
  | float => "Float"
  | double => "Double"
  | timestamp => "Timestamp"
  | document => "Document"
  | bigInteger => "BigInteger"
  | bigDecimal => "BigDecimal"

/-- The name of the type in documents and messages. -/
def typeName : Primitive → String
  | blob => "blob"
  | boolean => "boolean"
  | string => "string"
  | byte => "byte"
  | short => "short"
  | integer => "integer"
  | long => "long"
  | float => "float"
  | double => "double"
  | timestamp => "timestamp"
  | document => "document"
  | bigInteger => "bigInteger"
  | bigDecimal => "bigDecimal"

def ofTypeName? (name : String) : Option Primitive :=
  all.find? (·.typeName == name)

end Primitive

/-- A named reference to a target shape, with constraints of its own. -/
structure Member where
  name : String
  target : ShapeId
  constraints : List Constraint := []

def Member.isConstrained (m : Member) : Bool :=
  !m.constraints.isEmpty

inductive ShapeType where
  | struct
  | union
  | list
  | set
  | map
  | enum
  | intEnum
  | primitive (kind : Primitive)
  | operation
  | resource
  | service
deriving DecidableEq

def ShapeType.name : ShapeType → String
  | struct => "structure"
  | union => "union"
  | list => "list"
  | set => "set"
  | map => "map"
  | enum => "enum"
  | intEnum => "intEnum"
  | primitive kind => kind.typeName
  | operation => "operation"
  | resource => "resource"
  | service => "service"

/-- What a shape is, with the parts that belong to its type. -/
inductive ShapeKind where
  | struct (members : List Member)
  | union (members : List Member)
  | list (member : Member)
  | set (member : Member)
  | map (key value : Member)
  | enum (variants : List String)
  /-- Each name stands for an integer. -/
  | intEnum (variants : List (String × Int32))
  | primitive (kind : Primitive)
  | operation (input output : Option ShapeId) (errors : List ShapeId)
  | resource (identifiers operations resources : List ShapeId)
  | service (operations resources : List ShapeId)

namespace ShapeKind

def type : ShapeKind → ShapeType
  | struct _ => .struct
  | union _ => .union
  | list _ => .list
  | set _ => .set
  | map _ _ => .map
  | enum _ => .enum
  | intEnum _ => .intEnum
  | primitive kind => .primitive kind
  | operation _ _ _ => .operation
  | resource _ _ _ => .resource
  | service _ _ => .service

/-- Members in declaration order, the key of a map before its value. -/
def members : ShapeKind → List Member
  | struct members | union members => members
  | list member | set member => [member]
  | map key value => [key, value]
  | _ => []

/-- The shapes that the members refer to. -/
def targets (kind : ShapeKind) : List ShapeId :=
  kind.members.map (·.target)

/-- Every shape that is referred to: the targets of members, what an operation takes, returns and
fails with, and what is bound to a service or resource. -/
def refs : ShapeKind → List ShapeId
  | operation input output errors => input.toList ++ output.toList ++ errors
  | resource identifiers operations resources => identifiers ++ operations ++ resources
  | service operations resources => operations ++ resources
  | kind => kind.targets

end ShapeKind

namespace ShapeType

/-- Shapes that describe values; operations, resources and services do not. -/
def isData : ShapeType → Bool
  | operation | resource | service => false
  | _ => true

/-- Lists, sets and maps. -/
def isCollection : ShapeType → Bool
  | list | set | map => true
  | _ => false

end ShapeType

structure Shape where
  id : ShapeId
  kind : ShapeKind
  /-- The constraints of the shape itself, without those of its members. -/
  constraints : List Constraint := []

namespace Shape

def type (s : Shape) : ShapeType := s.kind.type

def isData (s : Shape) : Bool := s.type.isData

def isCollection (s : Shape) : Bool := s.type.isCollection

def members (s : Shape) : List Member := s.kind.members

def member? (s : Shape) (name : String) : Option Member :=
  s.members.find? (·.name == name)

def targets (s : Shape) : List ShapeId := s.kind.targets

def refs (s : Shape) : List ShapeId := s.kind.refs

/-- A data shape with a constraint on itself or on one of its members. What the members' targets
carry does not matter. -/
def isConstrained (s : Shape) : Bool :=
  s.isData && (!s.constraints.isEmpty || s.members.any Member.isConstrained)

/-- An enum carries its values as a constraint as well. -/
def ofEnum (id : ShapeId) (variants : List String) : Shape :=
  ⟨id, .enum variants, [.enum variants]⟩

/-- An integer enum carries its values as a constraint as well. -/
def ofIntEnum (id : ShapeId) (variants : List (String × Int32)) : Shape :=
  ⟨id, .intEnum variants, [.intEnum (variants.map (·.2))]⟩

/-- A list of the target, under the usual name of the member. -/
def ofList (id target : ShapeId) : Shape :=
  ⟨id, .list ⟨"member", target, []⟩, []⟩

def ofSet (id target : ShapeId) : Shape :=
  ⟨id, .set ⟨"member", target, []⟩, []⟩

def ofMap (id key value : ShapeId) : Shape :=
  ⟨id, .map ⟨"key", key, []⟩ ⟨"value", value, []⟩, []⟩

def addConstraint (constraint : Constraint) (s : Shape) : Shape :=
  { s with constraints := s.constraints ++ [constraint] }

/-- Binds more resources to a service or resource; other shapes stay as they are. -/
def bindResources (bound : List ShapeId) (s : Shape) : Shape :=
  match s.kind with
  | .service operations resources => { s with kind := .service operations (resources ++ bound) }
  | .resource identifiers operations resources =>
    { s with kind := .resource identifiers operations (resources ++ bound) }
  | _ => s

/-- The shapes that every model starts with. -/
def prelude : List Shape :=
  Primitive.all.map fun kind => ⟨.prelude kind.shapeName, .primitive kind, []⟩

end Shape

end ServerSymbols
