import ServerSymbols.Command.Arguments
import ServerSymbols.Document.Shapes
import ServerSymbols.Json.Printer
import ServerSymbols.Table.Layout

set_option autoImplicit false

/-
The command: reads a model and settings, and prints the symbol table of a service.
-/
namespace ServerSymbols.Command

/-- Why the text of a file cannot be read. -/
inductive FileFault where
  | notFound
  | isDirectory
  /-- A name on its path but the last is no directory. -/
  | notDirectory
  /-- Its bytes are no UTF-8. -/
  | notText
deriving DecidableEq

inductive Failure where
  | readModel (path : String) (fault : FileFault)
  | loadModel (path : String) (error : ModelError)
  | serviceArgument (text : String) (fault : ShapeId.Fault)
  | noService
  | readSettings (path : String) (fault : FileFault)
  | parseSettings (path : String) (error : Json.Error)
  | loadSettings (path : String) (error : Json.Error)
  | setUp (error : SymbolError)
  | table (error : Table.RowError)

/-- One link in the explanation of a failure. -/
inductive Cause where
  | text (message : String)
  | file (fault : FileFault)
  | json (error : Json.Error)

/-- An unreadable document explains itself. -/
def modelCauses : ModelError → List Cause
  | .json error => [.json error]
  | error => [.text error.message]

/-- An error of the model is both what failed and why. -/
def symbolCauses : SymbolError → List Cause
  | .model error => .text (SymbolError.model error).message :: modelCauses error
  | error => [.text error.message]

namespace Failure

/-- What failed, and then why, step by step. -/
def causes : Failure → List Cause
  | readModel path fault => [.text ("failed to read model " ++ path), .file fault]
  | loadModel path error => .text ("failed to load model " ++ path) :: modelCauses error
  | serviceArgument text fault =>
    .text ("invalid --service '" ++ text ++ "'") :: modelCauses (.invalidId text fault)
  | noService => [.text "either --service or --settings must name the service"]
  | readSettings path fault => [.text ("failed to read settings " ++ path), .file fault]
  | parseSettings path error =>
    [.text ("settings " ++ path ++ " are not valid JSON"), .json error]
  | loadSettings path error => [.text ("invalid settings in " ++ path), .json error]
  | setUp error => .text "failed to set up the generation run" :: symbolCauses error
  | table (.symbol error) => symbolCauses error
  | table (.unresolved id error) => .text ("failed to resolve " ++ id.text) :: symbolCauses error

end Failure

/-- The texts of files by their paths. -/
abbrev Files := String → Except FileFault String

def loadModel (files : Files) (path : String) : Except Failure Model := do
  let text ← (files path).mapError (.readModel path)
  (Model.ofText text).mapError (.loadModel path)

/-- The whole file has to be JSON before any of it is read as settings. -/
def loadSettings (files : Files) (path : String) : Except Failure Settings := do
  let text ← (files path).mapError (.readSettings path)
  let value ← (Json.decodeDocument Json.decodeValue Json.nestingLimit text).mapError
    (.parseSettings path)
  (Settings.ofValue value).mapError (.loadSettings path)

/-- The service that the arguments name. -/
def serviceArgument (args : Arguments) : Except Failure (Option ShapeId) :=
  match args.service with
  | none => .ok none
  | some text => ((ShapeId.parse text).mapError (.serviceArgument text)).map some

/-- The settings of the file that the arguments name, or else the usual settings for their service.
A service and a strategy among the arguments count more than those of the file. -/
def resolveSettings (files : Files) (args : Arguments) : Except Failure Settings := do
  let service ← serviceArgument args
  let settings ←
    match args.settings, service with
    | some path, service => do
      let settings ← loadSettings files path
      .ok { settings with service := service.getD settings.service }
    | none, some service =>
      .ok (Settings.forService service (Identifier.snakeCase service.name))
    | none, none => .error .noService
  let strategy := args.strategy.getD settings.codegen.strategy
  .ok { settings with codegen := { settings.codegen with strategy } }

/-- What the command prints. -/
def run (files : Files) (args : Arguments) (color : Bool) : Except Failure String := do
  let model ← loadModel files args.model
  let settings ← resolveSettings files args
  let context ← (Context.make model settings).mapError .setUp
  let rows ← ((Table.rows context args.onlyUnconstrained).answer {}).1.mapError .table
  match args.format with
  | .text => .ok (Table.render color rows)
  | .json => .ok ((Json.Value.arr (rows.map (·.toValue))).pretty 0 ++ "\n")

end ServerSymbols.Command
