import ServerSymbols.Command.Run
import ServerSymbols.Command.Logging

set_option autoImplicit false

/-
The command line: reads the files that the arguments name, and prints the symbol table.
-/
namespace ServerSymbols.Command

def FileFault.describe : FileFault → String
  | notFound => "no such file"
  | isDirectory => "is a directory"
  | notDirectory => "not a directory"
  | notText => "the file is not UTF-8"

def Cause.describe : Cause → String
  | text message => message
  | file fault => fault.describe
  | json error => error.message

def UsageError.describe : UsageError → String
  | unknownArgument => "unexpected argument"
  | invalidValue => "an option has no value or one that is not allowed"
  | missingArgument => "--model is required"
  | repeatedArgument => "an option is given twice"
  | unexpectedValue => "an option that takes no value has one"
  | help => helpText
  | version => versionText
where
  helpText := "\n".intercalate [
    "Print the server symbol table of a Smithy model",
    "",
    "  -m, --model <PATH>         model file",
    "  -s, --settings <PATH>      settings file",
    "      --service <ID>         service to generate",
    "  -u, --unconstrained-only   only shapes with an unconstrained symbol",
    "  -f, --format <FORMAT>      text or json",
    "      --strategy <STRATEGY>  condensation or fixpoint",
    "      --no-color             no colors",
    "  -h, --help                 print this text",
    "  -V, --version              print the version"]
  versionText := "0.1.0"

/-- The text of a file. A directory can be opened but not read; the error of an opening names the
path, that of a reading does not. -/
def readFile (path : String) : IO (Except FileFault String) := do
  try
    let bytes ← IO.FS.readBinFile path
    match String.fromUTF8? bytes with
    | some text => return .ok text
    | none => return .error .notText
  catch
    | .inappropriateType none _ _ => return .error .isDirectory
    | .inappropriateType (some _) _ _ => return .error .notDirectory
    | _ => return .error .notFound

/-- The files that the arguments name. -/
def readFiles (args : Arguments) : IO Files := do
  let paths := args.model :: args.settings.toList
  let read ← paths.mapM fun path => return (path, ← readFile path)
  return fun path => (read.lookup path).getD (.error .notFound)

/-- Runs the command and returns its exit code. -/
def execute (args : List String) : IO UInt32 := do
  match Arguments.parse args with
  | .error .help =>
    IO.println UsageError.help.describe
    return 0
  | .error .version =>
    IO.println UsageError.version.describe
    return 0
  | .error error =>
    IO.eprintln ("error: " ++ error.describe)
    return 2
  | .ok args =>
    let out ← IO.getStdout
    let color := !args.noColor && (← out.isTty)
    match run (← readFiles args) args color with
    | .ok text =>
      IO.print text
      return 0
    | .error failure =>
      IO.eprintln ("error: " ++ ": ".intercalate (failure.causes.map Cause.describe))
      return 1

end ServerSymbols.Command

def main (args : List String) : IO UInt32 :=
  ServerSymbols.Command.execute args
