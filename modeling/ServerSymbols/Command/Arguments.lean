import ServerSymbols.Reachability

set_option autoImplicit false

/-
The arguments of the command. An option's value is looked at only when the next option or the end
of the arguments is reached, so an unknown argument behind a bad value is reported first.
-/
namespace ServerSymbols.Command

inductive Format where
  | text
  | json
deriving DecidableEq

def Format.name : Format → String
  | text => "text"
  | json => "json"

structure Arguments where
  model : String
  settings : Option String := none
  service : Option String := none
  onlyUnconstrained : Bool := false
  format : Format := .text
  strategy : Option Strategy := none
  noColor : Bool := false
deriving DecidableEq

/-- Why there is nothing to run. Asking for help or for the version is one reason. -/
inductive UsageError where
  | unknownArgument
  | invalidValue
  | missingArgument
  | repeatedArgument
  | unexpectedValue
  | help
  | version
deriving DecidableEq

/-- Options that take a value. -/
inductive ValueOption where
  | model
  | settings
  | service
  | format
  | strategy

/-- Options that stand alone. -/
inductive Flag where
  | onlyUnconstrained
  | noColor
  | help
  | version

inductive CommandOption where
  | value (option : ValueOption)
  | flag (flag : Flag)

def longNames : List (String × CommandOption) :=
  [ ("model", .value .model), ("settings", .value .settings), ("service", .value .service),
    ("format", .value .format), ("strategy", .value .strategy),
    ("unconstrained-only", .flag .onlyUnconstrained), ("no-color", .flag .noColor),
    ("help", .flag .help), ("version", .flag .version) ]

def shortNames : List (Char × CommandOption) :=
  [ ('m', .value .model), ('s', .value .settings), ('f', .value .format),
    ('u', .flag .onlyUnconstrained), ('h', .flag .help), ('V', .flag .version) ]

namespace Arguments

/-- The arguments read so far. -/
structure Draft where
  model : Option String := none
  settings : Option String := none
  service : Option String := none
  format : Option Format := none
  strategy : Option Strategy := none
  onlyUnconstrained : Bool := false
  noColor : Bool := false
  /-- The last option with a value, as long as neither option nor value is looked at. -/
  pending : Option (ValueOption × Option String) := none

namespace Draft

/-- A value for an option that may be given once. -/
def fill {α : Type} (old : Option α) (value : Option α) : Except UsageError (Option α) :=
  if old.isSome then .error .repeatedArgument
  else
    match value with
    | some value => .ok (some value)
    | none => .error .invalidValue

def path? (text : String) : Option String :=
  if text.isEmpty then none else some text

/-- Letter case does not matter. -/
def choice? {α : Type} (choices : List (String × α)) (text : String) : Option α :=
  choices.lookup text.toLower

def formats : List (String × Format) :=
  [Format.text, .json].map fun format => (format.name, format)

def setValue (d : Draft) (option : ValueOption) (text : String) : Except UsageError Draft :=
  match option with
  | .model => (fill d.model (path? text)).map ({ d with model := · })
  | .settings => (fill d.settings (path? text)).map ({ d with settings := · })
  | .service => (fill d.service (some text)).map ({ d with service := · })
  | .format => (fill d.format (choice? formats text)).map ({ d with format := · })
  | .strategy => (fill d.strategy (choice? Strategy.choices text)).map ({ d with strategy := · })

/-- Looks at the pending option and its value. -/
def settle (d : Draft) : Except UsageError Draft :=
  match d.pending with
  | none => .ok d
  | some (_, none) => .error .invalidValue
  | some (option, some text) => { d with pending := none }.setValue option text

def setFlag (d : Draft) (flag : Flag) : Except UsageError Draft := do
  let d ← d.settle
  match flag with
  | .onlyUnconstrained =>
    if d.onlyUnconstrained then .error .repeatedArgument
    else .ok { d with onlyUnconstrained := true }
  | .noColor =>
    if d.noColor then .error .repeatedArgument else .ok { d with noColor := true }
  | .help => .error .help
  | .version => .error .version

/-- An option whose value comes with the next argument. -/
def await (d : Draft) (option : ValueOption) : Except UsageError Draft := do
  let d ← d.settle
  .ok { d with pending := some (option, none) }

/-- An option with its value attached. -/
def give (d : Draft) (option : ValueOption) (text : String) : Except UsageError Draft := do
  let d ← d.settle
  d.setValue option text

/-- `--name` or `--name=value`, without the dashes. -/
def readLong (d : Draft) (chars : List Char) : Except UsageError Draft :=
  let name := String.ofList (chars.takeWhile (· != '='))
  match longNames.lookup name, chars.dropWhile (· != '=') with
  | none, _ => .error .unknownArgument
  | some (.flag flag), [] => d.setFlag flag
  | some (.flag _), _ :: _ => .error .unexpectedValue
  | some (.value option), [] => d.await option
  | some (.value option), _ :: value => d.give option (String.ofList value)

/-- One dash and letters: flags, and at the end perhaps an option with or without a value. -/
def readShort (d : Draft) : List Char → Except UsageError Draft
  | [] => .ok d
  | c :: rest =>
    match shortNames.lookup c, rest with
    | none, _ => .error .unknownArgument
    | some (.flag flag), rest => do
      let d ← d.setFlag flag
      d.readShort rest
    | some (.value option), [] => d.await option
    | some (.value option), '=' :: value => d.give option (String.ofList value)
    | some (.value option), value => d.give option (String.ofList value)

/-- An argument that is no option can only be the value that is waited for. -/
def readPlain (d : Draft) (text : String) : Except UsageError Draft :=
  match d.pending with
  | some (option, none) => .ok { d with pending := some (option, some text) }
  | _ => .error .unknownArgument

/-- Behind two dashes no argument is an option, so none may follow. -/
def readAll (d : Draft) : List String → Except UsageError Draft
  | [] => d.settle
  | arg :: rest =>
    match arg.toList with
    | ['-', '-'] => if rest.isEmpty then d.settle else .error .unknownArgument
    | '-' :: '-' :: chars => do
      let d ← d.readLong chars
      d.readAll rest
    | '-' :: c :: chars => do
      let d ← d.readShort (c :: chars)
      d.readAll rest
    | _ => do
      let d ← d.readPlain arg
      d.readAll rest

end Draft

def parse (args : List String) : Except UsageError Arguments := do
  let d ← Draft.readAll {} args
  match d.model with
  | none => .error .missingArgument
  | some model =>
    .ok {
      model
      settings := d.settings
      service := d.service
      onlyUnconstrained := d.onlyUnconstrained
      format := d.format.getD .text
      strategy := d.strategy
      noColor := d.noColor }

end Arguments

end ServerSymbols.Command
