import ServerSymbols.Text.Case

set_option autoImplicit false

/-
How much is logged, and in which form. The environment decides it.
-/
namespace ServerSymbols.Command

inductive LogFormat where
  | text
  | tree
  | json
deriving DecidableEq

namespace LogFormat

/-- The format with this name, in any letter case; plain text for all other names. -/
def ofName (name : String) : LogFormat :=
  match Text.lower name with
  | "tree" => .tree
  | "json" => .json
  | _ => .text

end LogFormat

structure LogSettings where
  /-- What is logged. -/
  directives : String
  format : LogFormat
  color : Bool
deriving DecidableEq

/-- Nothing is logged without directives. Those of the command itself count more than the general
ones, and a ban on colors counts more than the wish for them. -/
def LogSettings.resolve (own general format : Option String) (noColor color : Bool) :
    Option LogSettings :=
  (own <|> general).map fun directives =>
    { directives, format := .ofName (format.getD ""), color := color && !noColor }

end ServerSymbols.Command
