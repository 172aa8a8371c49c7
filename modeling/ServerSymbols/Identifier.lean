import ServerSymbols.Text.Case

set_option autoImplicit false

/-
The words of an identifier and the two spellings that generated code uses for it. Both spellings
are made from the same words, so they agree on where one word ends and the next begins.
-/
namespace ServerSymbols.Identifier

open Text

def isSeparator (c : Char) : Bool :=
  c == '_' || c == '-' || c == ' ' || c == '.'

/-- A word starts at an upper-case letter after a lower-case letter or digit, and at the last
upper-case letter of an acronym when a lower-case letter follows it. -/
def startsWord (before current : Char) (after : Option Char) : Bool :=
  isUppercase current &&
    (isLowercase before || before.isDigit || (isUppercase before && after.any isLowercase))

/-- Puts a character in front of the first word. -/
def extendFirst (c : Char) : List (List Char) → List (List Char)
  | [] => [[c]]
  | word :: rest => (c :: word) :: rest

/-- The words of an identifier; separators are dropped. -/
def words : List Char → List (List Char)
  | [] => []
  | c :: rest =>
    if isSeparator c then words rest
    else
      match rest with
      | [] => [[c]]
      | next :: later =>
        if isSeparator next || startsWord c next later.head? then [c] :: words rest
        else extendFirst c (words rest)

def snake (ident : List Char) : List Char :=
  ['_'].intercalate ((words ident).map (·.flatMap toLowercase))

def capitalize : List Char → List Char
  | [] => []
  | first :: rest => toUppercase first ++ rest.flatMap toLowercase

def pascal (ident : List Char) : List Char :=
  (words ident).flatMap capitalize

/-- The spelling for modules: `http_server`. -/
def snakeCase (ident : String) : String :=
  String.ofList (snake ident.toList)

/-- The spelling for types: `HttpServer`. -/
def pascalCase (ident : String) : String :=
  String.ofList (pascal ident.toList)

end ServerSymbols.Identifier
