import ServerSymbols.Text.CaseTable

set_option autoImplicit false

/-
Letter case of single characters. The mappings are the full ones, so one character may become
several; the neighbours of a character never matter.
-/
namespace ServerSymbols.Text

def inRuns (runs : List Stride) (c : Char) : Bool :=
  runs.any (·.contains c.toNat)

/-- The property Uppercase. -/
def isUppercase (c : Char) : Bool :=
  if c.toNat < 128 then c.isUpper else inRuns uppercaseRuns c

/-- The property Lowercase. -/
def isLowercase (c : Char) : Bool :=
  if c.toNat < 128 then c.isLower else inRuns lowercaseRuns c

/-- Looks a character up first among the expansions and then among the shifts; a character in
neither stands for itself. -/
def mapCase (expansions : List (Nat × List Nat)) (shifts : List Shift) (c : Char) : List Char :=
  match expansions.find? (·.1 == c.toNat) with
  | some (_, codes) => codes.map Char.ofNat
  | none =>
    match shifts.find? (·.run.contains c.toNat) with
    | some shift => [Char.ofNat (c.toNat + shift.distance).toNat]
    | none => [c]

def toUppercase (c : Char) : List Char :=
  if c.toNat < 128 then [c.toUpper] else mapCase upperExpansions upperShifts c

def toLowercase (c : Char) : List Char :=
  if c.toNat < 128 then [c.toLower] else mapCase lowerExpansions lowerShifts c

/-- Lower-cases every character of a text by itself. -/
def lower (text : String) : String :=
  String.ofList (text.toList.flatMap toLowercase)

theorem toLowercase_ascii {c : Char} (h : c.toNat < 128) : toLowercase c = [c.toLower] :=
  if_pos h

theorem toUppercase_ascii {c : Char} (h : c.toNat < 128) : toUppercase c = [c.toUpper] :=
  if_pos h

end ServerSymbols.Text
