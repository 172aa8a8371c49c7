import ServerSymbols.Proofs.Identifier.Words
import ServerSymbols.Proofs.Text.Ascii
import ServerSymbols.Proofs.Text.Case

set_option autoImplicit false

/-
What the two spellings of an identifier keep of its words. The spelling for modules keeps the words
in lower case; that for types keeps them too, unless the first character of a word is one that
upper-casing turns into something else.
-/
namespace ServerSymbols

namespace Text

/-- The upper case of the character has the lower case of the character: nothing but its case is
lost. This fails for `ı`, which becomes `I` and then `i`, and for `ß`, which becomes `SS`. -/
def Recased (c : Char) : Prop :=
  (toUppercase c).flatMap toLowercase = toLowercase c

instance (c : Char) : Decidable (Recased c) :=
  inferInstanceAs (Decidable (_ = _))

theorem recased_of_ascii {c : Char} (ascii : c.toNat < 128) : Recased c := by
  rw [Recased, toUppercase_ascii ascii, List.flatMap_singleton,
    toLowercase_ascii (toNat_toUpper_lt ascii), toLowercase_ascii ascii,
    Char.toLower_toUpper_eq_toLower]

end Text

namespace Identifier

open Text

/-- Every word starts with a character that loses nothing but its case. -/
def Recased (ident : List Char) : Prop :=
  ∀ word ∈ words ident, ∀ first ∈ word.head?, Text.Recased first

/-- Without its separators, a joined text is its parts. -/
theorem filter_intercalate {α : Type} (keep : α → Bool) {separator : List α}
    (dropped : separator.filter keep = []) (parts : List (List α)) :
    (separator.intercalate parts).filter keep = parts.flatten.filter keep := by
  induction parts with
  | nil => rfl
  | cons part rest ih =>
    cases rest with
    | nil => rw [List.intercalate_singleton, List.flatten_singleton]
    | cons next later =>
      rw [List.intercalate_cons_cons, List.flatten_cons, List.filter_append, List.filter_append,
        List.filter_append, dropped, ih, List.append_nil]

theorem filter_snake (ident : List Char) :
    (snake ident).filter (· != '_') =
      ((words ident).flatMap (·.flatMap toLowercase)).filter (· != '_') := by
  rw [snake, filter_intercalate (· != '_') rfl, List.flatten_eq_flatMap, List.flatMap_map]
  rfl

theorem lower_capitalize {word : List Char} (recased : ∀ first ∈ word.head?, Text.Recased first) :
    (capitalize word).flatMap toLowercase = word.flatMap toLowercase := by
  cases word with
  | nil => rfl
  | cons first rest =>
    have head : (toUppercase first).flatMap toLowercase = toLowercase first := recased first rfl
    rw [capitalize, List.flatMap_append, head, flatMap_flatMap_toLowercase, List.flatMap_cons]

/-- The spelling for types, in lower case, is the words in lower case. -/
theorem lower_pascal {ident : List Char} (recased : Recased ident) :
    (pascal ident).flatMap toLowercase = (words ident).flatMap (·.flatMap toLowercase) := by
  rw [pascal, List.flatMap_assoc]
  exact List.flatMap_congr fun word mem => lower_capitalize (recased word mem)

theorem recased_of_ascii {ident : List Char} (ascii : ∀ c ∈ ident, c.toNat < 128) :
    Recased ident := by
  intro word listed first head
  exact Text.recased_of_ascii (ascii first (mem_of_mem_words listed (List.mem_of_mem_head? head)).1)

end Identifier

end ServerSymbols
