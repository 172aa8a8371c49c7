import ServerSymbols.Proofs.Identifier.Spelling

set_option autoImplicit false

/-
Borders of words in the spelling for types. It shows where words begin by capitals alone, so it has
the words of the name if and only if every border can be seen: not that in front of a digit, and not
that of a word of one letter with a word whose first letter is followed by none.
-/
namespace ServerSymbols.Identifier

open Text

/-- In the spelling for types the second word is seen to begin behind the first one. -/
def Visible (word next : List Char) : Prop :=
  next.head?.any Char.isAlpha = true ∧
    (2 ≤ word.length ∨ word.getLast?.any Char.isDigit = true ∨ next[1]?.any Char.isAlpha = true)

instance (word next : List Char) : Decidable (Visible word next) :=
  inferInstanceAs (Decidable (_ ∧ _))

theorem isSeparator_of_isAlphanum {c : Char} (plain : c.isAlphanum = true) :
    isSeparator c = false :=
  forall_ascii (p := fun c => c.isAlphanum = true → isSeparator c = false) (by decide +kernel)
    (toNat_lt_of_isAlphanum plain) plain

/-- The word holds something, and nothing but ASCII letters and digits. -/
structure Plain (word : List Char) : Prop where
  ne_nil : word ≠ []
  alphanum : ∀ c ∈ word, c.isAlphanum = true

section Capitalize

variable {first : Char} {rest : List Char} (plain : Plain (first :: rest))

include plain

theorem Plain.ascii : ∀ c ∈ first :: rest, c.toNat < 128 :=
  fun c mem => toNat_lt_of_isAlphanum (plain.alphanum c mem)

/-- Capitals and small letters alike are no separators. -/
theorem Plain.letters :
    ∀ c ∈ first.toUpper :: rest.map Char.toLower, isSeparator c = false := by
  obtain ⟨asciiFirst, asciiRest⟩ := List.forall_mem_cons.mp plain.ascii
  obtain ⟨plainFirst, plainRest⟩ := List.forall_mem_cons.mp plain.alphanum
  refine List.forall_mem_cons.mpr ⟨?_, List.forall_mem_map.mpr fun c mem => ?_⟩
  · rw [isSeparator_toUpper asciiFirst, isSeparator_of_isAlphanum plainFirst]
  · rw [isSeparator_toLower (asciiRest c mem), isSeparator_of_isAlphanum (plainRest c mem)]

theorem Plain.small : ∀ c ∈ rest.map Char.toLower, isUppercase c = false :=
  List.forall_mem_map.mpr fun c mem =>
    isUppercase_toLower (plain.ascii c (List.mem_cons_of_mem _ mem))

end Capitalize

/-- A border is seen if the splitter finds it between the two capitalized words. What follows on the
second word begins with a capital or a digit, so that it does not matter. -/
theorem startsWord_capitalized {first first' : Char} {rest rest' later : List Char}
    (plain : Plain (first :: rest)) (plain' : Plain (first' :: rest'))
    (big : later.head?.any isLowercase = false) :
    startsWord ((first.toUpper :: rest.map Char.toLower).getLast (List.cons_ne_nil _ _))
        first'.toUpper (rest'.map Char.toLower ++ later).head? =
      decide (Visible (first :: rest) (first' :: rest')) := by
  have second : (rest'.map Char.toLower ++ later).head?.any isLowercase =
      rest'.head?.any Char.isAlpha := by
    cases rest' with
    | nil => exact big
    | cons c rest' =>
      have ascii := plain'.ascii c (by simp)
      simpa using isLowercase_toLower ascii
  have capital := isUppercase_toUpper (plain'.ascii first' List.mem_cons_self)
  have seen (word : List Char) : Visible word (first' :: rest') ↔ first'.isAlpha = true ∧
      (2 ≤ word.length ∨ word.getLast?.any Char.isDigit = true ∨
        rest'.head?.any Char.isAlpha = true) := by
    rw [Visible, List.getElem?_cons_succ, ← List.head?_eq_getElem?]
    rfl
  rw [Bool.eq_iff_iff, decide_eq_true_iff, seen, startsWord, second, capital, Bool.and_eq_true,
    and_congr_right_iff]
  rcases List.eq_nil_or_concat' rest with rfl | ⟨middle, last, rfl⟩
  · have ascii := plain.ascii first List.mem_cons_self
    have either := plain.alphanum first List.mem_cons_self
    rw [Char.isAlphanum, Bool.or_eq_true] at either
    rw [List.map_nil, List.getLast_singleton, isLowercase_toUpper ascii, isDigit_toUpper ascii,
      isUppercase_toUpper ascii]
    simp only [Bool.false_or, Bool.or_eq_true, Bool.and_eq_true, List.length_singleton,
      Nat.not_ofNat_le_one, List.getLast?_singleton, Option.any_some, false_or]
    -- A single character that is no digit is a capital.
    tauto
  · have ascii := plain.ascii last (by simp)
    have either := plain.alphanum last (by simp)
    rw [Char.isAlphanum] at either
    have ends : (first.toUpper :: (middle ++ [last]).map Char.toLower).getLast
        (List.cons_ne_nil _ _) = last.toLower := by simp
    rw [ends, isLowercase_toLower ascii, isDigit_toLower ascii, either, Bool.true_or]
    simp only [List.length_cons, List.length_append, List.length_nil, Nat.le_add_left, true_or,
      implies_true]

/-! ### Joined capitalized words -/

section Joined

variable {parts : List (List Char)}

/-- The text begins with a capital or a digit. -/
theorem big_joined (plain : ∀ part ∈ parts, Plain part) :
    (parts.flatMap capitalize).head?.any isLowercase = false := by
  cases parts with
  | nil => rfl
  | cons part rest =>
    have plainPart := plain part List.mem_cons_self
    cases part with
    | nil => exact absurd rfl plainPart.ne_nil
    | cons first letters =>
      rw [List.flatMap_cons, capitalize_ascii plainPart.ascii]
      exact isLowercase_toUpper (plainPart.ascii first List.mem_cons_self)

theorem words_capitalize {word : List Char} (plain : Plain word) :
    words (capitalize word) = [capitalize word] := by
  cases word with
  | nil => exact absurd rfl plain.ne_nil
  | cons first rest =>
    rw [capitalize_ascii plain.ascii]
    exact words_of_small plain.letters plain.small

theorem words_joined_ne_nil {part : List Char} (plain : Plain part) (rest : List (List Char)) :
    words ((part :: rest).flatMap capitalize) ≠ [] := by
  cases part with
  | nil => exact absurd rfl plain.ne_nil
  | cons first letters =>
    rw [List.flatMap_cons, capitalize_ascii plain.ascii, List.cons_append]
    exact words_ne_nil (plain.letters _ List.mem_cons_self) _

/-- The first word of the text ends where the first part does if the border there is seen. If not,
it goes on with the second part. -/
theorem words_joined_cons {part next : List Char} (plain : Plain part)
    (plainRest : ∀ other ∈ next :: parts, Plain other) :
    words ((part :: next :: parts).flatMap capitalize) =
      if Visible part next then capitalize part :: words ((next :: parts).flatMap capitalize)
      else (capitalize part).foldr extendFirst (words ((next :: parts).flatMap capitalize)) := by
  obtain ⟨plainNext, plainParts⟩ := List.forall_mem_cons.mp plainRest
  cases part with
  | nil => exact absurd rfl plain.ne_nil
  | cons first rest =>
    cases next with
    | nil => exact absurd rfl plainNext.ne_nil
    | cons first' rest' =>
      have run := words_small_append plain.letters plain.small
        (plainNext.letters _ List.mem_cons_self)
        (rest'.map Char.toLower ++ parts.flatMap capitalize)
      rw [startsWord_capitalized plain plainNext (big_joined plainParts)] at run
      simp only [decide_eq_true_eq] at run
      rw [List.flatMap_cons, List.flatMap_cons, capitalize_ascii plain.ascii,
        capitalize_ascii plainNext.ascii]
      exact run

/-- The words of the text are its parts if all borders are seen, and fewer otherwise. -/
theorem words_joined (plain : ∀ part ∈ parts, Plain part) :
    parts.IsChain Visible ∧ words (parts.flatMap capitalize) = parts.map capitalize ∨
      ¬ parts.IsChain Visible ∧ (words (parts.flatMap capitalize)).length < parts.length := by
  induction parts with
  | nil => exact Or.inl ⟨List.isChain_nil, rfl⟩
  | cons part rest ih =>
    obtain ⟨plainPart, plainRest⟩ := List.forall_mem_cons.mp plain
    cases rest with
    | nil =>
      rw [List.flatMap_singleton]
      exact Or.inl ⟨List.isChain_singleton part, words_capitalize plainPart⟩
    | cons next later =>
      rw [words_joined_cons plainPart plainRest, List.isChain_cons_cons, List.length_cons]
      by_cases seen : Visible part next
      · rw [if_pos seen]
        rcases ih plainRest with ⟨chain, same⟩ | ⟨noChain, fewer⟩
        · exact Or.inl ⟨⟨seen, chain⟩, by rw [same]; rfl⟩
        · exact Or.inr ⟨fun both => noChain both.2, by rw [List.length_cons]; omega⟩
      · have some_word := words_joined_ne_nil (plainRest next List.mem_cons_self) later
        rw [if_neg seen, length_foldr_extendFirst some_word]
        refine Or.inr ⟨fun both => seen both.1, ?_⟩
        rcases ih plainRest with ⟨_, same⟩ | ⟨_, fewer⟩
        · rw [same, List.length_map]
          omega
        · omega

end Joined

section Spelled

variable {ident : List Char}

theorem plain_of_mem_words (plain : ∀ c ∈ ident, c.isAlphanum = true ∨ isSeparator c = true)
    {word : List Char} (listed : word ∈ words ident) : Plain word := by
  refine ⟨ne_nil_of_mem_words listed, fun c inWord => ?_⟩
  obtain ⟨mem, letter⟩ := mem_of_mem_words listed inWord
  exact (plain c mem).resolve_right (ne_true_of_eq_false letter)

/-- The spelling for types keeps the spelling for modules if it keeps the words. -/
theorem snake_pascal_of_words (recased : Recased ident)
    (same : words (pascal ident) = (words ident).map capitalize) :
    snake (pascal ident) = snake ident := by
  rw [snake, same, List.map_map, snake]
  congr 1
  exact List.map_congr_left fun word listed => lower_capitalize (recased word listed)

/-- It loses the spelling for modules with the first word that it loses. -/
theorem snake_pascal_ne_of_lt (some_word : words ident ≠ [] → words (pascal ident) ≠ [])
    (fewer : (words (pascal ident)).length < (words ident).length) :
    snake (pascal ident) ≠ snake ident := by
  intro same
  have counted : (words (pascal ident)).length - 1 = (words ident).length - 1 := by
    rw [← count_snake, same, count_snake]
  have more := List.length_pos_iff.mpr (some_word (List.length_pos_iff.mp (by omega)))
  omega

end Spelled

/-- The two spellings of a name of ASCII letters, digits and separators agree on the borders of its
words, so that the spelling for types can be spelled for modules in place of the name, if and only
if every word but the first starts with a letter and is seen to begin: the word in front of it has
two characters or more, or ends with a digit, or its own second character is a letter as well. -/
theorem snakeCase_pascalCase_eq_iff (s : String)
    (plain : ∀ c ∈ s.toList, c.isAlphanum = true ∨ isSeparator c = true) :
    snakeCase (pascalCase s) = snakeCase s ↔ (words s.toList).IsChain Visible := by
  have types : (pascalCase s).toList = pascal s.toList := String.toList_ofList
  have plainWords : ∀ word ∈ words s.toList, Plain word := fun _ => plain_of_mem_words plain
  rw [snakeCase, snakeCase, types, String.ofList_inj]
  rcases words_joined plainWords with ⟨chain, same⟩ | ⟨noChain, fewer⟩
  · refine iff_of_true (snake_pascal_of_words ?_ same) chain
    intro word listed first head
    have letter := (plainWords word listed).alphanum first (List.mem_of_mem_head? head)
    exact Text.recased_of_ascii (toNat_lt_of_isAlphanum letter)
  · refine iff_of_false (snake_pascal_ne_of_lt (fun some_word => ?_) fewer) noChain
    obtain ⟨part, rest, split⟩ := List.exists_cons_of_ne_nil some_word
    rw [split] at plainWords
    rw [pascal, split]
    exact words_joined_ne_nil (plainWords part List.mem_cons_self) rest

theorem snakeCase_pascalCase_eq_iff_versions :
    (∀ c ∈ "v2_x-IOError b".toList, c.isAlphanum = true ∨ isSeparator c = true) ∧
      words "v2_x-IOError b".toList = [['v', '2'], ['x'], ['I', 'O'], "Error".toList, ['b']] ∧
      (snakeCase (pascalCase "v2_x-IOError b") = snakeCase "v2_x-IOError b" ↔
        (words "v2_x-IOError b".toList).IsChain Visible) ∧
      snakeCase (pascalCase "v2_x-IOError b") = "v2_x_io_error_b" := by
  have plain : ∀ c ∈ "v2_x-IOError b".toList, c.isAlphanum = true ∨ isSeparator c = true := by
    simp [isSeparator]
  exact ⟨plain, by decide +kernel, snakeCase_pascalCase_eq_iff "v2_x-IOError b" plain,
    by decide +kernel⟩

-- Two single letters look like an acronym, and a digit does not start a word.
example : snakeCase (pascalCase "x_y") = "xy" := by decide +kernel
example : snakeCase (pascalCase "part_2") = "part2" := by decide +kernel

end ServerSymbols.Identifier
