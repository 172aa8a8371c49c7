import ServerSymbols.Proofs.Model.Clash

set_option autoImplicit false

/-
The spellings of ASCII names. The spelling for modules is a normal form of the name: it has the
words of the name, in lower case, so that it is spelled like the name itself, for modules and for
types. Either spelling tells the key by which names clash.
-/
namespace ServerSymbols.Identifier

open Text

/-! ### Joined words -/

/-- No underscore at either end, and no two side by side. -/
structure Tidy (text : List Char) : Prop where
  head : text.head? ≠ some '_'
  last : text.getLast? ≠ some '_'
  apart : text.IsChain fun a b => ¬ (a = '_' ∧ b = '_')

theorem tidy_of_not_mem {text : List Char} (without : '_' ∉ text) : Tidy text where
  head := fun found => without (List.mem_of_mem_head? found)
  last := fun found => without (List.mem_of_mem_getLast? found)
  apart := by
    refine (List.pairwise_of_forall_mem_list ?_).isChain
    rintro a mem b _ ⟨rfl, _⟩
    exact without mem

/-- An underscore between two texts that are not empty does not meet another one. -/
theorem Tidy.join {front back : List Char} (tidyFront : Tidy front) (tidyBack : Tidy back)
    (some_front : front ≠ []) (some_back : back ≠ []) : Tidy (front ++ '_' :: back) where
  head := by
    rw [List.head?_append_of_ne_nil _ some_front]
    exact tidyFront.head
  last := by
    rw [List.getLast?_append_of_ne_nil _ (List.cons_ne_nil _ _),
      List.getLast?_cons_of_ne_nil some_back]
    exact tidyBack.last
  apart := by
    refine tidyFront.apart.append (tidyBack.apart.cons ?_) ?_
    · rintro y first ⟨_, rfl⟩
      exact tidyBack.head first
    · rintro x last y _ ⟨rfl, _⟩
      exact tidyFront.last last

theorem intercalate_ne_nil {part : List Char} (some_part : part ≠ []) (rest : List (List Char)) :
    ['_'].intercalate (part :: rest) ≠ [] := by
  cases rest with
  | nil => rwa [List.intercalate_singleton]
  | cons next later =>
    rw [List.intercalate_cons_cons, List.append_assoc]
    exact List.append_ne_nil_of_left_ne_nil some_part _

theorem tidy_intercalate {parts : List (List Char)}
    (inner : ∀ part ∈ parts, part ≠ [] ∧ '_' ∉ part) : Tidy (['_'].intercalate parts) := by
  induction parts with
  | nil => exact tidy_of_not_mem List.not_mem_nil
  | cons part rest ih =>
    obtain ⟨⟨some_part, without⟩, inner⟩ := List.forall_mem_cons.mp inner
    cases rest with
    | nil =>
      rw [List.intercalate_singleton]
      exact tidy_of_not_mem without
    | cons next later =>
      have some_back := intercalate_ne_nil (inner next List.mem_cons_self).1 later
      rw [List.intercalate_cons_cons, List.append_assoc, List.singleton_append]
      exact (tidy_of_not_mem without).join (ih inner) some_part some_back

theorem count_intercalate {parts : List (List Char)} (without : ∀ part ∈ parts, '_' ∉ part) :
    (['_'].intercalate parts).count '_' = parts.length - 1 := by
  induction parts with
  | nil => rfl
  | cons part rest ih =>
    obtain ⟨noneFirst, noneRest⟩ := List.forall_mem_cons.mp without
    cases rest with
    | nil => rw [List.intercalate_singleton, List.count_eq_zero.mpr noneFirst]; rfl
    | cons next later =>
      rw [List.intercalate_cons_cons, List.count_append, List.count_append, ih noneRest,
        List.count_eq_zero.mpr noneFirst, List.count_singleton_self]
      simp only [List.length_cons]
      omega

theorem underscore_not_mem_lower {ident word : List Char} (listed : word ∈ words ident) :
    '_' ∉ word.flatMap toLowercase := by
  intro mem
  obtain ⟨c, inWord, under⟩ := List.mem_flatMap.mp mem
  have letter := (mem_of_mem_words listed inWord).2
  rw [mem_toLowercase_underscore.mp under] at letter
  cases letter

/-- The spelling for modules has one underscore less than there are words. -/
theorem count_snake (ident : List Char) : (snake ident).count '_' = (words ident).length - 1 := by
  rw [snake, count_intercalate, List.length_map]
  exact List.forall_mem_map.mpr fun _ => underscore_not_mem_lower

/-! ### ASCII names -/

theorem isSeparator_toLower {c : Char} (ascii : c.toNat < 128) :
    isSeparator c.toLower = isSeparator c :=
  forall_ascii (p := fun c => isSeparator c.toLower = isSeparator c) (by decide +kernel) ascii

theorem isSeparator_toUpper {c : Char} (ascii : c.toNat < 128) :
    isSeparator c.toUpper = isSeparator c :=
  forall_ascii (p := fun c => isSeparator c.toUpper = isSeparator c) (by decide +kernel) ascii

theorem capitalize_ascii {first : Char} {rest : List Char}
    (ascii : ∀ c ∈ first :: rest, c.toNat < 128) :
    capitalize (first :: rest) = first.toUpper :: rest.map Char.toLower := by
  obtain ⟨asciiFirst, asciiRest⟩ := List.forall_mem_cons.mp ascii
  rw [capitalize, toUppercase_ascii asciiFirst, flatMap_toLowercase_ascii asciiRest,
    List.singleton_append]

/-- The spelling for types does not depend on the case of the words. -/
theorem capitalize_lower {word : List Char} (ascii : ∀ c ∈ word, c.toNat < 128) :
    capitalize (word.flatMap toLowercase) = capitalize word := by
  cases word with
  | nil => rfl
  | cons first rest =>
    have small : ∀ c ∈ (first :: rest).map Char.toLower, c.toNat < 128 :=
      List.forall_mem_map.mpr fun c mem => toNat_toLower_lt (ascii c mem)
    rw [flatMap_toLowercase_ascii ascii, List.map_cons, capitalize_ascii small,
      capitalize_ascii ascii, Char.toUpper_toLower_eq_toUpper, List.map_map]
    simp only [Function.comp_def, Char.toLower_toLower_eq_toLower]

theorem words_of_lower {word : List Char} (some_letter : word ≠ [])
    (letters : ∀ c ∈ word, isUppercase c = false ∧ isSeparator c = false) :
    words word = [word] := by
  cases word with
  | nil => contradiction
  | cons first rest =>
    exact words_of_small (fun c mem => (letters c mem).2)
      fun c mem => (letters c (List.mem_cons_of_mem _ mem)).1

section Ascii

variable {ident : List Char} (ascii : ∀ c ∈ ident, c.toNat < 128)

include ascii

theorem ascii_of_mem_words {word : List Char} (listed : word ∈ words ident) :
    ∀ c ∈ word, c.toNat < 128 :=
  fun c mem => ascii c (mem_of_mem_words listed mem).1

/-- What the words become in lower case is neither a capital nor a separator. -/
theorem lower_letters {word : List Char} (listed : word ∈ words ident) {c : Char}
    (mem : c ∈ word.flatMap toLowercase) : isUppercase c = false ∧ isSeparator c = false := by
  have small := ascii_of_mem_words ascii listed
  rw [flatMap_toLowercase_ascii small] at mem
  obtain ⟨letter, inWord, rfl⟩ := List.mem_map.mp mem
  rw [isSeparator_toLower (small letter inWord)]
  exact ⟨isUppercase_toLower (small letter inWord), (mem_of_mem_words listed inWord).2⟩

theorem lower_ne_nil {word : List Char} (listed : word ∈ words ident) :
    word.flatMap toLowercase ≠ [] := by
  rw [flatMap_toLowercase_ascii (ascii_of_mem_words ascii listed), ne_eq, List.map_eq_nil_iff]
  exact ne_nil_of_mem_words listed

/-- The spelling for modules has the words of the name, in lower case. -/
theorem words_snake : words (snake ident) = (words ident).map (·.flatMap toLowercase) := by
  rw [snake, words_intercalate rfl, List.flatMap_map, List.map_eq_flatMap]
  exact List.flatMap_congr fun word listed =>
    words_of_lower (lower_ne_nil ascii listed) fun _ => lower_letters ascii listed

theorem snake_snake : snake (snake ident) = snake ident := by
  rw [snake, words_snake ascii, List.map_map, snake]
  simp only [Function.comp_def, flatMap_flatMap_toLowercase]

theorem pascal_snake : pascal (snake ident) = pascal ident := by
  rw [pascal, words_snake ascii, List.flatMap_map, pascal]
  exact List.flatMap_congr fun word listed => capitalize_lower (ascii_of_mem_words ascii listed)

theorem lower_pascal_eq_filter :
    (pascal ident).flatMap toLowercase = (snake ident).filter (· != '_') := by
  rw [lower_pascal (recased_of_ascii ascii), filter_snake, eq_comm, List.filter_eq_self]
  intro c mem
  obtain ⟨word, listed, inWord⟩ := List.mem_flatMap.mp mem
  exact bne_iff_ne.mpr fun same => underscore_not_mem_lower listed (same ▸ inWord)

theorem tidy_snake : Tidy (snake ident) :=
  tidy_intercalate (List.forall_mem_map.mpr fun _ listed =>
    ⟨lower_ne_nil ascii listed, underscore_not_mem_lower listed⟩)

/-- Of what splits a name into words, only the underscore is left. -/
theorem small_snake {c : Char} (mem : c ∈ snake ident) :
    isUppercase c = false ∧ (isSeparator c = true → c = '_') := by
  by_cases underscore : c = '_'
  · subst underscore
    exact ⟨by decide +kernel, fun _ => rfl⟩
  · have kept : c ∈ (snake ident).filter (· != '_') :=
      List.mem_filter.mpr ⟨mem, bne_iff_ne.mpr underscore⟩
    rw [filter_snake, List.mem_filter, List.mem_flatMap] at kept
    obtain ⟨⟨word, listed, inWord⟩, _⟩ := kept
    obtain ⟨small, letter⟩ := lower_letters ascii listed inWord
    rw [letter]
    exact ⟨small, fun separator => nomatch separator⟩

end Ascii

/-- The spelling of an ASCII name for modules is spelled like the name itself, both for modules and
for types. The spelling for types in lower case is that for modules without its underscores. The
spelling for modules has no capitals, of the separators only underscores, none of them at an end and
no two side by side. So ASCII names that are spelled alike in either way have the same key. -/
theorem spellings_ascii (s : String) (ascii : ∀ c ∈ s.toList, c.toNat < 128) :
    snakeCase (snakeCase s) = snakeCase s ∧
      pascalCase (snakeCase s) = pascalCase s ∧
      (lower (pascalCase s)).toList = (snakeCase s).toList.filter (· != '_') ∧
      (∀ c ∈ (snakeCase s).toList,
        isUppercase c = false ∧ c ≠ '-' ∧ c ≠ ' ' ∧ c ≠ '.') ∧
      Tidy (snakeCase s).toList ∧
      ∀ t : String, (∀ c ∈ t.toList, c.toNat < 128) →
        pascalCase s = pascalCase t ∨ snakeCase s = snakeCase t →
        ∀ spaceS spaceT, Model.nameKey ⟨spaceS, s⟩ = Model.nameKey ⟨spaceT, t⟩ := by
  have modules : (snakeCase s).toList = snake s.toList := String.toList_ofList
  have types : (pascalCase s).toList = pascal s.toList := String.toList_ofList
  rw [modules]
  refine ⟨?_, ?_, ?_, fun c mem => ?_, tidy_snake ascii, ?_⟩
  · rw [snakeCase, modules, snake_snake ascii]
    rfl
  · rw [pascalCase, modules, pascal_snake ascii]
    rfl
  · rw [lower, String.toList_ofList, types, lower_pascal_eq_filter ascii]
  · obtain ⟨small, separators⟩ := small_snake ascii mem
    refine ⟨small, ?_, ?_, ?_⟩
    all_goals
      rintro rfl
      exact absurd (separators rfl) (by decide)
  · intro t asciiT spelled spaceS spaceT
    rcases spelled with types | modules
    · exact Model.nameKey_of_pascalCase (recased_of_ascii ascii) (recased_of_ascii asciiT) types
    · exact Model.nameKey_of_snakeCase modules

theorem spellings_ascii_server :
    (∀ c ∈ "HTTPServer--ec2.".toList, c.toNat < 128) ∧
      (∀ c ∈ "HttpServer_EC2".toList, c.toNat < 128) ∧
      snakeCase "HTTPServer--ec2." = snakeCase "HttpServer_EC2" ∧
      snakeCase (snakeCase "HTTPServer--ec2.") = snakeCase "HTTPServer--ec2." ∧
      pascalCase (snakeCase "HTTPServer--ec2.") = pascalCase "HTTPServer--ec2." ∧
      (lower (pascalCase "HTTPServer--ec2.")).toList =
        (snakeCase "HTTPServer--ec2.").toList.filter (· != '_') ∧
      (∀ c ∈ (snakeCase "HTTPServer--ec2.").toList,
        isUppercase c = false ∧ c ≠ '-' ∧ c ≠ ' ' ∧ c ≠ '.') ∧
      Tidy (snakeCase "HTTPServer--ec2.").toList ∧
      Model.nameKey ⟨"test", "HTTPServer--ec2."⟩ = Model.nameKey ⟨"atlas", "HttpServer_EC2"⟩ := by
  have ascii : ∀ c ∈ "HTTPServer--ec2.".toList, c.toNat < 128 := by simp
  have ascii' : ∀ c ∈ "HttpServer_EC2".toList, c.toNat < 128 := by simp
  have alike : snakeCase "HTTPServer--ec2." = snakeCase "HttpServer_EC2" := by decide +kernel
  obtain ⟨again, types, key, small, tidy, same⟩ := spellings_ascii "HTTPServer--ec2." ascii
  exact ⟨ascii, ascii', alike, again, types, key, small, tidy,
    same "HttpServer_EC2" ascii' (Or.inr alike) "test" "atlas"⟩

end ServerSymbols.Identifier
