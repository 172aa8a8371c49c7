import ServerSymbols.Identifier
import Mathlib.Data.List.Basic

set_option autoImplicit false

/-
The words of a text. A separator ends a word wherever it stands, so the words of a text are those in
front of a separator and those behind it; within a text without separators, only upper-case letters
start words.
-/
namespace ServerSymbols.Identifier

open Text

theorem not_isLowercase_of_isSeparator {c : Char} (separator : isSeparator c = true) :
    isLowercase c = false := by
  simp only [isSeparator, Bool.or_eq_true, beq_iff_eq] at separator
  rcases separator with ((rfl | rfl) | rfl) | rfl <;> decide +kernel

theorem not_startsWord {c : Char} (small : isUppercase c = false) (before : Char)
    (after : Option Char) : startsWord before c after = false := by
  rw [startsWord, small, Bool.false_and]

/-- What stands behind a separator does not matter for the words in front of it. -/
theorem startsWord_append {c : Char} (separator : isSeparator c = true) (before current : Char)
    (front back : List Char) :
    startsWord before current (front ++ c :: back).head? =
      startsWord before current front.head? := by
  cases front with
  | nil =>
    rw [List.nil_append, List.head?_cons, List.head?_nil, startsWord, startsWord, Option.any_some,
      not_isLowercase_of_isSeparator separator, Option.any_none]
  | cons first rest => rfl

theorem length_extendFirst {parts : List (List Char)} (some_part : parts ≠ []) (c : Char) :
    (extendFirst c parts).length = parts.length := by
  cases parts with
  | nil => contradiction
  | cons part rest => rfl

theorem length_foldr_extendFirst {parts : List (List Char)} (some_part : parts ≠ [])
    (front : List Char) : (front.foldr extendFirst parts).length = parts.length := by
  induction front with
  | nil => rfl
  | cons c front ih =>
    have some_part' : front.foldr extendFirst parts ≠ [] := by
      rw [← List.length_pos_iff, ih, List.length_pos_iff]
      exact some_part
    rw [List.foldr_cons, length_extendFirst some_part', ih]

theorem extendFirst_append {parts : List (List Char)} (some_part : parts ≠ []) (c : Char)
    (more : List (List Char)) : extendFirst c (parts ++ more) = extendFirst c parts ++ more := by
  cases parts with
  | nil => contradiction
  | cons part rest => rfl

theorem eq_cons_or_mem_of_extendFirst {c : Char} {parts : List (List Char)} {word : List Char}
    (listed : word ∈ extendFirst c parts) : (∃ rest, word = c :: rest) ∨ word ∈ parts := by
  cases parts with
  | nil => exact Or.inl ⟨[], List.mem_singleton.mp listed⟩
  | cons part rest =>
    rcases List.mem_cons.mp listed with rfl | later
    · exact Or.inl ⟨part, rfl⟩
    · exact Or.inr (List.mem_cons_of_mem _ later)

theorem flatten_extendFirst (c : Char) (parts : List (List Char)) :
    (extendFirst c parts).flatten = c :: parts.flatten := by
  cases parts <;> rfl

section Cons

variable {c next : Char}

theorem words_cons_of_isSeparator (separator : isSeparator c = true) (rest : List Char) :
    words (c :: rest) = words rest := by
  rw [words.eq_def]
  exact if_pos separator

theorem words_singleton (letter : isSeparator c = false) : words [c] = [[c]] := by
  rw [words, if_neg (ne_true_of_eq_false letter)]

/-- A letter in front of a letter is a word of its own if the second one starts a word, and belongs
to the same word otherwise. -/
theorem words_cons_cons (letter : isSeparator c = false) (letter' : isSeparator next = false)
    (later : List Char) :
    words (c :: next :: later) =
      if startsWord c next later.head? then [c] :: words (next :: later)
      else extendFirst c (words (next :: later)) := by
  rw [words, if_neg (ne_true_of_eq_false letter), letter', Bool.false_or]

theorem words_ne_nil (letter : isSeparator c = false) (rest : List Char) :
    words (c :: rest) ≠ [] := by
  cases rest with
  | nil =>
    rw [words_singleton letter]
    exact List.cons_ne_nil _ _
  | cons next later =>
    rw [words, if_neg (ne_true_of_eq_false letter)]
    split
    · exact List.cons_ne_nil _ _
    · cases words (next :: later) <;> exact List.cons_ne_nil _ _

end Cons

/-- The words of a text are those in front of a separator and those behind it. -/
theorem words_append {c : Char} (separator : isSeparator c = true) (front back : List Char) :
    words (front ++ c :: back) = words front ++ words back := by
  fun_induction words front with
  | case1 => rw [List.nil_append, words_cons_of_isSeparator separator, List.nil_append]
  | case2 first rest cut ih => rw [List.cons_append, words_cons_of_isSeparator cut, ih]
  | case3 first letter =>
    have last : words ([first] ++ c :: back) = [first] :: words (c :: back) := by
      rw [List.singleton_append, words, if_neg letter, separator, Bool.true_or]
      rfl
    rw [last, words_cons_of_isSeparator separator, List.singleton_append]
  | case4 first letter next later boundary ih =>
    rw [List.cons_append, List.cons_append, words, if_neg letter, startsWord_append separator,
      if_pos boundary, ← List.cons_append, ih, List.cons_append]
  | case5 first letter next later inside ih =>
    have letter' : isSeparator next = false := by
      simp only [Bool.or_eq_true, not_or] at inside
      exact eq_false_of_ne_true inside.1
    rw [List.cons_append, List.cons_append, words, if_neg letter, startsWord_append separator,
      if_neg inside, ← List.cons_append, ih, extendFirst_append (words_ne_nil letter' later)]

theorem words_intercalate {c : Char} (separator : isSeparator c = true) (parts : List (List Char)) :
    words ([c].intercalate parts) = parts.flatMap words := by
  induction parts with
  | nil => rfl
  | cons part rest ih =>
    cases rest with
    | nil => rw [List.intercalate_singleton, List.flatMap_singleton]
    | cons next later =>
      rw [List.intercalate_cons_cons, List.append_assoc, List.singleton_append,
        words_append separator, ih]
      rfl

/-- The words hold every character but the separators, in their order. -/
theorem flatten_words (ident : List Char) :
    (words ident).flatten = ident.filter (!isSeparator ·) := by
  fun_induction words ident with
  | case1 => rfl
  | case2 c rest separator ih =>
    have dropped : ¬ (!isSeparator c) = true := by simp [separator]
    rw [ih, List.filter_cons_of_neg (p := (!isSeparator ·)) dropped]
  | case3 c letter =>
    have kept : (!isSeparator c) = true := by simp [letter]
    rw [List.filter_cons_of_pos (p := (!isSeparator ·)) kept]
    rfl
  | case4 c letter next later boundary ih =>
    have kept : (!isSeparator c) = true := by simp [letter]
    rw [List.flatten_cons, ih, List.filter_cons_of_pos (p := (!isSeparator ·)) kept,
      List.singleton_append]
  | case5 c letter next later inside ih =>
    have kept : (!isSeparator c) = true := by simp [letter]
    rw [flatten_extendFirst, ih, List.filter_cons_of_pos (p := (!isSeparator ·)) kept]

section Member

variable {ident word : List Char}

theorem mem_of_mem_words (listed : word ∈ words ident) {c : Char} (mem : c ∈ word) :
    c ∈ ident ∧ isSeparator c = false := by
  have inWords : c ∈ (words ident).flatten := List.mem_flatten.mpr ⟨word, listed, mem⟩
  rw [flatten_words, List.mem_filter] at inWords
  exact ⟨inWords.1, by simpa using inWords.2⟩

theorem ne_nil_of_mem_words (listed : word ∈ words ident) : word ≠ [] := by
  fun_induction words ident with
  | case1 => cases listed
  | case2 c rest separator ih => exact ih listed
  | case3 c letter =>
    rw [List.mem_singleton.mp listed]
    exact List.cons_ne_nil _ _
  | case4 c letter next later boundary ih =>
    rcases List.mem_cons.mp listed with rfl | behind
    · exact List.cons_ne_nil _ _
    · exact ih behind
  | case5 c letter next later inside ih =>
    rcases eq_cons_or_mem_of_extendFirst listed with ⟨rest, rfl⟩ | behind
    · exact List.cons_ne_nil _ _
    · exact ih behind

end Member

section Run

variable {first next : Char} {rest : List Char}
  (letters : ∀ c ∈ first :: rest, isSeparator c = false)
  (small : ∀ c ∈ rest, isUppercase c = false)

include letters small

/-- Letters of which only the first is in upper case are one word. -/
theorem words_of_small : words (first :: rest) = [first :: rest] := by
  induction rest generalizing first with
  | nil => exact words_singleton (letters first List.mem_cons_self)
  | cons second rest ih =>
    obtain ⟨letter, letters⟩ := List.forall_mem_cons.mp letters
    obtain ⟨small', small⟩ := List.forall_mem_cons.mp small
    rw [words_cons_cons letter (letters second List.mem_cons_self), not_startsWord small',
      if_neg Bool.false_ne_true, ih letters small]
    rfl

/-- Letters of which only the first is in upper case are part of one word, which ends with them if
the letter behind them starts a word. -/
theorem words_small_append (letter' : isSeparator next = false) (later : List Char) :
    words (first :: rest ++ next :: later) =
      if startsWord ((first :: rest).getLast (List.cons_ne_nil _ _)) next later.head? then
        (first :: rest) :: words (next :: later)
      else (first :: rest).foldr extendFirst (words (next :: later)) := by
  induction rest generalizing first with
  | nil => exact words_cons_cons (letters first List.mem_cons_self) letter' later
  | cons second rest ih =>
    obtain ⟨letter, letters⟩ := List.forall_mem_cons.mp letters
    obtain ⟨small', small⟩ := List.forall_mem_cons.mp small
    rw [List.cons_append, List.cons_append,
      words_cons_cons letter (letters second List.mem_cons_self), not_startsWord small',
      if_neg Bool.false_ne_true, ← List.cons_append, ih letters small,
      List.getLast_cons (List.cons_ne_nil second rest), List.foldr_cons]
    exact apply_ite (extendFirst first) _ _ _

end Run

end ServerSymbols.Identifier
