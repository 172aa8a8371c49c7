import ServerSymbols.Proofs.Identifier.Words

set_option autoImplicit false

/-
Where the letters of a text go. Each letter is in one word, and of two letters side by side the
second one is in the word of the first one unless it starts a word itself.
-/
namespace ServerSymbols.Identifier

open Text

/-- The letters of the words in their order, each with the number of its word. -/
def numbered (number : Nat) : List (List Char) → List (Char × Nat)
  | [] => []
  | word :: rest => word.map (·, number) ++ numbered (number + 1) rest

theorem numbered_extendFirst (number : Nat) (c : Char) (parts : List (List Char)) :
    numbered number (extendFirst c parts) = (c, number) :: numbered number parts := by
  cases parts <;> rfl

section Cons

variable {c next : Char} (number : Nat) (letter : isSeparator c = false)

include letter

/-- The first letter is in the first word, and those behind it are numbered as without it. -/
theorem exists_numbered_words_cons (rest : List Char) :
    ∃ onward,
      numbered number (words (c :: rest)) = (c, number) :: numbered onward (words rest) := by
  cases rest with
  | nil =>
    rw [words_singleton letter]
    exact ⟨number, rfl⟩
  | cons next later =>
    by_cases separator : isSeparator next = true
    · have alone : words (c :: next :: later) = [c] :: words (next :: later) := by
        rw [words_cons_of_isSeparator separator later]
        exact (words_append separator [c] later).trans (by rw [words_singleton letter]; rfl)
      rw [alone]
      exact ⟨number + 1, rfl⟩
    · rw [words_cons_cons letter (eq_false_of_ne_true separator)]
      split
      · exact ⟨number + 1, rfl⟩
      · exact ⟨number, numbered_extendFirst number c _⟩

/-- A letter behind the first one is in the first word too, or starts the second one. -/
theorem numbered_words_cons_cons (letter' : isSeparator next = false) (later : List Char) :
    numbered number (words (c :: next :: later)) =
      (c, number) :: numbered (if startsWord c next later.head? then number + 1 else number)
        (words (next :: later)) := by
  rw [words_cons_cons letter letter']
  split
  · rfl
  · exact numbered_extendFirst number c _

end Cons

/-- Two letters side by side have the same number, or the second one has the next number and starts
a word. The letters in front of them say where they are. -/
theorem exists_getElem?_numbered {a b : Char} (letterA : isSeparator a = false)
    (letterB : isSeparator b = false) (front back : List Char) (number : Nat) :
    let letters := numbered number (words (front ++ a :: b :: back))
    let position := (front.filter (!isSeparator ·)).length
    ∃ i, letters[position]? = some (a, i) ∧
      letters[position + 1]? = some (b, if startsWord a b back.head? then i + 1 else i) := by
  dsimp only
  induction front generalizing number with
  | nil =>
    rw [List.nil_append, numbered_words_cons_cons number letterA letterB]
    obtain ⟨onward, split⟩ := exists_numbered_words_cons
      (if startsWord a b back.head? then number + 1 else number) letterB back
    rw [split]
    exact ⟨number, rfl, rfl⟩
  | cons c front ih =>
    rw [List.cons_append]
    by_cases separator : isSeparator c = true
    · have dropped : ¬ (!isSeparator c) = true := by simp [separator]
      rw [words_cons_of_isSeparator separator,
        List.filter_cons_of_neg (p := (!isSeparator ·)) dropped]
      exact ih number
    · have kept : (!isSeparator c) = true := by simp [separator]
      obtain ⟨onward, split⟩ := exists_numbered_words_cons number
        (eq_false_of_ne_true separator) (front ++ a :: b :: back)
      rw [split, List.filter_cons_of_pos (p := (!isSeparator ·)) kept, List.length_cons,
        List.getElem?_cons_succ, List.getElem?_cons_succ]
      exact ih onward

theorem startsWord_iff (a b : Char) (after : Option Char) :
    startsWord a b after = true ↔ isUppercase b = true ∧
      (isLowercase a = true ∨ a.isDigit = true ∨
        isUppercase a = true ∧ ∃ c ∈ after, isSeparator c = false ∧ isLowercase c = true) := by
  -- A separator is not in lower case, so it need not be told apart from letters behind `b`.
  have follows : after.any isLowercase = true ↔
      ∃ c ∈ after, isSeparator c = false ∧ isLowercase c = true := by
    rw [Option.any_eq_true]
    refine exists_congr fun c => and_congr_right fun _ => ?_
    refine ⟨fun small => ⟨?_, small⟩, And.right⟩
    by_contra separator
    rw [not_isLowercase_of_isSeparator (eq_true_of_ne_false separator)] at small
    cases small
  rw [startsWord, Bool.and_eq_true, Bool.or_eq_true, Bool.or_eq_true, Bool.and_eq_true, follows,
    or_assoc]

/-- The words of a text are not empty and hold no separators, and joined they are the text without
its separators. Two letters side by side are in different words if and only if the second one is in
upper case and the first one in lower case or a digit, or both are in upper case and a lower-case
letter follows. -/
theorem words_partition (s : String) :
    (∀ word ∈ words s.toList, word ≠ [] ∧ ∀ c ∈ word, isSeparator c = false) ∧
    (words s.toList).flatten = s.toList.filter (· ∉ ['_', '-', ' ', '.']) ∧
    ∀ front a b back, s.toList = front ++ a :: b :: back →
      isSeparator a = false → isSeparator b = false →
      let letters := numbered 0 (words s.toList)
      let position := (front.filter (!isSeparator ·)).length
      ∃ i j, letters[position]? = some (a, i) ∧ letters[position + 1]? = some (b, j) ∧
        (i ≠ j ↔ isUppercase b = true ∧
          (isLowercase a = true ∨ a.isDigit = true ∨
            isUppercase a = true ∧
              ∃ c ∈ back.head?, isSeparator c = false ∧ isLowercase c = true)) := by
  refine ⟨fun word listed => ⟨ne_nil_of_mem_words listed, fun c mem => ?_⟩, ?_, ?_⟩
  · exact (mem_of_mem_words listed mem).2
  · rw [flatten_words]
    refine List.filter_congr fun c _ => ?_
    rw [Bool.eq_iff_iff]
    simp [isSeparator, and_assoc]
  · intro front a b back split letterA letterB
    rw [split]
    obtain ⟨i, first, second⟩ := exists_getElem?_numbered letterA letterB front back 0
    refine ⟨i, _, first, second, ?_⟩
    rw [← startsWord_iff]
    cases startsWord a b back.head? <;> simp

theorem words_partition_server :
    "ec2_HTTPServer".toList = "ec2_HTT".toList ++ 'P' :: 'S' :: "erver".toList ∧
      isSeparator 'P' = false ∧ isSeparator 'S' = false ∧
      ∃ i j, (numbered 0 (words "ec2_HTTPServer".toList))[6]? = some ('P', i) ∧
        (numbered 0 (words "ec2_HTTPServer".toList))[7]? = some ('S', j) ∧ i ≠ j := by
  have split : "ec2_HTTPServer".toList = "ec2_HTT".toList ++ 'P' :: 'S' :: "erver".toList := by
    simp
  have letterP : isSeparator 'P' = false := by decide
  have letterS : isSeparator 'S' = false := by decide
  have position : ("ec2_HTT".toList.filter (!isSeparator ·)).length = 6 := by decide +kernel
  obtain ⟨_, _, apart⟩ := words_partition "ec2_HTTPServer"
  obtain ⟨i, j, first, second, differ⟩ := apart _ _ _ _ split letterP letterS
  rw [position] at first second
  refine ⟨split, letterP, letterS, i, j, first, second, differ.mpr ⟨?_, ?_⟩⟩
  · decide +kernel
  · have follows : isSeparator 'e' = false ∧ isLowercase 'e' = true := by decide +kernel
    exact Or.inr (Or.inr ⟨by decide +kernel, 'e', rfl, follows⟩)

end ServerSymbols.Identifier
