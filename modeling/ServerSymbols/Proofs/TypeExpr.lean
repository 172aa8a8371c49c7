import ServerSymbols.TypeExpr
import Mathlib.Data.List.TakeWhile

set_option autoImplicit false

/-
Types and their full texts. A text starts with the name of the outermost type, which ends where the
text has neither a letter nor a digit, underscore or colon; the rest of it tells which types the
outermost one holds and where their texts end. So different types have different texts, if names can
be written in code and no name is that of a built-in type.
-/
namespace ServerSymbols.TypeExpr

/-! ### Names that can be written -/

/-- Letters and digits of ASCII and the underscore. -/
def isWordChar (c : Char) : Bool :=
  c.isAlphanum || c == '_'

/-- What stands between the colons of a path. -/
structure IsWord (text : String) : Prop where
  ne_empty : text ≠ ""
  chars : ∀ c ∈ text.toList, isWordChar c = true

/-- A word in a module whose path is made of words, and not a built-in type. -/
structure IsPath (name : String) (space : Option String) : Prop where
  word : IsWord name
  words : ∃ parts, (∀ part ∈ parts, IsWord part) ∧ space = some ("::".intercalate parts)
  foreign : (space, name) ∉
    [(some "std::string", "String"), (some "std::vec", "Vec"), (some "std::collections", "HashMap")]

/-- The name and the module of every named type in the type can be written. -/
def Writable : TypeExpr → Prop
  | named name space => IsPath name space
  | vec item => item.Writable
  | map key value => key.Writable ∧ value.Writable
  | _ => True

/-- What the name of a type and its module are made of. -/
def isPathChar (c : Char) : Bool :=
  isWordChar c || c == ':'

theorem isPathChar_of_isWordChar {c : Char} (word : isWordChar c = true) : isPathChar c = true := by
  rw [isPathChar, word, Bool.true_or]

theorem isWordChar_of_mem_builtin :
    ∀ name ∈ ["String", "bool", "i", "f", "Vec", "HashMap"], ∀ c ∈ name.toList,
      isWordChar c = true := by
  simp only [← List.all_eq_true]
  decide +kernel

theorem isPathChar_of_mem_builtin :
    ∀ space ∈ ["std::string", "std::vec", "std::collections", "::"], ∀ c ∈ space.toList,
      isPathChar c = true := by
  simp only [← List.all_eq_true]
  decide +kernel

theorem isWordChar_of_mem_toString {n : Nat} {c : Char} (mem : c ∈ (toString n).toList) :
    isWordChar c = true := by
  have digits : c ∈ Nat.toDigits 10 n := by simpa using mem
  have digit : c.isDigit = true := Nat.isDigit_of_mem_toDigits (by omega) (by omega) digits
  rw [isWordChar, Char.isAlphanum, digit, Bool.or_true, Bool.true_or]

theorem isPathChar_of_mem_intercalate {parts : List String} (words : ∀ part ∈ parts, IsWord part)
    {c : Char} (mem : c ∈ ("::".intercalate parts).toList) : isPathChar c = true := by
  induction parts with
  | nil => simp at mem
  | cons part rest ih =>
    obtain ⟨word, words⟩ := List.forall_mem_cons.mp words
    cases rest with
    | nil =>
      rw [String.intercalate_singleton] at mem
      exact isPathChar_of_isWordChar (word.chars c mem)
    | cons next later =>
      rw [String.intercalate_cons_cons, String.toList_append, String.toList_append,
        List.mem_append, List.mem_append] at mem
      rcases mem with (first | colons) | behind
      · exact isPathChar_of_isWordChar (word.chars c first)
      · exact isPathChar_of_mem_builtin "::" (by simp) c colons
      · exact ih words behind

section Writable

variable {t : TypeExpr} (writable : t.Writable)

include writable

theorem Writable.name : ∀ c ∈ t.name.toList, isWordChar c = true := by
  intro c mem
  cases t with
  | string => exact isWordChar_of_mem_builtin "String" (by simp) c mem
  | bool => exact isWordChar_of_mem_builtin "bool" (by simp) c mem
  | vec item => exact isWordChar_of_mem_builtin "Vec" (by simp) c mem
  | map key value => exact isWordChar_of_mem_builtin "HashMap" (by simp) c mem
  | int bits =>
    rw [TypeExpr.name, String.toList_append, List.mem_append] at mem
    exact mem.elim (isWordChar_of_mem_builtin "i" (by simp) c) isWordChar_of_mem_toString
  | float bits =>
    rw [TypeExpr.name, String.toList_append, List.mem_append] at mem
    exact mem.elim (isWordChar_of_mem_builtin "f" (by simp) c) isWordChar_of_mem_toString
  | named name space => exact writable.word.chars c mem

theorem Writable.space {space : String} (inside : t.space = some space) :
    ∀ c ∈ space.toList, isPathChar c = true := by
  intro c mem
  cases t with
  | string =>
    cases inside
    exact isPathChar_of_mem_builtin "std::string" (by simp) c mem
  | vec item =>
    cases inside
    exact isPathChar_of_mem_builtin "std::vec" (by simp) c mem
  | map key value =>
    cases inside
    exact isPathChar_of_mem_builtin "std::collections" (by simp) c mem
  | bool | int bits | float bits => cases inside
  | named name space' =>
    obtain ⟨parts, words, path⟩ := writable.words
    cases inside.symm.trans path
    exact isPathChar_of_mem_intercalate words mem

end Writable

/-! ### Where a name ends -/

/-- A text can be cut behind a run of characters of one kind if the next one is of another kind. -/
theorem append_eq_of_run {α : Type} {p : α → Bool} {run run' rest rest' : List α}
    (inside : ∀ c ∈ run, p c = true) (inside' : ∀ c ∈ run', p c = true)
    (ends : rest.head?.any p = false) (ends' : rest'.head?.any p = false)
    (same : run ++ rest = run' ++ rest') : run = run' ∧ rest = rest' := by
  have cut {run rest : List α} (inside : ∀ c ∈ run, p c = true) (ends : rest.head?.any p = false) :
      (run ++ rest).takeWhile p = run := by
    rw [List.takeWhile_append_of_pos inside]
    cases rest with
    | nil => exact List.append_nil run
    | cons c rest =>
      have other : p c = false := ends
      rw [List.takeWhile_cons, other, if_neg Bool.false_ne_true, List.append_nil]
  have runs : run = run' := by rw [← cut inside ends, same, cut inside' ends']
  subst runs
  exact ⟨rfl, List.append_cancel_left same⟩

section Head

variable {s t : TypeExpr}

theorem head_of_space {space : String} (inside : t.space = some space) :
    t.head true = space ++ "::" ++ t.name := by
  simp only [head, inside]

theorem head_of_no_space (outside : t.space = none) : t.head true = t.name := by
  simp only [head, outside]

theorem Writable.head (writable : t.Writable) :
    ∀ c ∈ (t.head true).toList, isPathChar c = true := by
  intro c mem
  have ofName (mem : c ∈ t.name.toList) : isPathChar c = true :=
    isPathChar_of_isWordChar (writable.name c mem)
  cases inside : t.space with
  | none =>
    rw [head_of_no_space inside] at mem
    exact ofName mem
  | some space =>
    rw [head_of_space inside, String.toList_append, String.toList_append, List.mem_append,
      List.mem_append] at mem
    rcases mem with (front | colons) | name
    · exact writable.space inside c front
    · exact isPathChar_of_mem_builtin "::" (by simp) c colons
    · exact ofName name

theorem Writable.head_ne_of_space (writable : s.Writable) (outside : s.space = none)
    {space : String} (inside : t.space = some space) : s.head true ≠ t.head true := by
  intro same
  have colon : ':' ∈ s.name.toList := by
    rw [← head_of_no_space outside, same, head_of_space inside]
    simp
  have word := writable.name ':' colon
  revert word
  decide +kernel

/-- The last double colon is in front of the name. -/
theorem Writable.name_space (writable : s.Writable) (writable' : t.Writable)
    (same : s.head true = t.head true) : s.name = t.name ∧ s.space = t.space := by
  cases inside : s.space with
  | none =>
    cases inside' : t.space with
    | none =>
      rw [head_of_no_space inside, head_of_no_space inside'] at same
      exact ⟨same, rfl⟩
    | some space' => exact absurd same (writable.head_ne_of_space inside inside')
  | some space =>
    cases inside' : t.space with
    | none => exact absurd same.symm (writable'.head_ne_of_space inside' inside)
    | some space' =>
      rw [head_of_space inside, head_of_space inside'] at same
      have chars := congrArg (fun text => text.toList.reverse) same
      simp only [String.toList_append, List.reverse_append] at chars
      have colon (front : List Char) :
          ("::".toList.reverse ++ front).head?.any isWordChar = false := by
        simp [isWordChar]
      obtain ⟨names, behind⟩ := append_eq_of_run
        (fun c mem => writable.name c (List.mem_reverse.mp mem))
        (fun c mem => writable'.name c (List.mem_reverse.mp mem)) (colon _) (colon _) chars
      have spaces := List.append_cancel_left behind
      rw [List.reverse_inj, String.toList_inj] at names spaces
      exact ⟨names, by rw [spaces]⟩

end Head

/-! ### What a type holds -/

/-- The outermost types are the same, whatever they hold. -/
inductive SameForm : TypeExpr → TypeExpr → Prop where
  | refl (t : TypeExpr) : SameForm t t
  | vec (item item' : TypeExpr) : SameForm (vec item) (vec item')
  | map (key value key' value' : TypeExpr) : SameForm (map key value) (map key' value')

section Form

variable {s t : TypeExpr}

/-- No built-in type has the name and the module of a named type. -/
theorem Writable.eq_named {name : String} {space : Option String}
    (writable : (named name space).Writable) (names : name = t.name) (spaces : space = t.space) :
    t = named name space := by
  cases t with
  | named name' space' => rw [names, spaces]; rfl
  | string | vec item | map key value =>
    have builtin := writable.foreign
    simp [names, spaces, TypeExpr.name, TypeExpr.space] at builtin
  | bool | int bits | float bits =>
    obtain ⟨parts, _, path⟩ := writable.words
    cases path.symm.trans spaces

theorem bits_inj {letter : String} {bits bits' : UInt8}
    (same : letter ++ toString bits.toNat = letter ++ toString bits'.toNat) : bits = bits' := by
  rw [String.append_right_inj, Nat.toString_eq_ofList_toDigits, Nat.toString_eq_ofList_toDigits,
    String.ofList_inj] at same
  have numbers := congrArg (fun digits => Nat.ofDigitChars 10 digits 0) same
  exact UInt8.toNat_inj.mp (by simpa using numbers)

theorem sameForm_of_name_space (writable : s.Writable) (writable' : t.Writable)
    (names : s.name = t.name) (spaces : s.space = t.space) : SameForm s t := by
  have first : s.name.toList.head? = t.name.toList.head? := by rw [names]
  have notNamed {name : String} {space : Option String} (named' : t = named name space)
      (other : s ≠ named name space) : SameForm s t := by
    subst named'
    exact absurd (writable'.eq_named names.symm spaces.symm) other
  cases s with
  | named name space =>
    rw [writable.eq_named names spaces]
    exact .refl _
  | string =>
    cases t with
    | string => exact .refl _
    | named name space => exact notNamed rfl (by simp)
    | _ => simp [TypeExpr.space] at spaces
  | vec item =>
    cases t with
    | vec item' => exact .vec item item'
    | named name space => exact notNamed rfl (by simp)
    | _ => simp [TypeExpr.space] at spaces
  | map key value =>
    cases t with
    | map key' value' => exact .map key value key' value'
    | named name space => exact notNamed rfl (by simp)
    | _ => simp [TypeExpr.space] at spaces
  | bool =>
    cases t with
    | bool => exact .refl _
    | named name space => exact notNamed rfl (by simp)
    | int bits | float bits => simp [TypeExpr.name] at first
    | _ => simp [TypeExpr.space] at spaces
  | int bits =>
    cases t with
    | int bits' =>
      rw [bits_inj names]
      exact .refl _
    | named name space => exact notNamed rfl (by simp)
    | bool | float bits' => simp [TypeExpr.name] at first
    | _ => simp [TypeExpr.space] at spaces
  | float bits =>
    cases t with
    | float bits' =>
      rw [bits_inj names]
      exact .refl _
    | named name space => exact notNamed rfl (by simp)
    | bool | int bits' => simp [TypeExpr.name] at first
    | _ => simp [TypeExpr.space] at spaces

end Form

/-- The text behind the name of the outermost type. -/
def held : TypeExpr → String
  | vec item => "<" ++ item.render true ++ ">"
  | map key value => "<" ++ key.render true ++ ", " ++ value.render true ++ ">"
  | _ => ""

theorem render_eq (t : TypeExpr) : t.render true = t.head true ++ t.held := by
  cases t <;> simp [render, held, String.append_assoc]

/-- The text does not go on with the name in front of it. -/
def EndsName (rest : List Char) : Prop :=
  rest.head?.any isPathChar = false

theorem endsName_mark {mark : String} (mem : mark ∈ ["<", ", ", ">"]) (rest : List Char) :
    EndsName (mark.toList ++ rest) := by
  simp only [List.mem_cons, List.not_mem_nil, or_false] at mem
  rcases mem with rfl | rfl | rfl <;> simp [EndsName, isPathChar, isWordChar]

theorem endsName_held (t : TypeExpr) {rest : List Char} (ends : EndsName rest) :
    EndsName (t.held.toList ++ rest) := by
  cases t with
  | vec item | map key value =>
    simp only [held, String.toList_append, List.append_assoc]
    exact endsName_mark (by simp) _
  | _ => exact ends

section Render

variable {s t : TypeExpr} {rest rest' : List Char}

theorem sameForm_of_render (writable : s.Writable) (writable' : t.Writable) (ends : EndsName rest)
    (ends' : EndsName rest')
    (same : (s.render true).toList ++ rest = (t.render true).toList ++ rest') :
    SameForm s t ∧ s.held.toList ++ rest = t.held.toList ++ rest' := by
  rw [render_eq, render_eq, String.toList_append, String.toList_append, List.append_assoc,
    List.append_assoc] at same
  obtain ⟨heads, behind⟩ := append_eq_of_run writable.head writable'.head (endsName_held s ends)
    (endsName_held t ends') same
  obtain ⟨names, spaces⟩ := writable.name_space writable' (String.toList_inj.mp heads)
  exact ⟨sameForm_of_name_space writable writable' names spaces, behind⟩

/-- A text that starts with that of a type tells the type and where its text ends. -/
theorem eq_of_render_append (writable : s.Writable) (writable' : t.Writable)
    (ends : EndsName rest) (ends' : EndsName rest')
    (same : (s.render true).toList ++ rest = (t.render true).toList ++ rest') :
    s = t ∧ rest = rest' := by
  induction s generalizing t rest rest' with
  | vec item ih =>
    obtain ⟨form, behind⟩ := sameForm_of_render writable writable' ends ends' same
    cases form with
    | refl => exact ⟨rfl, List.append_cancel_left behind⟩
    | vec _ item' =>
      simp only [held, String.toList_append, List.append_assoc] at behind
      have inner := List.append_cancel_left behind
      obtain ⟨items, onward⟩ := ih (t := item') writable writable' (endsName_mark (by simp) rest)
        (endsName_mark (by simp) rest') inner
      exact ⟨by rw [items], List.append_cancel_left onward⟩
  | map key value ihKey ihValue =>
    obtain ⟨form, behind⟩ := sameForm_of_render writable writable' ends ends' same
    cases form with
    | refl => exact ⟨rfl, List.append_cancel_left behind⟩
    | map _ _ key' value' =>
      simp only [held, String.toList_append, List.append_assoc] at behind
      have inner := List.append_cancel_left behind
      obtain ⟨keys, onward⟩ := ihKey writable.1 writable'.1 (endsName_mark (by simp) _)
        (endsName_mark (by simp) _) inner
      have second := List.append_cancel_left onward
      obtain ⟨values, last⟩ := ihValue writable.2 writable'.2 (endsName_mark (by simp) rest)
        (endsName_mark (by simp) rest') second
      exact ⟨by rw [keys, values], List.append_cancel_left last⟩
  | string | bool | int bits | float bits | named name space =>
    obtain ⟨form, behind⟩ := sameForm_of_render writable writable' ends ends' same
    cases form
    exact ⟨rfl, List.append_cancel_left behind⟩

end Render

/-- Types with the same full text are the same, however deep they are, if their names can be written
in code and are not those of built-in types. -/
theorem render_injective (s t : TypeExpr) (writable : s.Writable) (writable' : t.Writable)
    (same : s.render true = t.render true) : s = t := by
  have texts : (s.render true).toList ++ [] = (t.render true).toList ++ [] := by rw [same]
  have ends : EndsName [] := rfl
  exact (eq_of_render_append writable writable' ends ends texts).1

/-- Lists of notes by their names; `path` leads to the module of notes. -/
def notes (path : List String) : TypeExpr :=
  map string (vec (named "Note" (some ("::".intercalate path))))

theorem render_injective_notes :
    (notes ["crate", "model"]).Writable ∧ (notes ["crate::model"]).Writable ∧
      (notes ["crate", "model"]).render true =
        "std::collections::HashMap<std::string::String, std::vec::Vec<crate::model::Note>>" ∧
      (notes ["crate", "model"]).render true = (notes ["crate::model"]).render true ∧
      notes ["crate", "model"] = notes ["crate::model"] := by
  have words : ∀ word ∈ ["Note", "crate", "model"], IsWord word := by
    intro word mem
    simp only [List.mem_cons, List.not_mem_nil, or_false] at mem
    rcases mem with rfl | rfl | rfl
    all_goals exact ⟨by decide +kernel, List.all_eq_true.mp (by decide +kernel)⟩
  have paths : "::".intercalate ["crate::model"] = "::".intercalate ["crate", "model"] := by
    decide +kernel
  have path : IsPath "Note" (some ("::".intercalate ["crate", "model"])) := by
    have parts : ∀ part ∈ ["crate", "model"], IsWord part :=
      fun part mem => words part (List.mem_cons_of_mem _ mem)
    exact ⟨words "Note" (by simp), ⟨_, parts, rfl⟩, by decide +kernel⟩
  have writable : (notes ["crate", "model"]).Writable := ⟨trivial, path⟩
  have writable' : (notes ["crate::model"]).Writable := ⟨trivial, paths ▸ path⟩
  have same : (notes ["crate", "model"]).render true = (notes ["crate::model"]).render true := by
    decide +kernel
  exact ⟨writable, writable', by decide +kernel, same,
    render_injective _ _ writable writable' same⟩

-- A type of the generated code may not be called like a built-in one.
example : (named "String" (some "std::string")).render true = string.render true := by
  decide +kernel

end ServerSymbols.TypeExpr
