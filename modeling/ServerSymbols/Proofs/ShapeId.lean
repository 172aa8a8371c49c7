import ServerSymbols.Settings
import ServerSymbols.Proofs.Except
import Mathlib.Data.List.TakeWhile
import Mathlib.Data.List.Basic

set_option autoImplicit false

/-
Shape ids and their written form. Reading and writing are inverse to each other: the texts that are
read are those with one `#`, something on either side of it and no `$` behind it, each of them is
the written form of the id that is read, and every id with such a written form is read back. The
same holds of ids as JSON strings.
-/
namespace ServerSymbols

namespace ShapeId

theorem toList_text (id : ShapeId) : id.text.toList = id.space.toList ++ '#' :: id.name.toList := by
  rw [ShapeId.text, String.toList_append, String.toList_append, List.append_assoc]
  rfl

/-- Both parts hold something, and no character that has a meaning of its own in the written form.
A `$` may stand in the namespace. -/
structure Writable (id : ShapeId) : Prop where
  space_ne : id.space ≠ ""
  name_ne : id.name ≠ ""
  hash_space : '#' ∉ id.space.toList
  hash_name : '#' ∉ id.name.toList
  dollar_name : '$' ∉ id.name.toList

section Split

variable {text : String} {space name : List Char}

theorem parse_of_noSeparator (missing : '#' ∉ text.toList) : parse text = .error .noSeparator := by
  have nothing : text.toList.dropWhile (· != '#') = [] :=
    List.dropWhile_eq_nil_iff.mpr fun c mem => bne_iff_ne.mpr fun same => missing (same ▸ mem)
  unfold parse
  dsimp only
  rw [nothing]

/-- The first `#` of a text decides what is the namespace and what is the name. -/
theorem parse_of_split (split : text.toList = space ++ '#' :: name) (first : '#' ∉ space) :
    parse text =
      if space.isEmpty then .error .emptySpace
      else if name.isEmpty then .error .emptyName
      else if name.contains '$' then .error .memberId
      else if name.contains '#' then .error .twoSeparators
      else .ok ⟨String.ofList space, String.ofList name⟩ := by
  have before : ∀ c ∈ space, (c != '#') = true :=
    fun c mem => bne_iff_ne.mpr fun same => first (same ▸ mem)
  have taken : text.toList.takeWhile (· != '#') = space := by
    rw [split, List.takeWhile_append_of_pos before]
    simp
  have left : text.toList.dropWhile (· != '#') = '#' :: name := by
    rw [split, List.dropWhile_append_of_pos before]
    simp
  unfold parse
  dsimp only
  rw [taken, left]

end Split

/-- A text is read as an id if it is the written form of that id, and there is one. -/
theorem parse_eq_ok_iff {text : String} {id : ShapeId} :
    parse text = .ok id ↔ id.Writable ∧ id.text = text := by
  constructor
  · intro read
    by_cases separated : '#' ∈ text.toList
    · obtain ⟨space, name, split, first⟩ := List.eq_append_cons_of_mem separated
      rw [parse_of_split split first] at read
      split at read
      · cases read
      next someSpace =>
      split at read
      · cases read
      next someName =>
      split at read
      · cases read
      next noDollar =>
      split at read
      · cases read
      next noHash =>
      cases read
      refine ⟨⟨?_, ?_, ?_, ?_, ?_⟩, ?_⟩
      · simpa using someSpace
      · simpa using someName
      · simpa using first
      · simpa using noHash
      · simpa using noDollar
      · rw [← String.toList_inj, toList_text, split, String.toList_ofList, String.toList_ofList]
    · rw [parse_of_noSeparator separated] at read
      cases read
  · rintro ⟨writable, rfl⟩
    rw [parse_of_split id.toList_text writable.hash_space, if_neg, if_neg, if_neg, if_neg,
      String.ofList_toList, String.ofList_toList]
    · simpa using writable.hash_name
    · simpa using writable.dollar_name
    · simpa using writable.name_ne
    · simpa using writable.space_ne

/-- Reading an id loses nothing of the text. -/
theorem text_of_parse {text : String} {id : ShapeId} (read : parse text = .ok id) :
    id.text = text :=
  (parse_eq_ok_iff.mp read).2

theorem parse_text_iff {id : ShapeId} : parse id.text = .ok id ↔ id.Writable := by
  rw [parse_eq_ok_iff, and_iff_left rfl]

/-- The written form of an id that was read is read as this id. -/
theorem parse_text_of_parse {text : String} {id : ShapeId} (read : parse text = .ok id) :
    parse id.text = .ok id := by
  rw [text_of_parse read, read]

/-- A text with one `#`, something on either side of it, and no `$` behind it is the written form of
the id with these two sides. -/
theorem exists_writable_iff {text : String} :
    (∃ id : ShapeId, id.Writable ∧ id.text = text) ↔
      text.toList.count '#' = 1 ∧ ∃ before behind, text.toList = before ++ '#' :: behind ∧
        before ≠ [] ∧ behind ≠ [] ∧ '$' ∉ behind := by
  constructor
  · rintro ⟨id, writable, rfl⟩
    rw [id.toList_text]
    refine ⟨?_, id.space.toList, id.name.toList, rfl, ?_, ?_, writable.dollar_name⟩
    · rw [List.count_append, List.count_cons_self, List.count_eq_zero.mpr writable.hash_space,
        List.count_eq_zero.mpr writable.hash_name]
    · simpa using writable.space_ne
    · simpa using writable.name_ne
  · rintro ⟨one, before, behind, split, someBefore, someBehind, noDollar⟩
    rw [split, List.count_append, List.count_cons_self] at one
    have noneBefore : '#' ∉ before := List.count_eq_zero.mp (by omega)
    have noneBehind : '#' ∉ behind := List.count_eq_zero.mp (by omega)
    refine ⟨⟨String.ofList before, String.ofList behind⟩, ⟨?_, ?_, ?_, ?_, ?_⟩, ?_⟩
    · simpa using someBefore
    · simpa using someBehind
    · simpa using noneBefore
    · simpa using noneBehind
    · simpa using noDollar
    · rw [← String.toList_inj, toList_text, split, String.toList_ofList, String.toList_ofList]

end ShapeId

open Json in
/-- Of all JSON, only the string of an id's written form is read as this id. -/
theorem Settings.decodeId_eq_ok_iff {tree : Tree} {id : ShapeId} :
    decodeId tree = .ok id ↔ tree = .ofValue (.str id.text) ∧ id.Writable := by
  rw [← ShapeId.parse_text_iff]
  unfold decodeId
  constructor
  · intro read
    obtain ⟨text, string, parsed⟩ := Except.bind_eq_ok.mp read
    have parsed := Except.mapError_eq_ok.mp parsed
    rw [ShapeId.text_of_parse parsed]
    refine ⟨?_, parsed⟩
    unfold decodeString at string
    split at string
    · cases string
      rfl
    · unfold wrongType at string
      split at string <;> cases string
  · rintro ⟨rfl, parsed⟩
    exact Except.bind_eq_ok.mpr ⟨id.text, rfl, Except.mapError_eq_ok.mpr parsed⟩

namespace ShapeId

/-- Exactly the texts with one `#`, something on either side of it and no `$` behind it are read as
ids. What is read is written as the text again, and an id of two parts that hold something, no `#`,
and no `$` in the name is read back from its written form. So no two texts are read as one id, and
JSON that is read as an id is the string that the id is written as. -/
theorem parse_exact :
    (∀ text : String, (∃ id, parse text = .ok id) ↔
      text.toList.count '#' = 1 ∧ ∃ before behind, text.toList = before ++ '#' :: behind ∧
        before ≠ [] ∧ behind ≠ [] ∧ '$' ∉ behind) ∧
    (∀ text id, parse text = .ok id → id.text = text) ∧
    (∀ id : ShapeId, id.Writable → parse id.text = .ok id) ∧
    (∀ a b id, parse a = .ok id → parse b = .ok id → a = b) ∧
    ∀ tree id, Settings.decodeId tree = .ok id ↔
      tree = .ofValue (.str id.text) ∧ id.Writable := by
  refine ⟨fun text => ?_, fun text id => text_of_parse, fun id => parse_text_iff.mpr,
    fun a b id readA readB => ?_, fun tree id => Settings.decodeId_eq_ok_iff⟩
  · simp only [parse_eq_ok_iff, exists_writable_iff]
  · rw [← text_of_parse readA, text_of_parse readB]

/-- A namespace may hold a `$`. -/
theorem parse_exact_dollar :
    parse "a$b#Größe" = .ok ⟨"a$b", "Größe"⟩ ∧
      (⟨"a$b", "Größe"⟩ : ShapeId).Writable ∧
      ("a$b#Größe".toList.count '#' = 1 ∧ ∃ before behind,
        "a$b#Größe".toList = before ++ '#' :: behind ∧ before ≠ [] ∧ behind ≠ [] ∧
          '$' ∉ behind) ∧
      (⟨"a$b", "Größe"⟩ : ShapeId).text = "a$b#Größe" ∧
      parse (⟨"a$b", "Größe"⟩ : ShapeId).text = .ok ⟨"a$b", "Größe"⟩ ∧
      (∀ text, parse text = .ok ⟨"a$b", "Größe"⟩ → text = "a$b#Größe") ∧
      Settings.decodeId (.ofValue (.str "a$b#Größe")) = .ok ⟨"a$b", "Größe"⟩ := by
  have read : parse "a$b#Größe" = .ok ⟨"a$b", "Größe"⟩ := by decide +kernel
  have writable : (⟨"a$b", "Größe"⟩ : ShapeId).Writable := (parse_eq_ok_iff.mp read).1
  obtain ⟨accepted, written, readBack, injective, string⟩ := parse_exact
  exact ⟨read, writable, (accepted _).mp ⟨_, read⟩, written _ _ read, readBack _ writable,
    fun text same => injective _ _ _ same read, (string _ _).mpr ⟨rfl, writable⟩⟩

end ShapeId

end ServerSymbols
