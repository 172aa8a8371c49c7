import Mathlib
import ServerSymbols.Proofs.Document.Order
import ServerSymbols.Proofs.Json.Source

set_option autoImplicit false

/-
Texts and values. A document is read from its text, or from the value that was parsed from the text
before. Both ways lead to the same model or to the same error, but for errors of reading: the text of
an array with too many items ends in the wrong place, while the value has the wrong length.
-/
namespace ServerSymbols.Document

open Json

/-! ### Readers of documents -/

section Readers

variable (source source' : Source) (tree : Tree)

theorem toOption_decodeTarget :
    (decodeTarget source tree).toOption = (decodeTarget source' tree).toOption := by
  simp only [decodeTarget, Except.toOption_map,
    Record.toOption_read (.refl targetRecord) source source']

theorem toOption_decodeMember :
    (decodeMember source tree).toOption = (decodeMember source' tree).toOption := by
  simp only [decodeMember, Except.toOption_map,
    Record.toOption_read (.refl memberRecord) source source']

theorem alike_shapeRecord : (shapeRecord source).Alike (shapeRecord source') where
  fields := by
    have target := toOption_decodeTarget source source'
    have member := toOption_decodeMember source source'
    apply List.Forall₂.cons (.refl _)
    apply List.Forall₂.cons (RecordField.alike_of (toOption_decodeMap member))
    apply List.Forall₂.cons (RecordField.alike_of (toOption_decodeOption member))
    apply List.Forall₂.cons (RecordField.alike_of (toOption_decodeOption member))
    apply List.Forall₂.cons (RecordField.alike_of (toOption_decodeOption member))
    apply List.Forall₂.cons (RecordField.alike_of (toOption_decodeOption target))
    apply List.Forall₂.cons (RecordField.alike_of (toOption_decodeOption target))
    apply List.Forall₂.cons (RecordField.alike_of (toOption_decodeList target))
    apply List.Forall₂.cons (RecordField.alike_of (toOption_decodeList target))
    apply List.Forall₂.cons (RecordField.alike_of (toOption_decodeList target))
    apply List.Forall₂.cons (RecordField.alike_of (toOption_decodeMap target))
    apply List.Forall₂.cons (RecordField.alike_of (toOption_decodeList target))
    exact .cons (.refl _) .nil
  unknown _ _ _ := rfl

/-- What is set aside does not depend on the source, and is read as such from either. -/
theorem toOption_decodeShape :
    (decodeShape source tree).toOption = (decodeShape source' tree).toOption := by
  simp only [decodeShape, bind, Except.toOption_bind,
    Record.toOption_readObject (alike_shapeRecord source source')]

theorem alike_record : (record source).Alike (record source') where
  fields := .cons (.refl _) (.cons (RecordField.alike_of
    (toOption_decodeMap (toOption_decodeShape source source'))) .nil)
  unknown _ _ _ := rfl

/-- From either source the same trees are documents. -/
theorem toOption_decode : (decode source tree).toOption = (decode source' tree).toOption := by
  simp only [decode, Except.toOption_map,
    Record.toOption_read (alike_record source source') source source']

end Readers

/-! ### Models -/

variable {text : String} {v : Value}

theorem decodeDocument_of_whole {α : Type} {decode : Decoder α} (whole : Whole text) :
    decodeDocument decode nestingLimit text = decode (scan nestingLimit text).got := by
  rw [Whole] at whole
  rw [decodeDocument, whole]
  cases decode (scan nestingLimit text).got <;> rfl

theorem ofText_eq_decode (parsed : decodeDocument decodeValue nestingLimit text = .ok v)
    (distinct : (scan nestingLimit text).got.DistinctKeys) :
    ofText text = decode .text (.ofValue v) := by
  obtain ⟨read, whole⟩ := decodeDocument_eq_ok.mp parsed
  rw [ofText, decodeDocument_of_whole whole,
    Tree.eq_ofValue distinct (Except.mapError_eq_ok.mp read)]

/-- A text that parses as a value, and in which no object has a key twice, is loaded as the value is:
to the same model, or with the same error if it can be read, or else both cannot be read. -/
theorem load_agrees (text : String) (v : Value)
    (parsed : decodeDocument decodeValue nestingLimit text = .ok v)
    (distinct : (scan nestingLimit text).got.DistinctKeys) :
    (∃ m, Model.ofText text = .ok m ∧ Model.ofValue v = .ok m) ∨
      (∃ e, (∀ reason, e ≠ .json reason) ∧
        Model.ofText text = .error e ∧ Model.ofValue v = .error e) ∨
      ∃ reason reason', Model.ofText text = .error (.json reason) ∧
        Model.ofValue v = .error (.json reason') := by
  have read : (ofText text).toOption = (ofValue v).toOption := by
    rw [ofText_eq_decode parsed distinct]
    exact toOption_decode .text .value (.ofValue v)
  rw [Model.ofText, Model.ofValue]
  rcases Except.toOption_eq_toOption.mp read with ⟨d, ok, ok'⟩ | ⟨reason, reason', bad, bad'⟩
  · rw [ok, ok']
    change (∃ m, d.toModel = .ok m ∧ d.toModel = .ok m) ∨ (∃ e, (∀ reason, e ≠ .json reason) ∧
      d.toModel = .error e ∧ d.toModel = .error e) ∨ ∃ reason reason',
        d.toModel = .error (.json reason) ∧ d.toModel = .error (.json reason')
    cases made : d.toModel with
    | ok m => exact Or.inl ⟨m, rfl, rfl⟩
    | error e =>
      by_cases unread : ∃ reason, e = .json reason
      · obtain ⟨reason, rfl⟩ := unread
        exact Or.inr (Or.inr ⟨reason, reason, rfl, rfl⟩)
      · exact Or.inr (Or.inl ⟨e, not_exists.mp unread, rfl, rfl⟩)
  · rw [bad, bad']
    exact Or.inr (Or.inr ⟨reason, reason', rfl, rfl⟩)

/-- The document and a member are written as arrays. The only shape has an unknown type. -/
theorem load_agrees_unsupported :
    let text := "[\"2\",\x7b\"a#S\":\x7b\"type\":\"x\",\"key\":[\"T\"]\x7d\x7d]"
    let v : Value := .arr [.str "2", .obj [("a#S", .obj [("type", .str "x"),
      ("key", .arr [.str "T"])])]]
    decodeDocument decodeValue nestingLimit text = .ok v ∧
      (scan nestingLimit text).got.DistinctKeys ∧
      Model.ofText text = .error (.unsupportedType "a#S" "x") ∧
      Model.ofValue v = .error (.unsupportedType "a#S" "x") := by
  intro text v
  have scanned : scan nestingLimit text = ⟨.ofValue v, some []⟩ := by cbv
  have whole : Whole text := by
    rw [Whole, scanned]
    rfl
  have parsed : decodeDocument decodeValue nestingLimit text = .ok v := by
    rw [decodeDocument_of_whole whole, scanned]
    cbv
  have distinct : (scan nestingLimit text).got.DistinctKeys := by
    have key : Tree.DistinctKeys (.arr [.str "T"] none) := .arr none (by simp [Tree.DistinctKeys.str])
    have shape : Tree.DistinctKeys (.obj [(.text "type", .str "x"),
        (.text "key", .arr [.str "T"] none)] none) :=
      .obj none (by simp) (by simp [Tree.DistinctKeys.str, key])
    have shapes : Tree.DistinctKeys (.obj [(.text "a#S", .obj [(.text "type", .str "x"),
        (.text "key", .arr [.str "T"] none)] none)] none) :=
      .obj none (by simp) (by simp [shape])
    rw [scanned]
    apply Tree.DistinctKeys.arr
    simp [Tree.ofValue.ofItems, Tree.ofValue, Tree.ofValue.ofEntries, Tree.DistinctKeys.str, shapes]
  have refused : Model.ofText text = .error (.unsupportedType "a#S" "x") := by
    have read : ofText text = .ok ⟨"2", [("a#S", { type := "x", key := some ⟨"T", []⟩ })]⟩ := by
      rw [ofText, decodeDocument_of_whole whole, scanned]
      cbv
    rw [Model.ofText, read]
    cbv
  refine ⟨parsed, distinct, refused, ?_⟩
  rcases load_agrees text v parsed distinct with ⟨m, ok, _⟩ | ⟨e, _, same, same'⟩ | ⟨r, _, bad, _⟩
  · rw [refused] at ok
    cases ok
  · rw [refused] at same
    cases same
    exact same'
  · rw [refused] at bad
    cases bad

/-- The errors of reading differ. -/
example :
    ofText "[\"2\",\x7b\x7d,1]" = .error (.fault .malformed) ∧
      ofValue (.arr [.str "2", .obj [], .num (.int 1)]) =
        .error (.data (.wrongLength 3 "fewer elements in array")) :=
  ⟨by cbv, by cbv⟩

end ServerSymbols.Document
