import ServerSymbols.Document.Shapes
import ServerSymbols.Proofs.Json.Record

set_option autoImplicit false

/-
The order of the fields of a shape. A document whose shapes have their fields in another order is
read to the same document. Behind this stands that fields are read apart from one another, and that
fields set aside are looked at by name only.
-/
namespace ServerSymbols.Document

open Json

variable {source : Source}

/-! ### Shapes -/

/-- A field that is kept beside what is set aside. -/
structure Beside (field : RecordField ShapeDraft) : Prop where
  set : ∀ t d x, field.set t { d with aside := x } =
    (field.set t d).map ({ · with aside := x })
  isSet : ∀ d x, field.isSet { d with aside := x } = field.isSet d
  aside : ∀ {t d e}, field.set t d = .ok e → e.aside = d.aside

theorem beside_of {α : Type} {name : String} {required : Bool} {get : ShapeDraft → Option α}
    {put : α → ShapeDraft → ShapeDraft} {decode : Decoder α}
    (put_aside : ∀ v d x, put v { d with aside := x } = { put v d with aside := x })
    (get_aside : ∀ d x, get { d with aside := x } = get d)
    (aside_put : ∀ v d, (put v d).aside = d.aside) :
    Beside (.of name required get put decode) where
  set t d x := by
    change (decode t).map (put · { d with aside := x }) = ((decode t).map (put · d)).map _
    cases decode t with
    | error reason => rfl
    | ok value => exact congrArg Except.ok (put_aside value d x)
  isSet d x := congrArg Option.isSome (get_aside d x)
  aside set := by
    obtain ⟨value, _, rfl⟩ := RecordField.set_of_eq_ok.mp set
    exact aside_put value _

/-- Drafts with the same fields, and with the same entries set aside in some order. -/
def Alike (d e : ShapeDraft) : Prop :=
  ∃ aside, d.aside.Perm aside ∧ e = { d with aside }

theorem beside_shapeRecord : ∀ field ∈ (shapeRecord source).fields, Beside field := by
  simp only [shapeRecord, List.forall_mem_cons, List.not_mem_nil, false_implies, implies_true,
    and_true]
  and_intros <;> exact beside_of (by intros; rfl) (by intros; rfl) (by intros; rfl)

theorem unknown_eq_ok {name : String} {t : Tree} {d e : ShapeDraft} :
    (shapeRecord source).unknown name t d = .ok e ↔
      ∃ value, decodeValue t = .ok value ∧
        { d with aside := d.aside ++ [(.text name, t)] } = e :=
  Except.map_eq_ok

theorem orderly_shapeRecord : (shapeRecord source).Orderly Alike where
  refl d := ⟨d.aside, List.Perm.refl _, rfl⟩
  trans := by
    rintro d _ _ ⟨x, perm, rfl⟩ ⟨y, perm', rfl⟩
    exact ⟨y, perm.trans perm', rfl⟩
  marks := by
    simp only [shapeRecord, List.forall_mem_cons, List.not_mem_nil, false_implies, implies_true,
      and_true]
    and_intros <;> exact RecordField.marks_of (by intros; rfl)
  apart := by
    simp only [shapeRecord, List.pairwise_cons, List.forall_mem_cons, List.not_mem_nil,
      false_implies, implies_true, and_true, List.Pairwise.nil]
    and_intros <;> exact RecordField.apart_of (by intros; rfl) (by intros; rfl) (by intros; rfl)
  isSet_alike := by
    rintro field mem d _ ⟨x, _, rfl⟩
    exact (beside_shapeRecord field mem).isSet d x
  set_alike := by
    rintro field mem t d d' _ ⟨x, perm, rfl⟩ set
    have beside := beside_shapeRecord field mem
    refine ⟨{ d' with aside := x }, ?_, x, ?_, rfl⟩
    · rw [beside.set, set, Except.map]
    · rwa [beside.aside set]
  unknown_alike := by
    rintro name t d _ _ ⟨x, perm, rfl⟩ passed
    obtain ⟨value, readable, rfl⟩ := unknown_eq_ok.mp passed
    exact ⟨_, unknown_eq_ok.mpr ⟨value, readable, rfl⟩, x ++ [(.text name, t)],
      perm.append_right _, rfl⟩
  set_unknown := by
    intro field mem name s t d e
    have beside := beside_shapeRecord field mem
    simp only [Except.bind_eq_ok, unknown_eq_ok]
    constructor
    · rintro ⟨d', set, value, readable, rfl⟩
      refine ⟨_, ⟨value, readable, rfl⟩, ?_⟩
      rw [beside.set, set, Except.map, beside.aside set]
    · rintro ⟨_, ⟨value, readable, rfl⟩, set⟩
      rw [beside.set, Except.map_eq_ok] at set
      obtain ⟨d', set, rfl⟩ := set
      refine ⟨d', set, value, readable, ?_⟩
      rw [beside.aside set]
  isSet_unknown := by
    intro field mem name t d e passed
    obtain ⟨value, readable, rfl⟩ := unknown_eq_ok.mp passed
    exact (beside_shapeRecord field mem).isSet d _
  unknown_unknown := by
    intro name name' s t d d' e passed passed'
    obtain ⟨value, readable, rfl⟩ := unknown_eq_ok.mp passed
    obtain ⟨value', readable', rfl⟩ := unknown_eq_ok.mp passed'
    refine ⟨_, _, unknown_eq_ok.mpr ⟨value', readable', rfl⟩,
      unknown_eq_ok.mpr ⟨value, readable, rfl⟩, _, ?_, rfl⟩
    simp only [List.append_assoc]
    exact (List.Perm.swap _ _ []).append_left d.aside

theorem orderly_lifecycleRecord : lifecycleRecord.Orderly Eq := by
  apply Record.Orderly.of_skip
  · simp only [List.forall_mem_cons, List.not_mem_nil, false_implies, implies_true, and_true]
    and_intros <;> exact RecordField.marks_of (by intros; rfl)
  · simp only [List.pairwise_cons, List.forall_mem_cons, List.not_mem_nil, false_implies,
      implies_true, and_true, List.Pairwise.nil]
    and_intros <;> exact RecordField.apart_of (by intros; rfl) (by intros; rfl) (by intros; rfl)

/-- The fields of a shape may stand in any order. -/
theorem decodeShape_perm {entries entries' : List (Key × Tree)} {ending : Option Fault}
    {shape : Shape} (perm : entries.Perm entries')
    (read : decodeShape source (.obj entries ending) = .ok shape) :
    decodeShape source (.obj entries' ending) = .ok shape := by
  obtain ⟨draft, read, closed⟩ := Except.bind_eq_ok.mp read
  obtain ⟨lifecycle, readAside, same⟩ := Except.bind_eq_ok.mp closed
  obtain ⟨last, readLast, closed⟩ := Except.map_eq_ok.mp readAside
  obtain ⟨_, read', aside, asidePerm, rfl⟩ := orderly_shapeRecord.readEntries_perm perm read
  obtain ⟨_, readLast', rfl⟩ := orderly_lifecycleRecord.readEntries_perm asidePerm readLast
  refine Except.bind_eq_ok.mpr ⟨_, read', Except.bind_eq_ok.mpr ⟨lifecycle, ?_, same⟩⟩
  exact Except.map_eq_ok.mpr ⟨last, readLast', closed⟩

/-! ### Documents -/

/-- The same object with its fields in another order. -/
inductive FieldsReordered : Tree → Tree → Prop where
  | obj {entries entries' : List (Key × Tree)} (ending : Option Fault)
    (perm : entries.Perm entries') : FieldsReordered (.obj entries ending) (.obj entries' ending)

/-- The same shapes in the same order, each with its fields in some order. -/
inductive ShapesReordered : Tree → Tree → Prop where
  | obj {entries entries' : List (Key × Tree)} (ending : Option Fault)
    (each : List.Forall₂ (fun entry entry' => entry.1 = entry'.1 ∧
      FieldsReordered entry.2 entry'.2) entries entries') :
    ShapesReordered (.obj entries ending) (.obj entries' ending)

/-- The same document but for the order of the fields inside its shapes. -/
inductive Reordered : Tree → Tree → Prop where
  | obj {entries entries' : List (Key × Tree)} (ending : Option Fault)
    (each : List.Forall₂ (fun entry entry' => entry.1 = entry'.1 ∧
      (entry.2 = entry'.2 ∨ entry.1 = .text "shapes" ∧ ShapesReordered entry.2 entry'.2))
      entries entries') :
    Reordered (.obj entries ending) (.obj entries' ending)
  | arr (version : Tree) {shapes shapes' : Tree} (rest : List Tree) (ending : Option Fault)
    (reordered : ShapesReordered shapes shapes') :
    Reordered (.arr (version :: shapes :: rest) ending) (.arr (version :: shapes' :: rest) ending)

theorem decodeShape_reordered {t t' : Tree} (reordered : FieldsReordered t t') {shape : Shape}
    (read : decodeShape source t = .ok shape) : decodeShape source t' = .ok shape := by
  cases reordered with
  | obj ending perm => exact decodeShape_perm perm read

theorem decodeMap_reordered {t t' : Tree} (reordered : ShapesReordered t t')
    {shapes : List (String × Shape)} (read : decodeMap (decodeShape source) t = .ok shapes) :
    decodeMap (decodeShape source) t' = .ok shapes := by
  cases reordered with
  | obj ending each =>
    refine decodeEntries_mono [] (each.imp fun entry entry' same => ⟨same.1, ?_⟩) read
    exact fun shape read => decodeShape_reordered same.2 read

/-- The order of the fields inside shapes makes no difference. -/
theorem decode_reordered {t t' : Tree} (reordered : Reordered t t') {document : Document}
    (read : decode source t = .ok document) : decode source t' = .ok document := by
  obtain ⟨draft, read, closed⟩ := Except.map_eq_ok.mp read
  refine Except.map_eq_ok.mpr ⟨draft, ?_, closed⟩
  cases reordered with
  | obj ending each =>
    obtain ⟨ended, all, complete⟩ := Record.readEntries_eq_ok.mp read
    refine Record.readEntries_eq_ok.mpr ⟨ended, Record.readAll_mono (each.imp ?_) all, complete⟩
    rintro ⟨key, item⟩ ⟨_, item'⟩ ⟨rfl, rfl | ⟨rfl, reordered⟩⟩ d d' step
    · exact step
    · obtain ⟨fresh, set⟩ := (Record.readEntry_field rfl rfl).mp step
      obtain ⟨shapes, read, rfl⟩ := RecordField.set_of_eq_ok.mp set
      exact (Record.readEntry_field rfl rfl).mpr
        ⟨fresh, RecordField.set_of_eq_ok.mpr ⟨shapes, decodeMap_reordered reordered read, rfl⟩⟩
  | arr version rest ending reordered =>
    obtain ⟨next, first, read⟩ := Except.bind_eq_ok.mp read
    obtain ⟨last, second, read⟩ := Except.bind_eq_ok.mp read
    obtain ⟨shapes, decoded, rfl⟩ := RecordField.set_of_eq_ok.mp second
    refine Except.bind_eq_ok.mpr ⟨next, first, Except.bind_eq_ok.mpr ⟨_, ?_, read⟩⟩
    exact RecordField.set_of_eq_ok.mpr ⟨shapes, decodeMap_reordered reordered decoded, rfl⟩

/-! ### Values and texts -/

theorem ofValue_reordered {v w : Value} (reordered : Reordered (.ofValue v) (.ofValue w))
    {m : Model} (loaded : Model.ofValue v = .ok m) : Model.ofValue w = .ok m := by
  obtain ⟨document, read, made⟩ := Except.bind_eq_ok.mp loaded
  have read := decode_reordered reordered (Except.mapError_eq_ok.mp read)
  exact Except.bind_eq_ok.mpr ⟨document, Except.mapError_eq_ok.mpr read, made⟩

/-- The text is one value, with nothing but blanks behind it. -/
def Whole (text : String) : Prop :=
  (scan nestingLimit text).rest.map skipBlanks = some []

theorem decodeDocument_eq_ok {α : Type} {decode : Decoder α} {text : String} {result : α} :
    decodeDocument decode nestingLimit text = .ok result ↔
      decode (scan nestingLimit text).got = .ok result ∧ Whole text := by
  constructor
  · intro read
    obtain ⟨value, decoded, ended⟩ := Except.bind_eq_ok.mp read
    split at ended
    · next whole =>
      cases ended
      exact ⟨decoded, whole⟩
    · cases ended
  · rintro ⟨decoded, whole⟩
    refine Except.bind_eq_ok.mpr ⟨result, decoded, ?_⟩
    rw [Whole] at whole
    rw [whole]

theorem ofText_reordered {text other : String}
    (reordered : Reordered (scan nestingLimit text).got (scan nestingLimit other).got)
    (whole : Whole other) {m : Model} (loaded : Model.ofText text = .ok m) :
    Model.ofText other = .ok m := by
  obtain ⟨document, read, made⟩ := Except.bind_eq_ok.mp loaded
  obtain ⟨read, _⟩ := decodeDocument_eq_ok.mp (Except.mapError_eq_ok.mp read)
  have read := decode_reordered reordered read
  exact Except.bind_eq_ok.mpr ⟨document,
    Except.mapError_eq_ok.mpr (decodeDocument_eq_ok.mpr ⟨read, whole⟩), made⟩

end ServerSymbols.Document
