import ServerSymbols.Json.Record
import ServerSymbols.Proofs.Except
import ServerSymbols.Proofs.Json.Value
import Mathlib.Data.List.Forall2
import Mathlib.Data.List.Pairwise

set_option autoImplicit false

/-
Records are read alike in whatever order their entries stand. Reading an entry is a step from one
draft to the next; the steps of two entries can be exchanged, so by induction on a permutation all
of them can be put in another order. An entry that tells nothing new can be put last, and then be
left out.
-/
namespace ServerSymbols.Json

variable {σ : Type}

/-! ### Steps -/

/-- What becomes of a draft when one entry is read. -/
def Record.readEntry (record : Record σ) (entry : Key × Tree) (draft : σ) : Except Error σ :=
  entry.1.decode.bind fun name =>
    match record.fields.find? (·.name == name) with
    | some field =>
      if field.isSet draft then .error (.data (.duplicateField name)) else field.set entry.2 draft
    | none => record.unknown name entry.2 draft

/-- Reads entries one after the other, whether or not any are missing. -/
def Record.readAll (record : Record σ) (entries : List (Key × Tree)) (draft : σ) : Except Error σ :=
  entries.foldlM (fun draft entry => record.readEntry entry draft) draft

section Steps

variable {record : Record σ} {entry : Key × Tree} {entries rest : List (Key × Tree)} {d d' : σ}

theorem Record.readAll_cons_eq_ok :
    record.readAll (entry :: rest) d = .ok d' ↔
      ∃ next, record.readEntry entry d = .ok next ∧ record.readAll rest next = .ok d' := by
  rw [readAll, List.foldlM_cons]
  cases record.readEntry entry d with
  | error reason => simp [bind, Except.bind]
  | ok next => simp [bind, Except.bind, readAll]

theorem Record.readAll_append_eq_ok :
    record.readAll (entries ++ rest) d = .ok d' ↔
      ∃ next, record.readAll entries d = .ok next ∧ record.readAll rest next = .ok d' := by
  rw [readAll, List.foldlM_append, ← readAll]
  cases record.readAll entries d with
  | error reason => simp [bind, Except.bind]
  | ok next => simp [bind, Except.bind, readAll]

theorem Record.readEntries_eq (record : Record σ) (ending : Option Fault)
    (entries : List (Key × Tree)) (draft : σ) :
    record.readEntries ending entries draft =
      (record.readAll entries draft).bind fun draft =>
        (finish ending).bind fun _ => requireFields record.fields draft := by
  induction entries generalizing draft with
  | nil => rfl
  | cons entry rest ih =>
    obtain ⟨key, item⟩ := entry
    rw [readEntries, readAll, List.foldlM_cons, readEntry]
    cases key.decode with
    | error reason => rfl
    | ok name =>
      simp only [bind, Except.bind]
      cases record.fields.find? (·.name == name) with
      | none =>
        dsimp only
        cases record.unknown name item draft with
        | error reason => rfl
        | ok next => exact ih next
      | some field =>
        dsimp only
        split
        · rfl
        · cases field.set item draft with
          | error reason => rfl
          | ok next => exact ih next

theorem requireFields_eq_ok {fields : List (RecordField σ)} :
    requireFields fields d = .ok d' ↔
      d = d' ∧ ∀ field ∈ fields, field.required = true → field.isSet d = true := by
  unfold requireFields
  cases missing : fields.find? fun field => field.required && !field.isSet d with
  | some field =>
    simp only [reduceCtorEq, false_iff, not_and]
    intro _ complete
    have found := List.find?_some missing
    have mem := List.mem_of_find?_eq_some missing
    simp only [Bool.and_eq_true, Bool.not_eq_true'] at found
    rw [complete field mem found.1] at found
    cases found.2
  | none =>
    have complete := List.find?_eq_none.mp missing
    simp only [Except.ok.injEq, iff_self_and]
    intro _ field mem required
    have := complete field mem
    simpa [required] using this

theorem finish_eq_ok {ending : Option Fault} {done : Unit} :
    finish ending = .ok done ↔ ending = none := by
  cases ending <;> simp [finish]

/-- An object is read if it ends properly, each entry can be read, and no required field is
missing. -/
theorem Record.readEntries_eq_ok {ending : Option Fault} :
    record.readEntries ending entries d = .ok d' ↔
      ending = none ∧ record.readAll entries d = .ok d' ∧
        ∀ field ∈ record.fields, field.required = true → field.isSet d' = true := by
  rw [readEntries_eq]
  simp only [Except.bind_eq_ok, finish_eq_ok, requireFields_eq_ok]
  constructor
  · rintro ⟨_, all, _, rfl, rfl, complete⟩
    exact ⟨rfl, all, complete⟩
  · rintro ⟨rfl, all, complete⟩
    exact ⟨d', all, (), rfl, rfl, complete⟩

/-- An entry of a known field sets the field, which must not be set yet. -/
theorem Record.readEntry_field {name : String} {field : RecordField σ}
    (named : entry.1.decode = .ok name)
    (found : record.fields.find? (·.name == name) = some field) :
    record.readEntry entry d = .ok d' ↔
      field.isSet d = false ∧ field.set entry.2 d = .ok d' := by
  rw [readEntry, named]
  simp only [Except.bind, found]
  cases field.isSet d <;> simp

theorem Record.readEntry_unknown {name : String} (named : entry.1.decode = .ok name)
    (absent : record.fields.find? (·.name == name) = none) :
    record.readEntry entry d = record.unknown name entry.2 d := by
  rw [readEntry, named]
  simp only [Except.bind, absent]

/-- An entry that is read has a name, which is that of a field or unknown. -/
theorem Record.exists_of_readEntry (read : record.readEntry entry d = .ok d') :
    ∃ name, entry.1.decode = .ok name ∧
      ((∃ field, record.fields.find? (·.name == name) = some field) ∨
        record.fields.find? (·.name == name) = none) := by
  rw [readEntry, Except.bind_eq_ok] at read
  obtain ⟨name, named, _⟩ := read
  refine ⟨name, named, ?_⟩
  cases record.fields.find? (·.name == name) with
  | some field => exact Or.inl ⟨field, rfl⟩
  | none => exact Or.inr rfl

end Steps

/-! ### Exchanging entries -/

/-- Setting one of the fields has nothing to do with the other. -/
structure RecordField.Apart (f g : RecordField σ) : Prop where
  exchange : ∀ (s t : Tree) (d e : σ),
    (f.set s d).bind (g.set t) = .ok e ↔ (g.set t d).bind (f.set s) = .ok e
  isSet_left : ∀ {t : Tree} {d e : σ}, g.set t d = .ok e → f.isSet e = f.isSet d
  isSet_right : ∀ {t : Tree} {d e : σ}, f.set t d = .ok e → g.isSet e = g.isSet d

/-- A field that was set is known to be set. -/
def RecordField.Marks (f : RecordField σ) : Prop :=
  ∀ {t : Tree} {d e : σ}, f.set t d = .ok e → f.isSet e = true

theorem RecordField.Apart.symm {f g : RecordField σ} (apart : f.Apart g) : g.Apart f where
  exchange s t d e := (apart.exchange t s d e).symm
  isSet_left := apart.isSet_right
  isSet_right := apart.isSet_left

instance : Std.Symm (@RecordField.Apart σ) := ⟨fun _ _ apart => apart.symm⟩

section Kept

variable {α β : Type} {name name' : String} {required required' : Bool}
  {get : σ → Option α} {put : α → σ → σ} {decode : Decoder α}
  {get' : σ → Option β} {put' : β → σ → σ} {decode' : Decoder β}

theorem RecordField.set_of_eq_ok {t : Tree} {d e : σ} :
    (RecordField.of name required get put decode).set t d = .ok e ↔
      ∃ value, decode t = .ok value ∧ put value d = e :=
  Except.map_eq_ok

/-- Reading goes on behind the entry of a field that is not set yet. -/
theorem Record.readAll_of {record : Record σ} {rest : List (Key × Tree)} {item : Tree} {value : α}
    {d d' : σ}
    (found : record.fields.find? (·.name == name) = some (.of name required get put decode))
    (unset : get d = none) (decoded : decode item = .ok value)
    (others : record.readAll rest (put value d) = .ok d') :
    record.readAll ((.text name, item) :: rest) d = .ok d' := by
  have set : (RecordField.of name required get put decode).set item d = .ok (put value d) :=
    RecordField.set_of_eq_ok.mpr ⟨value, decoded, rfl⟩
  have fresh : (get d).isSome = false := by rw [unset, Option.isSome_none]
  exact readAll_cons_eq_ok.mpr ⟨_, (readEntry_field rfl found).mpr ⟨fresh, set⟩, others⟩

/-- Fields that are kept in different places of the draft are apart. -/
theorem RecordField.apart_of (exchange : ∀ v w d, put' w (put v d) = put v (put' w d))
    (left : ∀ w d, get (put' w d) = get d) (right : ∀ v d, get' (put v d) = get' d) :
    Apart (.of name required get put decode) (.of name' required' get' put' decode') where
  exchange s t d e := by
    simp only [Except.bind_eq_ok, set_of_eq_ok]
    constructor
    · rintro ⟨_, ⟨v, first, rfl⟩, w, second, rfl⟩
      exact ⟨_, ⟨w, second, rfl⟩, v, first, (exchange v w d).symm⟩
    · rintro ⟨_, ⟨w, second, rfl⟩, v, first, rfl⟩
      exact ⟨_, ⟨v, first, rfl⟩, w, second, exchange v w d⟩
  isSet_left set := by
    obtain ⟨w, _, rfl⟩ := set_of_eq_ok.mp set
    exact congrArg Option.isSome (left w _)
  isSet_right set := by
    obtain ⟨v, _, rfl⟩ := set_of_eq_ok.mp set
    exact congrArg Option.isSome (right v _)

theorem RecordField.marks_of (kept : ∀ v d, (get (put v d)).isSome = true) :
    Marks (.of name required get put decode) := by
  intro t d e set
  obtain ⟨v, _, rfl⟩ := set_of_eq_ok.mp set
  exact kept v d

end Kept

/-- The order of a record's entries matters no more than drafts that are `alike` differ. -/
structure Record.Orderly (record : Record σ) (alike : σ → σ → Prop) : Prop where
  refl : ∀ d, alike d d
  trans : ∀ {d e f}, alike d e → alike e f → alike d f
  marks : ∀ field ∈ record.fields, field.Marks
  apart : record.fields.Pairwise RecordField.Apart
  isSet_alike : ∀ field ∈ record.fields, ∀ {d e}, alike d e → field.isSet e = field.isSet d
  /-- A field is read alike into drafts that are alike. -/
  set_alike : ∀ field ∈ record.fields, ∀ {t d d' e}, alike d e → field.set t d = .ok d' →
    ∃ e', field.set t e = .ok e' ∧ alike d' e'
  unknown_alike : ∀ {name t d d' e}, alike d e → record.unknown name t d = .ok d' →
    ∃ e', record.unknown name t e = .ok e' ∧ alike d' e'
  /-- Fields are apart from what is unknown. -/
  set_unknown : ∀ field ∈ record.fields, ∀ (name : String) (s t : Tree) (d e : σ),
    (field.set s d).bind (record.unknown name t) = .ok e ↔
      (record.unknown name t d).bind (field.set s) = .ok e
  isSet_unknown : ∀ field ∈ record.fields, ∀ {name t d e}, record.unknown name t d = .ok e →
    field.isSet e = field.isSet d
  unknown_unknown : ∀ {name name' s t d d' e}, record.unknown name s d = .ok d' →
    record.unknown name' t d' = .ok e →
    ∃ d'' e', record.unknown name' t d = .ok d'' ∧ record.unknown name s d'' = .ok e' ∧ alike e e'

namespace Record.Orderly

variable {record : Record σ} {alike : σ → σ → Prop} {entries entries' : List (Key × Tree)}
  {d d' e : σ}

theorem readEntry_alike (orderly : record.Orderly alike) {entry : Key × Tree} (same : alike d e)
    (read : record.readEntry entry d = .ok d') :
    ∃ e', record.readEntry entry e = .ok e' ∧ alike d' e' := by
  obtain ⟨name, named, ⟨field, found⟩ | absent⟩ := exists_of_readEntry read
  · obtain ⟨fresh, set⟩ := (readEntry_field named found).mp read
    have mem := List.mem_of_find?_eq_some found
    obtain ⟨e', set', same'⟩ := orderly.set_alike field mem same set
    have fresh' : field.isSet e = false := (orderly.isSet_alike field mem same).trans fresh
    exact ⟨e', (readEntry_field named found).mpr ⟨fresh', set'⟩, same'⟩
  · rw [readEntry_unknown named absent] at read
    rw [readEntry_unknown named absent]
    exact orderly.unknown_alike same read

theorem readAll_alike (orderly : record.Orderly alike) (same : alike d e)
    (read : record.readAll entries d = .ok d') :
    ∃ e', record.readAll entries e = .ok e' ∧ alike d' e' := by
  induction entries generalizing d e with
  | nil =>
    cases read
    exact ⟨e, rfl, same⟩
  | cons entry rest ih =>
    obtain ⟨next, first, others⟩ := readAll_cons_eq_ok.mp read
    obtain ⟨next', first', same'⟩ := orderly.readEntry_alike same first
    obtain ⟨e', others', last⟩ := ih same' others
    exact ⟨e', readAll_cons_eq_ok.mpr ⟨next', first', others'⟩, last⟩

/-- Two entries may stand in either order. -/
theorem readEntry_swap (orderly : record.Orderly alike) {first second : Key × Tree}
    (read : record.readEntry first d = .ok d') (read' : record.readEntry second d' = .ok e) :
    ∃ d'' e', record.readEntry second d = .ok d'' ∧ record.readEntry first d'' = .ok e' ∧
      alike e e' := by
  obtain ⟨name, named, ⟨f, found⟩ | absent⟩ := exists_of_readEntry read <;>
    obtain ⟨name', named', ⟨g, found'⟩ | absent'⟩ := exists_of_readEntry read'
  · rw [readEntry_field named found] at read
    rw [readEntry_field named' found'] at read'
    have mem := List.mem_of_find?_eq_some found
    have mem' := List.mem_of_find?_eq_some found'
    -- the same field cannot be set twice
    have distinct : f ≠ g := by
      rintro rfl
      rw [orderly.marks f mem read.2] at read'
      cases read'.1
    have apart : f.Apart g := orderly.apart.forall mem mem' distinct
    obtain ⟨d'', set', set⟩ := Except.bind_eq_ok.mp
      ((apart.exchange first.2 second.2 d e).mp (Except.bind_eq_ok.mpr ⟨d', read.2, read'.2⟩))
    refine ⟨d'', e, (readEntry_field named' found').mpr ⟨?_, set'⟩,
      (readEntry_field named found).mpr ⟨?_, set⟩, orderly.refl e⟩
    · rw [← apart.isSet_right read.2, read'.1]
    · rw [apart.isSet_left set', read.1]
  · rw [readEntry_field named found] at read
    rw [readEntry_unknown named' absent'] at read'
    have mem := List.mem_of_find?_eq_some found
    obtain ⟨d'', kept, set⟩ := Except.bind_eq_ok.mp
      ((orderly.set_unknown f mem name' first.2 second.2 d e).mp
        (Except.bind_eq_ok.mpr ⟨d', read.2, read'⟩))
    refine ⟨d'', e, (readEntry_unknown named' absent').trans kept,
      (readEntry_field named found).mpr ⟨?_, set⟩, orderly.refl e⟩
    rw [orderly.isSet_unknown f mem kept, read.1]
  · rw [readEntry_unknown named absent] at read
    rw [readEntry_field named' found'] at read'
    have mem := List.mem_of_find?_eq_some found'
    obtain ⟨d'', set, kept⟩ := Except.bind_eq_ok.mp
      ((orderly.set_unknown g mem name second.2 first.2 d e).mpr
        (Except.bind_eq_ok.mpr ⟨d', read, read'.2⟩))
    refine ⟨d'', e, (readEntry_field named' found').mpr ⟨?_, set⟩,
      (readEntry_unknown named absent).trans kept, orderly.refl e⟩
    rw [← orderly.isSet_unknown g mem read, read'.1]
  · rw [readEntry_unknown named absent] at read
    rw [readEntry_unknown named' absent'] at read'
    obtain ⟨d'', e', kept', kept, same⟩ := orderly.unknown_unknown read read'
    exact ⟨d'', e', (readEntry_unknown named' absent').trans kept',
      (readEntry_unknown named absent).trans kept, same⟩

/-- The entries of a record may stand in any order. -/
theorem readAll_perm (orderly : record.Orderly alike) (perm : entries.Perm entries')
    (read : record.readAll entries d = .ok d') :
    ∃ e, record.readAll entries' d = .ok e ∧ alike d' e := by
  induction perm generalizing d d' with
  | nil => exact ⟨d', read, orderly.refl d'⟩
  | cons entry _ ih =>
    obtain ⟨next, first, others⟩ := readAll_cons_eq_ok.mp read
    obtain ⟨e, others', same⟩ := ih others
    exact ⟨e, readAll_cons_eq_ok.mpr ⟨next, first, others'⟩, same⟩
  | swap second first rest =>
    obtain ⟨d₁, read₁, others⟩ := readAll_cons_eq_ok.mp read
    obtain ⟨d₂, read₂, others⟩ := readAll_cons_eq_ok.mp others
    obtain ⟨e₁, e₂, read₂', read₁', same⟩ := orderly.readEntry_swap read₁ read₂
    obtain ⟨e, others', last⟩ := orderly.readAll_alike same others
    exact ⟨e, readAll_cons_eq_ok.mpr ⟨e₁, read₂', readAll_cons_eq_ok.mpr ⟨e₂, read₁', others'⟩⟩,
      last⟩
  | trans _ _ ih ih' =>
    obtain ⟨e, read', same⟩ := ih read
    obtain ⟨e', read'', same'⟩ := ih' read'
    exact ⟨e', read'', orderly.trans same same'⟩

theorem readEntries_perm (orderly : record.Orderly alike) {ending : Option Fault}
    (perm : entries.Perm entries') (read : record.readEntries ending entries d = .ok d') :
    ∃ e, record.readEntries ending entries' d = .ok e ∧ alike d' e := by
  obtain ⟨ended, all, complete⟩ := readEntries_eq_ok.mp read
  obtain ⟨e, all', same⟩ := orderly.readAll_perm perm all
  refine ⟨e, readEntries_eq_ok.mpr ⟨ended, all', fun field mem required => ?_⟩, same⟩
  rw [orderly.isSet_alike field mem same, complete field mem required]

/-- What a record passes over leaves no trace. -/
theorem of_skip {title : String} {fields : List (RecordField σ)}
    (marks : ∀ field ∈ fields, field.Marks) (apart : fields.Pairwise RecordField.Apart) :
    Orderly { title, fields } Eq where
  refl _ := rfl
  trans := Eq.trans
  marks := marks
  apart := apart
  isSet_alike := by
    rintro field _ d e rfl
    rfl
  set_alike := by
    rintro field _ t d d' e rfl set
    exact ⟨d', set, rfl⟩
  unknown_alike := by
    rintro name t d d' e rfl passed
    exact ⟨d', passed, rfl⟩
  set_unknown field _ name s t d e := by
    simp only [Except.bind_eq_ok, Except.map_eq_ok]
    constructor
    · rintro ⟨_, set, passed, skipped, rfl⟩
      exact ⟨_, ⟨passed, skipped, rfl⟩, set⟩
    · rintro ⟨_, ⟨passed, skipped, rfl⟩, set⟩
      exact ⟨e, set, passed, skipped, rfl⟩
  isSet_unknown := by
    intro field _ name t d e passed
    obtain ⟨_, _, rfl⟩ := Except.map_eq_ok.mp passed
    rfl
  unknown_unknown := by
    intro name name' s t d d' e passed passed'
    obtain ⟨_, skipped, rfl⟩ := Except.map_eq_ok.mp passed
    obtain ⟨_, skipped', rfl⟩ := Except.map_eq_ok.mp passed'
    exact ⟨d, d, Except.map_eq_ok.mpr ⟨_, skipped', rfl⟩,
      Except.map_eq_ok.mpr ⟨_, skipped, rfl⟩, rfl⟩

end Record.Orderly

/-- Entries may be replaced by others that are read to the same effect. -/
theorem Record.readAll_mono {record : Record σ} {entries entries' : List (Key × Tree)} {d d' : σ}
    (each : List.Forall₂ (fun entry entry' => ∀ d d', record.readEntry entry d = .ok d' →
      record.readEntry entry' d = .ok d') entries entries')
    (read : record.readAll entries d = .ok d') : record.readAll entries' d = .ok d' := by
  induction each generalizing d with
  | nil => exact read
  | cons better _ ih =>
    obtain ⟨next, first, others⟩ := readAll_cons_eq_ok.mp read
    exact readAll_cons_eq_ok.mpr ⟨next, better d next first, ih others⟩

/-! ### Leaving entries out -/

/-- The second list is the first one without some items that need not be there. -/
inductive LeavesOut {α : Type} (needless : α → Prop) : List α → List α → Prop where
  | nil : LeavesOut needless [] []
  | keep (item : α) {items kept : List α} (rest : LeavesOut needless items kept) :
    LeavesOut needless (item :: items) (item :: kept)
  | drop {item : α} {items kept : List α} (out : needless item)
    (rest : LeavesOut needless items kept) : LeavesOut needless (item :: items) kept

namespace LeavesOut

variable {α β : Type} {needless : α → Prop} {items kept : List α}

theorem refl (needless : α → Prop) : ∀ items, LeavesOut needless items items
  | [] => nil
  | item :: rest => keep item (refl needless rest)

theorem map {needless' : β → Prop} {f : α → β} (leaves : LeavesOut needless items kept)
    (out : ∀ item ∈ items, needless item → needless' (f item)) :
    LeavesOut needless' (items.map f) (kept.map f) := by
  induction leaves with
  | nil => exact nil
  | keep item _ ih =>
    rw [List.forall_mem_cons] at out
    exact keep (f item) (ih out.2)
  | drop here _ ih =>
    rw [List.forall_mem_cons] at out
    exact drop (out.1 here) (ih out.2)

/-- What is left out can be put last first. -/
theorem exists_perm (leaves : LeavesOut needless items kept) :
    ∃ left, items.Perm (kept ++ left) ∧ ∀ item ∈ left, needless item := by
  induction leaves with
  | nil => exact ⟨[], List.Perm.refl _, fun _ mem => absurd mem List.not_mem_nil⟩
  | keep item _ ih =>
    obtain ⟨left, perm, out⟩ := ih
    exact ⟨left, perm.cons item, out⟩
  | drop out _ ih =>
    obtain ⟨left, perm, others⟩ := ih
    exact ⟨_ :: left, (perm.cons _).trans List.perm_middle.symm,
      List.forall_mem_cons.mpr ⟨out, others⟩⟩

end LeavesOut

section Idle

variable {τ : Type} {close : σ → τ} {record : Record σ} {entries kept : List (Key × Tree)}
  {d d' : σ}

/-- The entry of an optional field that adds nothing to what `close` makes of a draft. -/
def Record.Idle (record : Record σ) (close : σ → τ) (entry : Key × Tree) : Prop :=
  ∃ name field, entry.1.decode = .ok name ∧
    record.fields.find? (·.name == name) = some field ∧ field.required = false ∧
    ∀ d d', field.isSet d = false → field.set entry.2 d = .ok d' → close d' = close d

theorem Record.idle_of {α : Type} {name : String} {get : σ → Option α} {put : α → σ → σ}
    {decode : Decoder α} {item : Tree} {value : α}
    (found : record.fields.find? (·.name == name) = some (.of name false get put decode))
    (decoded : decode item = .ok value)
    (same : ∀ d, get d = none → close (put value d) = close d) :
    record.Idle close (.text name, item) := by
  refine ⟨name, _, rfl, found, rfl, fun d d' fresh set => ?_⟩
  obtain ⟨_, decoded', rfl⟩ := RecordField.set_of_eq_ok.mp set
  cases decoded.symm.trans decoded'
  exact same d (Option.isNone_iff_eq_none.mp (by simpa [RecordField.of] using fresh))

theorem Record.Orderly.close_of_idle (orderly : record.Orderly Eq)
    (idle : ∀ entry ∈ entries, record.Idle close entry) (read : record.readAll entries d = .ok d') :
    close d' = close d ∧ ∀ field ∈ record.fields, field.required = true →
      field.isSet d' = field.isSet d := by
  induction entries generalizing d with
  | nil =>
    cases read
    exact ⟨rfl, fun _ _ _ => rfl⟩
  | cons entry rest ih =>
    rw [List.forall_mem_cons] at idle
    obtain ⟨name, field, named, found, optional, same⟩ := idle.1
    obtain ⟨next, first, others⟩ := readAll_cons_eq_ok.mp read
    obtain ⟨fresh, set⟩ := (readEntry_field named found).mp first
    obtain ⟨close_eq, isSet_eq⟩ := ih idle.2 others
    refine ⟨close_eq.trans (same d next fresh set), fun other mem required => ?_⟩
    have distinct : other ≠ field := by
      rintro rfl
      rw [optional] at required
      cases required
    have apart := orderly.apart.forall mem (List.mem_of_find?_eq_some found) distinct
    rw [isSet_eq other mem required, apart.isSet_left set]

/-- Without some idle entries a record is read to the same effect. -/
theorem Record.Orderly.readEntries_leavesOut (orderly : record.Orderly Eq)
    (leaves : LeavesOut (record.Idle close) entries kept)
    (read : record.readEntries none entries d = .ok d') :
    ∃ e, record.readEntries none kept d = .ok e ∧ close e = close d' := by
  obtain ⟨left, perm, idle⟩ := leaves.exists_perm
  obtain ⟨_, all, complete⟩ := readEntries_eq_ok.mp read
  obtain ⟨_, ordered, rfl⟩ := orderly.readAll_perm perm all
  obtain ⟨e, first, last⟩ := readAll_append_eq_ok.mp ordered
  obtain ⟨close_eq, isSet_eq⟩ := orderly.close_of_idle idle last
  refine ⟨e, readEntries_eq_ok.mpr ⟨rfl, first, fun field mem required => ?_⟩, close_eq.symm⟩
  rw [← isSet_eq field mem required, complete field mem required]

/-- The same of a value's fields. -/
theorem Record.Orderly.readEntries_ofEntries (orderly : record.Orderly Eq)
    {needless : String × Value → Prop} {all written : List (String × Value)}
    (read : record.readEntries none (Tree.ofValue.ofEntries all) d = .ok d')
    (idle : ∀ entry ∈ all, needless entry →
      record.Idle close (.text entry.1, .ofValue entry.2))
    (leaves : LeavesOut needless all written) :
    ∃ e, record.readEntries none (Tree.ofValue.ofEntries written) d = .ok e ∧
      close e = close d' := by
  rw [Tree.ofEntries_eq_map] at read ⊢
  exact orderly.readEntries_leavesOut (leaves.map idle) read

end Idle

/-! ### What holds of every draft -/

section Invariant

variable {record : Record σ} {P : σ → Prop} {d d' : σ}

theorem Record.invariant_of_readAll {entries : List (Key × Tree)}
    (set : ∀ field ∈ record.fields, ∀ t d d', P d → field.set t d = .ok d' → P d')
    (unknown : ∀ name t d d', P d → record.unknown name t d = .ok d' → P d')
    (first : P d) (read : record.readAll entries d = .ok d') : P d' := by
  induction entries generalizing d with
  | nil =>
    cases read
    exact first
  | cons entry rest ih =>
    obtain ⟨next, step, others⟩ := readAll_cons_eq_ok.mp read
    refine ih ?_ others
    obtain ⟨name, named, ⟨field, found⟩ | absent⟩ := exists_of_readEntry step
    · exact set field (List.mem_of_find?_eq_some found) entry.2 d next first
        ((readEntry_field named found).mp step).2
    · rw [readEntry_unknown named absent] at step
      exact unknown name entry.2 d next first step

theorem Record.invariant_of_readItems {source : Source} {length : Nat} {ending : Option Fault}
    {fields : List (RecordField σ)} {items : List Tree}
    (set : ∀ field ∈ fields, ∀ t d d', P d → field.set t d = .ok d' → P d')
    (first : P d) (read : record.readItems source length ending fields items d = .ok d') :
    P d' := by
  induction fields generalizing items d with
  | nil =>
    cases items with
    | nil =>
      obtain ⟨_, _, rfl⟩ := Except.map_eq_ok.mp read
      exact first
    | cons item rest => cases read
  | cons field fields ih =>
    rw [List.forall_mem_cons] at set
    cases items with
    | nil =>
      obtain ⟨_, _, others⟩ := Except.bind_eq_ok.mp read
      split at others
      · cases others
      · exact ih set.2 first others
    | cons item rest =>
      obtain ⟨next, step, others⟩ := Except.bind_eq_ok.mp read
      exact ih set.2 (set.1 item d next first step) others

/-- What is true at the start and is kept by every field is true of the record. -/
theorem Record.invariant_of_read {source : Source} {start : σ} {tree : Tree}
    (set : ∀ field ∈ record.fields, ∀ t d d', P d → field.set t d = .ok d' → P d')
    (unknown : ∀ name t d d', P d → record.unknown name t d = .ok d' → P d')
    (first : P start) (read : record.read source start tree = .ok d) : P d := by
  cases tree with
  | arr items ending => exact invariant_of_readItems set first read
  | obj entries ending =>
    change record.readEntries ending entries start = .ok d at read
    obtain ⟨_, all, _⟩ := readEntries_eq_ok.mp read
    exact invariant_of_readAll set unknown first all
  | unreadable start fault skip => cases read
  | _ => cases read

end Invariant

end ServerSymbols.Json
