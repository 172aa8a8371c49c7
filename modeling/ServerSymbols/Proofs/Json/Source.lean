import ServerSymbols.Proofs.Json.Record

set_option autoImplicit false

/-
Where a tree comes from. What a reader says of an array with too many items depends on its source,
but no more than that: from either source it accepts the same trees with the same results. A text
without repeated keys has the same tree as the value that is read from it.
-/
namespace ServerSymbols.Json

/-! ### Trees of values -/

/-- No object in the tree has a key twice. -/
inductive Tree.DistinctKeys : Tree → Prop where
  | null : DistinctKeys .null
  | bool (value : Bool) : DistinctKeys (.bool value)
  | num (value : Number) : DistinctKeys (.num value)
  | str (value : String) : DistinctKeys (.str value)
  | arr {items : List Tree} (ending : Option Fault) (each : ∀ item ∈ items, DistinctKeys item) :
    DistinctKeys (.arr items ending)
  | obj {entries : List (Key × Tree)} (ending : Option Fault) (keys : (entries.map (·.1)).Nodup)
    (each : ∀ entry ∈ entries, DistinctKeys entry.2) : DistinctKeys (.obj entries ending)
  | unreadable (start : Start) (fault : Fault) (skip : Option Fault) :
    DistinctKeys (.unreadable start fault skip)

namespace Tree

theorem eq_ofItems_of_readItems {items : List Tree} {ending : Option Fault} {values : List Value}
    (each : ∀ item ∈ items, ∀ v, item.value = .ok v → item = ofValue v)
    (read : value.readItems items ending = .ok values) :
    items = ofValue.ofItems values ∧ ending = none := by
  induction items generalizing values with
  | nil =>
    cases ending with
    | none =>
      cases read
      exact ⟨rfl, rfl⟩
    | some fault => cases read
  | cons item rest ih =>
    rw [List.forall_mem_cons] at each
    obtain ⟨first, here, inner⟩ := Except.bind_eq_ok.mp read
    obtain ⟨others, later, rfl⟩ := Except.map_eq_ok.mp inner
    obtain ⟨same, ended⟩ := ih each.2 later
    rw [ofValue.ofItems, ← each.1 first here, ← same]
    exact ⟨rfl, ended⟩

/-- As long as keys do not come again, each entry is put at the end. -/
theorem eq_ofEntries_of_readEntries {entries : List (Key × Tree)} {ending : Option Fault}
    {done result : List (String × Value)} (keys : (entries.map (·.1)).Nodup)
    (fresh : ∀ key ∈ done.map (·.1), Key.text key ∉ entries.map (·.1))
    (each : ∀ entry ∈ entries, ∀ v, entry.2.value = .ok v → entry.2 = ofValue v)
    (read : value.readEntries entries ending done = .ok result) :
    ∃ more, result = done ++ more ∧ entries = ofValue.ofEntries more ∧ ending = none := by
  induction entries generalizing done with
  | nil =>
    cases ending with
    | none =>
      cases read
      exact ⟨[], (List.append_nil _).symm, rfl, rfl⟩
    | some fault => cases read
  | cons entry rest ih =>
    obtain ⟨key, item⟩ := entry
    rw [List.forall_mem_cons] at each
    rw [List.map_cons, List.nodup_cons] at keys
    obtain ⟨name, named, inner⟩ := Except.bind_eq_ok.mp read
    obtain ⟨v, here, later⟩ := Except.bind_eq_ok.mp inner
    cases key with
    | unreadable fault skip => cases named
    | text name =>
      cases named
      have new : name ∉ done.map (·.1) := fun old => fresh name old List.mem_cons_self
      have still : ∀ key ∈ (done ++ [(name, v)]).map (·.1), Key.text key ∉ rest.map (·.1) := by
        intro key mem again
        rw [List.map_append, List.mem_append] at mem
        rcases mem with old | last
        · exact fresh key old (List.mem_cons_of_mem _ again)
        · rw [List.mem_singleton.mp last] at again
          exact keys.1 again
      rw [put_of_fresh new] at later
      obtain ⟨more, rfl, same, ended⟩ := ih keys.2 still each.2 later
      refine ⟨(name, v) :: more, by simp, ?_, ended⟩
      rw [ofValue.ofEntries, ← same, ← each.1 v here]

/-- A tree without repeated keys is that of the value read from it. -/
theorem eq_ofValue {tree : Tree} {v : Value} (distinct : tree.DistinctKeys)
    (read : tree.value = .ok v) : tree = ofValue v := by
  induction distinct generalizing v with
  | null | bool | num | str =>
    cases read
    rfl
  | arr ending _ ih =>
    obtain ⟨values, inner, rfl⟩ := Except.map_eq_ok.mp read
    obtain ⟨same, ended⟩ := eq_ofItems_of_readItems (fun item mem v => ih item mem) inner
    rw [same, ended, ofValue]
  | obj ending keys _ ih =>
    obtain ⟨entries, inner, rfl⟩ := Except.map_eq_ok.mp read
    obtain ⟨_, rfl, same, ended⟩ :=
      eq_ofEntries_of_readEntries keys (by simp) (fun entry mem v => ih entry mem) inner
    rw [same, ended]
    rfl
  | unreadable => cases read

end Tree

/-! ### Readers of parts -/

theorem toOption_wrongType {α : Type} (expected : String) (tree : Tree) :
    (wrongType expected tree : Except Error α).toOption = none := by
  unfold wrongType
  cases tree.seen <;> rfl

section Parts

variable {α : Type} {decode decode' : Decoder α}

theorem toOption_decodeOption (same : ∀ tree, (decode tree).toOption = (decode' tree).toOption)
    (tree : Tree) :
    (decodeOption decode tree).toOption = (decodeOption decode' tree).toOption := by
  cases tree with
  | null => rfl
  | _ => simp only [decodeOption, Except.toOption_map, same]

theorem toOption_decodeItems (same : ∀ tree, (decode tree).toOption = (decode' tree).toOption)
    (ending : Option Fault) (items : List Tree) :
    (decodeItems decode ending items).toOption = (decodeItems decode' ending items).toOption := by
  induction items with
  | nil => rfl
  | cons item rest ih => simp only [decodeItems, bind, Except.toOption_bind, same, ih]

theorem toOption_decodeList (same : ∀ tree, (decode tree).toOption = (decode' tree).toOption)
    (tree : Tree) : (decodeList decode tree).toOption = (decodeList decode' tree).toOption := by
  cases tree with
  | arr items ending => exact toOption_decodeItems same ending items
  | _ => rfl

theorem toOption_decodeEntries (same : ∀ tree, (decode tree).toOption = (decode' tree).toOption)
    (ending : Option Fault) (entries : List (Key × Tree)) (done : List (String × α)) :
    (decodeEntries decode ending entries done).toOption =
      (decodeEntries decode' ending entries done).toOption := by
  induction entries generalizing done with
  | nil => rfl
  | cons entry rest ih => simp only [decodeEntries, bind, Except.toOption_bind, same, ih]

theorem toOption_decodeMap (same : ∀ tree, (decode tree).toOption = (decode' tree).toOption)
    (tree : Tree) : (decodeMap decode tree).toOption = (decodeMap decode' tree).toOption := by
  cases tree with
  | obj entries ending => exact toOption_decodeEntries same ending entries []
  | _ => rfl

end Parts

/-! ### Readers of records -/

variable {σ : Type}

/-- One name for fields that are set from the same trees to the same effect. -/
structure RecordField.Alike (f g : RecordField σ) : Prop where
  name : f.name = g.name
  required : f.required = g.required
  isSet : ∀ d, f.isSet d = g.isSet d
  set : ∀ t d, (f.set t d).toOption = (g.set t d).toOption

theorem RecordField.Alike.refl (f : RecordField σ) : f.Alike f :=
  ⟨rfl, rfl, fun _ => rfl, fun _ _ => rfl⟩

theorem RecordField.alike_of {α : Type} {name : String} {required : Bool} {get : σ → Option α}
    {put : α → σ → σ} {decode decode' : Decoder α}
    (same : ∀ tree, (decode tree).toOption = (decode' tree).toOption) :
    Alike (.of name required get put decode) (.of name required get put decode') where
  name := rfl
  required := rfl
  isSet _ := rfl
  set t d := by
    change ((decode t).map (put · d)).toOption = ((decode' t).map (put · d)).toOption
    rw [Except.toOption_map, Except.toOption_map, same]

/-- Records with the same fields, which pass over the same unknown ones. Their titles may differ. -/
structure Record.Alike (r s : Record σ) : Prop where
  fields : List.Forall₂ RecordField.Alike r.fields s.fields
  unknown : ∀ name t d, (r.unknown name t d).toOption = (s.unknown name t d).toOption

theorem Record.Alike.refl (r : Record σ) : r.Alike r :=
  ⟨List.forall₂_same.mpr fun field _ => .refl field, fun _ _ _ => rfl⟩

/-- A test that cannot tell alike fields apart finds none, or alike ones. -/
theorem RecordField.find?_alike {fs gs : List (RecordField σ)} {p : RecordField σ → Bool}
    (alike : List.Forall₂ Alike fs gs) (blind : ∀ f g : RecordField σ, f.Alike g → p f = p g) :
    (fs.find? p = none ∧ gs.find? p = none) ∨
      ∃ f g, fs.find? p = some f ∧ gs.find? p = some g ∧ f.Alike g := by
  induction alike with
  | nil => exact Or.inl ⟨rfl, rfl⟩
  | @cons f g fs gs first _ ih =>
    rw [List.find?_cons, List.find?_cons, ← blind f g first]
    cases p f with
    | true => exact Or.inr ⟨f, g, rfl, rfl, first⟩
    | false => exact ih

section Records

variable {r s : Record σ}

theorem Record.toOption_readEntry (alike : r.Alike s) (entry : Key × Tree) (d : σ) :
    (r.readEntry entry d).toOption = (s.readEntry entry d).toOption := by
  unfold readEntry
  cases entry.1.decode with
  | error reason => rfl
  | ok name =>
    have found := RecordField.find?_alike (p := (·.name == name)) alike.fields
      fun f g same => by rw [same.name]
    simp only [Except.bind]
    rcases found with ⟨absent, absent'⟩ | ⟨f, g, found, found', same⟩
    · rw [absent, absent']
      exact alike.unknown name entry.2 d
    · rw [found, found']
      dsimp only
      rw [same.isSet]
      cases g.isSet d with
      | true => rfl
      | false => exact same.set entry.2 d

theorem Record.toOption_readAll (alike : r.Alike s) (entries : List (Key × Tree)) (d : σ) :
    (r.readAll entries d).toOption = (s.readAll entries d).toOption := by
  induction entries generalizing d with
  | nil => rfl
  | cons entry rest ih =>
    unfold readAll at ih ⊢
    simp only [List.foldlM_cons, bind, Except.toOption_bind, toOption_readEntry alike, ih]

theorem toOption_requireFields {fs gs : List (RecordField σ)}
    (alike : List.Forall₂ RecordField.Alike fs gs) (d : σ) :
    (requireFields fs d).toOption = (requireFields gs d).toOption := by
  have missing := RecordField.find?_alike (p := fun field => field.required && !field.isSet d) alike
    fun f g same => by rw [same.required, same.isSet]
  unfold requireFields
  rcases missing with ⟨complete, complete'⟩ | ⟨f, g, missing, missing', _⟩
  · rw [complete, complete']
  · rw [missing, missing']
    rfl

theorem Record.toOption_readEntries (alike : r.Alike s) (ending : Option Fault)
    (entries : List (Key × Tree)) (d : σ) :
    (r.readEntries ending entries d).toOption = (s.readEntries ending entries d).toOption := by
  simp only [readEntries_eq, Except.toOption_bind, toOption_readAll alike,
    toOption_requireFields alike.fields]

/-- An array with too many items is refused from every source. -/
theorem Record.toOption_readItems {source source' : Source} {length length' : Nat}
    {ending : Option Fault} {fs gs : List (RecordField σ)}
    (alike : List.Forall₂ RecordField.Alike fs gs) (items : List Tree) (d : σ) :
    (r.readItems source length ending fs items d).toOption =
      (s.readItems source' length' ending gs items d).toOption := by
  induction alike generalizing items d with
  | nil => cases items <;> rfl
  | @cons f g fs gs first _ ih =>
    cases items with
    | nil =>
      simp only [readItems, bind, Except.toOption_bind, first.required]
      cases g.required with
      | true => rfl
      | false => simp only [Bool.false_eq_true, if_false, ih]
    | cons item rest => simp only [readItems, bind, Except.toOption_bind, first.set, ih]

theorem Record.toOption_readObject (alike : r.Alike s) (start : σ) (tree : Tree) :
    (r.readObject start tree).toOption = (s.readObject start tree).toOption := by
  cases tree with
  | obj entries ending => exact toOption_readEntries alike ending entries start
  | _ => simp only [readObject, toOption_wrongType]

/-- Alike records accept the same trees with the same results. -/
theorem Record.toOption_read (alike : r.Alike s) (source source' : Source) (start : σ)
    (tree : Tree) :
    (r.read source start tree).toOption = (s.read source' start tree).toOption := by
  cases tree with
  | arr items ending => exact toOption_readItems alike.fields items start
  | _ => simp only [read, toOption_readObject alike]

end Records

end ServerSymbols.Json
