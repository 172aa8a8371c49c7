import ServerSymbols.Json.Decode
import ServerSymbols.Proofs.Except
import Mathlib.Data.List.Nodup

set_option autoImplicit false

/-
Values and the trees they are read from. A value that was read has no object with a repeated key,
and reading such a value again gives back the value.
-/
namespace ServerSymbols.Json

/-- No object in the value has a key twice. -/
inductive Value.DistinctKeys : Value → Prop where
  | null : DistinctKeys .null
  | bool (value : Bool) : DistinctKeys (.bool value)
  | num (value : Number) : DistinctKeys (.num value)
  | str (value : String) : DistinctKeys (.str value)
  | arr {items : List Value} (each : ∀ item ∈ items, DistinctKeys item) : DistinctKeys (.arr items)
  | obj {entries : List (String × Value)} (keys : (entries.map (·.1)).Nodup)
    (each : ∀ entry ∈ entries, DistinctKeys entry.2) : DistinctKeys (.obj entries)

/-! ### Entries with one key -/

section Put

variable {α : Type} {key : String} {value : α} {entries : List (String × α)}

theorem put_of_fresh (fresh : key ∉ entries.map (·.1)) :
    put key value entries = entries ++ [(key, value)] := by
  induction entries with
  | nil => rfl
  | cons entry rest ih =>
    rw [List.map_cons, List.mem_cons, not_or] at fresh
    rw [put, if_neg (Ne.symm fresh.1), ih fresh.2, List.cons_append]

theorem keys_put (key : String) (value : α) (entries : List (String × α)) :
    (put key value entries).map (·.1) =
      if key ∈ entries.map (·.1) then entries.map (·.1) else entries.map (·.1) ++ [key] := by
  induction entries with
  | nil => rfl
  | cons entry rest ih =>
    unfold put
    by_cases here : entry.1 = key
    · simp [here]
    · rw [if_neg here, List.map_cons, ih, List.map_cons]
      by_cases later : key ∈ rest.map (·.1)
      · rw [if_pos later, if_pos (List.mem_cons_of_mem _ later)]
      · have absent : key ∉ entry.1 :: rest.map (·.1) := by
          rw [List.mem_cons, not_or]
          exact ⟨Ne.symm here, later⟩
        rw [if_neg later, if_neg absent, List.cons_append]

theorem nodup_put (nodup : (entries.map (·.1)).Nodup) :
    ((put key value entries).map (·.1)).Nodup := by
  rw [keys_put]
  split
  · exact nodup
  · next fresh =>
    rw [← List.concat_eq_append]
    exact nodup.concat fresh

theorem mem_put {entry : String × α} (mem : entry ∈ put key value entries) :
    entry = (key, value) ∨ entry ∈ entries := by
  induction entries with
  | nil => exact Or.inl (List.mem_singleton.mp mem)
  | cons first rest ih =>
    unfold put at mem
    split at mem
    · rcases List.mem_cons.mp mem with same | later
      · exact Or.inl same
      · exact Or.inr (List.mem_cons_of_mem _ later)
    · rcases List.mem_cons.mp mem with rfl | later
      · exact Or.inr List.mem_cons_self
      · exact (ih later).imp_right (List.mem_cons_of_mem _)

end Put

/-! ### Reading values -/

namespace Tree

theorem readItems_ofItems {items : List Value}
    (each : ∀ item ∈ items, (ofValue item).value = .ok item) :
    value.readItems (ofValue.ofItems items) none = .ok items := by
  induction items with
  | nil => rfl
  | cons item rest ih =>
    rw [ofValue.ofItems, value.readItems, each item List.mem_cons_self,
      ih fun other mem => each other (List.mem_cons_of_mem _ mem)]
    rfl

theorem ofEntries_eq_map (entries : List (String × Value)) :
    ofValue.ofEntries entries = entries.map fun entry => (.text entry.1, ofValue entry.2) := by
  induction entries with
  | nil => rfl
  | cons entry rest ih => rw [ofValue.ofEntries, ih, List.map_cons]

theorem readEntries_ofEntries (done : List (String × Value)) {entries : List (String × Value)}
    (keys : ((done ++ entries).map (·.1)).Nodup)
    (each : ∀ entry ∈ entries, (ofValue entry.2).value = .ok entry.2) :
    value.readEntries (ofValue.ofEntries entries) none done = .ok (done ++ entries) := by
  induction entries generalizing done with
  | nil =>
    rw [List.append_nil]
    rfl
  | cons entry rest ih =>
    obtain ⟨key, item⟩ := entry
    have fresh : key ∉ done.map (·.1) := by
      rw [List.map_append, List.nodup_append] at keys
      exact fun old => keys.2.2 key old key List.mem_cons_self rfl
    rw [List.append_cons] at keys ⊢
    have later := ih (done ++ [(key, item)]) keys
      fun other mem => each other (List.mem_cons_of_mem _ mem)
    rw [ofValue.ofEntries, value.readEntries, each (key, item) List.mem_cons_self]
    simp only [Key.read, Except.bind, put_of_fresh fresh, later]

/-- A value without repeated keys is what its tree holds. -/
theorem value_ofValue {v : Value} (distinct : v.DistinctKeys) : (ofValue v).value = .ok v := by
  induction distinct with
  | null | bool | num | str => rfl
  | arr _ ih =>
    rw [ofValue, value, readItems_ofItems ih]
    rfl
  | obj keys _ ih =>
    rw [ofValue, value, readEntries_ofEntries [] keys ih]
    rfl

mutual

/-- Reading a tree leaves no repeated key in the value. -/
theorem distinctKeys_of_value : ∀ {tree : Tree} {v : Value}, tree.value = .ok v → v.DistinctKeys
  | .null, _, read => by cases read; exact .null
  | .bool b, _, read => by cases read; exact .bool b
  | .num n, _, read => by cases read; exact .num n
  | .str s, _, read => by cases read; exact .str s
  | .arr items ending, v, read => by
    rw [value] at read
    cases inner : value.readItems items ending with
    | error fault =>
      rw [inner] at read
      cases read
    | ok values =>
      rw [inner] at read
      cases read
      exact .arr (distinctKeys_of_readItems inner)
  | .obj entries ending, v, read => by
    rw [value] at read
    cases inner : value.readEntries entries ending [] with
    | error fault =>
      rw [inner] at read
      cases read
    | ok values =>
      rw [inner] at read
      cases read
      obtain ⟨keys, each⟩ :=
        distinctKeys_of_readEntries [] List.nodup_nil
          (fun _ mem => absurd mem List.not_mem_nil) inner
      exact .obj keys each
  | .unreadable _ _ _, _, read => by cases read

theorem distinctKeys_of_readItems : ∀ {items : List Tree} {ending : Option Fault}
    {values : List Value}, value.readItems items ending = .ok values →
      ∀ v ∈ values, v.DistinctKeys
  | [], none, _, read => by
    cases read
    exact fun _ mem => absurd mem List.not_mem_nil
  | [], some _, _, read => by cases read
  | item :: rest, ending, values, read => by
    rw [value.readItems] at read
    cases first : item.value with
    | error fault =>
      rw [first] at read
      cases read
    | ok v =>
      cases others : value.readItems rest ending with
      | error fault =>
        rw [first, others] at read
        cases read
      | ok vs =>
        rw [first, others] at read
        cases read
        exact List.forall_mem_cons.mpr
          ⟨distinctKeys_of_value first, distinctKeys_of_readItems others⟩

theorem distinctKeys_of_readEntries : ∀ {entries : List (Key × Tree)} {ending : Option Fault}
    (done : List (String × Value)) {result : List (String × Value)}, (done.map (·.1)).Nodup →
      (∀ entry ∈ done, entry.2.DistinctKeys) →
      value.readEntries entries ending done = .ok result →
      (result.map (·.1)).Nodup ∧ ∀ entry ∈ result, entry.2.DistinctKeys
  | [], none, _, _, keys, each, read => by
    cases read
    exact ⟨keys, each⟩
  | [], some _, _, _, _, _, read => by cases read
  | (key, item) :: rest, ending, done, result, keys, each, read => by
    rw [value.readEntries] at read
    cases name : key.read with
    | error fault =>
      rw [name] at read
      cases read
    | ok name' =>
      cases here : item.value with
      | error fault =>
        rw [name, here] at read
        cases read
      | ok v =>
        rw [name, here] at read
        refine distinctKeys_of_readEntries _ (nodup_put keys) (fun entry mem => ?_) read
        rcases mem_put mem with rfl | old
        · exact distinctKeys_of_value here
        · exact each entry old

end

end Tree

/-! ### Reading maps -/

/-- Items of a map may be replaced by others that are read to the same effect. -/
theorem decodeEntries_mono {α : Type} {decode : Decoder α} {ending : Option Fault}
    {entries entries' : List (Key × Tree)} (done : List (String × α)) {result : List (String × α)}
    (each : List.Forall₂ (fun entry entry' => entry.1 = entry'.1 ∧
      ∀ v, decode entry.2 = .ok v → decode entry'.2 = .ok v) entries entries')
    (read : decodeEntries decode ending entries done = .ok result) :
    decodeEntries decode ending entries' done = .ok result := by
  induction each generalizing done with
  | nil => exact read
  | cons same _ ih =>
    obtain ⟨name, named, read⟩ := Except.bind_eq_ok.mp read
    obtain ⟨v, decoded, others⟩ := Except.bind_eq_ok.mp read
    rw [same.1] at named
    exact Except.bind_eq_ok.mpr ⟨name, named,
      Except.bind_eq_ok.mpr ⟨v, same.2 v decoded, ih _ others⟩⟩

theorem decodeEntries_decodeValue (ending : Option Fault) (entries : List (Key × Tree))
    (done : List (String × Value)) :
    decodeEntries decodeValue ending entries done =
      (Tree.value.readEntries entries ending done).mapError .fault := by
  induction entries generalizing done with
  | nil => cases ending <;> rfl
  | cons entry rest ih =>
    obtain ⟨key, item⟩ := entry
    rw [decodeEntries, Tree.value.readEntries, Key.decode, decodeValue]
    cases key.read with
    | error fault => rfl
    | ok name =>
      cases item.value with
      | error fault => rfl
      | ok v => exact ih _

/-- A map of free values is an object that is read as a value. -/
theorem decodeMap_decodeValue_eq_ok {tree : Tree} {entries : List (String × Value)} :
    decodeMap decodeValue tree = .ok entries ↔ tree.value = .ok (.obj entries) := by
  cases tree with
  | obj items ending =>
    rw [decodeMap, decodeEntries_decodeValue, Tree.value]
    cases Tree.value.readEntries items ending [] with
    | error fault => simp [Except.mapError, Except.map]
    | ok read => simp [Except.mapError, Except.map]
  | arr items ending =>
    rw [Tree.value]
    cases Tree.value.readItems items ending with
    | error fault => simp [decodeMap, wrongType, Tree.seen, Except.map]
    | ok read => simp [decodeMap, wrongType, Tree.seen, Except.map]
  | _ => simp [decodeMap, wrongType, Tree.seen, Tree.value]

end ServerSymbols.Json
