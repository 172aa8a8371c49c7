import ServerSymbols.Text.Case
import Mathlib

set_option autoImplicit false

/-
Lower case is final: lower-casing a text that is in lower case changes nothing. What the mappings
lead to is none of the code points that they change, which is read off their tables run by run.
-/
namespace ServerSymbols.Text

theorem Stride.contains_iff {s : Stride} {code : Nat} :
    s.contains code = true ↔ s.first ≤ code ∧ code ≤ s.last ∧ (code - s.first) % s.step = 0 := by
  simp only [Stride.contains, Bool.and_eq_true, decide_eq_true_eq, beq_iff_eq, and_assoc]

/-- A test for strides without a common code point: one ends before the other begins, or both take
every second code point, by turns. -/
def Stride.apart (s t : Stride) : Bool :=
  Nat.blt s.last t.first || Nat.blt t.last s.first ||
    t.step == 2 && (s.first == s.last || s.step == 2) && (s.first + t.first) % 2 == 1

theorem Stride.not_contains_of_apart {s t : Stride} (apart : s.apart t = true) {code : Nat}
    (inside : s.contains code = true) : t.contains code = false := by
  rw [Stride.contains_iff] at inside
  rw [Bool.eq_false_iff, ne_eq, Stride.contains_iff]
  simp only [Stride.apart, Bool.or_eq_true, Bool.and_eq_true, Nat.blt_eq, beq_iff_eq] at apart
  intro both
  rcases apart with (before | after) | ⟨⟨second, single | other⟩, odd⟩
  · omega
  · omega
  · rw [second] at both
    omega
  · rw [second] at both
    rw [other] at inside
    omega

/-- The code points to which a run is moved. -/
def Shift.moved (s : Shift) : Stride :=
  ⟨(s.run.first + s.distance).toNat, (s.run.last + s.distance).toNat, s.run.step⟩

/-- A test for runs that are moved to characters: below the surrogates or above them. -/
def Shift.lands (s : Shift) : Bool :=
  0 ≤ s.run.first + s.distance && s.run.last + s.distance < 0xD800 ||
    0xDFFF < s.run.first + s.distance && s.run.last + s.distance < 0x110000

section Moved

variable {s : Shift} {code : Nat}

theorem Shift.contains_moved (lands : s.lands = true) (inside : s.run.contains code = true) :
    s.moved.contains (code + s.distance).toNat = true := by
  simp only [Shift.lands, Bool.or_eq_true, Bool.and_eq_true, decide_eq_true_eq] at lands
  rw [Stride.contains_iff] at inside ⊢
  have same : (code + s.distance).toNat - s.moved.first = code - s.run.first := by
    simp only [Shift.moved]
    omega
  rw [same]
  simp only [Shift.moved]
  omega

theorem Shift.toNat_moved (lands : s.lands = true) (inside : s.run.contains code = true) :
    (Char.ofNat (code + s.distance).toNat).toNat = (code + s.distance).toNat := by
  simp only [Shift.lands, Bool.or_eq_true, Bool.and_eq_true, decide_eq_true_eq] at lands
  rw [Stride.contains_iff] at inside
  rw [Char.toNat_ofNat, if_pos]
  unfold Nat.isValidChar
  omega

end Moved

/-- Every shift to lower case, that of ASCII first. -/
def lowering : List Shift :=
  ⟨⟨65, 90, 1⟩, 32⟩ :: lowerShifts

/-- The code points that have another lower case. -/
def lowered : List Stride :=
  lowering.map (·.run) ++ lowerExpansions.map fun entry => ⟨entry.1, entry.1, 1⟩

/-- A character is its own lower case, or a shift or an expansion applies to it. -/
theorem toLowercase_cases (c : Char) :
    toLowercase c = [c] ∨
      (∃ shift ∈ lowering, shift.run.contains c.toNat = true ∧
        toLowercase c = [Char.ofNat (c.toNat + shift.distance).toNat]) ∨
      ∃ entry ∈ lowerExpansions, entry.1 = c.toNat ∧ toLowercase c = entry.2.map Char.ofNat := by
  unfold toLowercase
  split
  · by_cases upper : c.isUpper = true
    · refine Or.inr (Or.inl ⟨⟨⟨65, 90, 1⟩, 32⟩, List.mem_cons_self, ?_, ?_⟩)
      · rw [Char.isUpper] at upper
        simp only [decide_eq_true_eq, ge_iff_le, UInt32.le_iff_toNat_le] at upper
        rw [Stride.contains_iff]
        exact ⟨upper.1, upper.2, Nat.mod_one _⟩
      · rw [Char.toLower_eq_of_isUpper upper]
        rfl
    · rw [Char.toLower_eq_of_not_isUpper upper]
      exact Or.inl rfl
  · unfold mapCase
    split
    · next code codes found =>
      have same : code = c.toNat := by simpa using List.find?_some found
      exact Or.inr (Or.inr ⟨(code, codes), List.mem_of_find?_eq_some found, same, rfl⟩)
    · split
      · next shift found =>
        have listed : shift ∈ lowering := List.mem_cons_of_mem _ (List.mem_of_find?_eq_some found)
        have inside : shift.run.contains c.toNat = true := by simpa using List.find?_some found
        exact Or.inr (Or.inl ⟨shift, listed, inside, rfl⟩)
      · exact Or.inl rfl

theorem toLowercase_of_not_lowered {c : Char}
    (outside : ∀ run ∈ lowered, run.contains c.toNat = false) : toLowercase c = [c] := by
  rcases toLowercase_cases c with same | ⟨shift, listed, inside, _⟩ | ⟨entry, listed, here, _⟩
  · exact same
  · have out := outside shift.run (List.mem_append_left _ (List.mem_map_of_mem listed))
    rw [inside] at out
    cases out
  · have mem : ⟨entry.1, entry.1, 1⟩ ∈ lowered :=
      List.mem_append_right _ (List.mem_map.mpr ⟨entry, listed, rfl⟩)
    have out := outside _ mem
    rw [Bool.eq_false_iff, ne_eq, Stride.contains_iff] at out
    exact absurd ⟨here.le, here.ge, Nat.mod_one _⟩ out

theorem lowering_lands : lowering.all Shift.lands = true := by
  decide +kernel

/-- No shift leads to a code point that has another lower case. -/
theorem lowering_apart : (lowering.all fun shift => lowered.all shift.moved.apart) = true := by
  decide +kernel

theorem lowerExpansions_lower : ∀ entry ∈ lowerExpansions,
    (entry.2.map Char.ofNat).flatMap toLowercase = entry.2.map Char.ofNat := by
  decide +kernel

/-- The lower case of a character consists of characters that are their own lower case. -/
theorem flatMap_toLowercase (c : Char) : (toLowercase c).flatMap toLowercase = toLowercase c := by
  rcases toLowercase_cases c with same | ⟨shift, listed, inside, moved⟩ | ⟨entry, listed, _, moved⟩
  · rw [same, List.flatMap_singleton, same]
  · have lands := List.all_eq_true.mp lowering_lands shift listed
    have apart := List.all_eq_true.mp (List.all_eq_true.mp lowering_apart shift listed)
    have outside (run : Stride) (mem : run ∈ lowered) :
        run.contains (Char.ofNat (c.toNat + shift.distance).toNat).toNat = false := by
      rw [Shift.toNat_moved lands inside]
      exact Stride.not_contains_of_apart (apart run mem) (Shift.contains_moved lands inside)
    rw [moved, List.flatMap_singleton, toLowercase_of_not_lowered outside]
  · rw [moved, lowerExpansions_lower entry listed]

theorem flatMap_flatMap_toLowercase (text : List Char) :
    (text.flatMap toLowercase).flatMap toLowercase = text.flatMap toLowercase := by
  rw [List.flatMap_assoc]
  simp only [flatMap_toLowercase]

/-- No shift leads to the underscore. -/
theorem lowering_skips_underscore :
    (lowering.all fun shift => !shift.moved.contains '_'.toNat) = true := by
  decide +kernel

theorem lowerExpansions_skip_underscore :
    ∀ entry ∈ lowerExpansions, '_' ∉ entry.2.map Char.ofNat := by
  decide +kernel

/-- Only the underscore has an underscore in its lower case. -/
theorem mem_toLowercase_underscore {c : Char} : '_' ∈ toLowercase c ↔ c = '_' := by
  constructor
  · intro mem
    rcases toLowercase_cases c with same | ⟨shift, listed, inside, moved⟩ |
      ⟨entry, listed, _, moved⟩
    · rw [same, List.mem_singleton] at mem
      exact mem.symm
    · have lands := List.all_eq_true.mp lowering_lands shift listed
      have skipped := List.all_eq_true.mp lowering_skips_underscore shift listed
      rw [moved, List.mem_singleton] at mem
      rw [mem, Shift.toNat_moved lands inside, Shift.contains_moved lands inside] at skipped
      cases skipped
    · rw [moved] at mem
      exact absurd mem (lowerExpansions_skip_underscore entry listed)
  · rintro rfl
    decide +kernel

end ServerSymbols.Text
