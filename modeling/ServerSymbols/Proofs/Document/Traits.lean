import ServerSymbols.Proofs.Document.Faithful

set_option autoImplicit false

/-
Which traits are refused for their values. Those with a value of the wrong form are, with one
exception: bounds are looked up by their names, and as only objects have entries, a value that is no
object passes for one without bounds.
-/
namespace ServerSymbols.Document

open Json

/-! ### Forms of values -/

/-- A whole number from 0 to 2⁶⁴ - 1. -/
def IsNatural (value : Value) : Prop :=
  ∃ n : Nat, n < 2 ^ 64 ∧ value = .num (.int n)

def IsNumber (value : Value) : Prop :=
  ∃ n, value = .num n

/-- Among these entries, the one of this name is missing, null or of this form. -/
def OptionalEntry (form : Value → Prop) (name : String) (entries : List (String × Value)) : Prop :=
  ∀ value, entries.lookup name = some value → value = .null ∨ form value

/-- An object with a lower and an upper bound, neither of which need be there. -/
def IsBounds (form : Value → Prop) (value : Value) : Prop :=
  ∃ entries, value = .obj entries ∧ OptionalEntry form "min" entries ∧
    OptionalEntry form "max" entries

/-- An object with a string as its value. -/
def IsDefinition (value : Value) : Prop :=
  ∃ entries text, value = .obj entries ∧ entries.lookup "value" = some (.str text)

/-- The value has the form that is right for the trait. -/
def WellFormed (traitId : String) (value : Value) : Prop :=
  match traitId with
  | "smithy.api#length" => IsBounds IsNatural value
  | "smithy.api#range" => IsBounds IsNumber value
  | "smithy.api#pattern" => ∃ text, value = .str text
  | "smithy.api#enum" => ∃ definitions, value = .arr definitions ∧ ∀ d ∈ definitions, IsDefinition d
  | _ => True

def NoObject (value : Value) : Prop :=
  ∀ entries, value ≠ .obj entries

/-- The trait is one of bounds, and its value has no entries at all. -/
def Boundless (traitId : String) (value : Value) : Prop :=
  (traitId = "smithy.api#length" ∨ traitId = "smithy.api#range") ∧ NoObject value

/-! ### What is read from values -/

theorem exists_asUInt64?_iff (value : Value) :
    (∃ n, value.asUInt64? = some n) ↔ IsNatural value := by
  unfold Value.asUInt64? Value.asInt? IsNatural
  cases value with
  | num n =>
    cases n with
    | int i =>
      simp only [Option.bind_some, Value.num.injEq, Number.int.injEq]
      constructor
      · rintro ⟨n, read⟩
        split at read
        · exact ⟨i.toNat, by omega, by omega⟩
        · cases read
      · rintro ⟨n, small, rfl⟩
        rw [if_pos (by omega)]
        exact ⟨_, rfl⟩
    | float x => simp
  | _ => simp

theorem exists_asFloat?_iff (value : Value) : (∃ x, value.asFloat? = some x) ↔ IsNumber value := by
  unfold Value.asFloat? IsNumber
  cases value with
  | num n => cases n <;> simp
  | _ => simp

section Bounds

variable {α : Type} {read : Value → Option α} {fault : String → TraitFault} {form : Value → Prop}
  (reads : ∀ value, (∃ number, read value = some number) ↔ form value)

theorem bound?_of_noObject {value : Value} (other : NoObject value) (name : String) :
    bound? read fault name value = .ok none := by
  cases value with
  | obj entries => exact absurd rfl (other entries)
  | _ => rfl

include reads

theorem exists_bound?_iff (name : String) (entries : List (String × Value)) :
    (∃ bound, bound? read fault name (.obj entries) = .ok bound) ↔
      OptionalEntry form name entries := by
  unfold bound? OptionalEntry Value.get?
  dsimp only
  cases entries.lookup name with
  | none => simp
  | some value =>
    simp only [Option.some.injEq, forall_eq', ← reads]
    cases value with
    | null => simp
    | _ =>
      dsimp only
      split
      · next number readable => simp [readable]
      · next unread => simp [unread]

/-- Two bounds are read from an object with bounds, or from anything that is no object. -/
theorem exists_bounds_iff (make : Option α → Option α → Constraint) (value : Value) :
    (∃ result, (do
      let min ← bound? read fault "min" value
      let max ← bound? read fault "max" value
      .ok (some (make min max)) : Except TraitFault (Option Constraint)) = .ok result) ↔
      IsBounds form value ∨ NoObject value := by
  constructor
  · rintro ⟨result, shown⟩
    obtain ⟨min, lower, shown⟩ := Except.bind_eq_ok.mp shown
    obtain ⟨max, upper, _⟩ := Except.bind_eq_ok.mp shown
    cases value with
    | obj entries =>
      exact Or.inl ⟨entries, rfl, (exists_bound?_iff reads _ _).mp ⟨min, lower⟩,
        (exists_bound?_iff reads _ _).mp ⟨max, upper⟩⟩
    | _ => exact Or.inr nofun
  · rintro (⟨entries, rfl, lower, upper⟩ | other)
    · obtain ⟨min, lower⟩ : ∃ bound, bound? read fault "min" (.obj entries) = .ok bound :=
        (exists_bound?_iff reads _ _).mpr lower
      obtain ⟨max, upper⟩ : ∃ bound, bound? read fault "max" (.obj entries) = .ok bound :=
        (exists_bound?_iff reads _ _).mpr upper
      exact ⟨_, Except.bind_eq_ok.mpr ⟨min, lower, Except.bind_eq_ok.mpr ⟨max, upper, rfl⟩⟩⟩
    · rw [bound?_of_noObject other, bound?_of_noObject other]
      exact ⟨_, rfl⟩

end Bounds

theorem exists_definitionValue_iff (definition : Value) :
    (∃ text, definitionValue definition = .ok text) ↔ IsDefinition definition := by
  constructor
  · rintro ⟨text, shown⟩
    have entry := get?_of_definitionValue shown
    cases definition with
    | obj entries => exact ⟨entries, text, rfl, entry⟩
    | _ => cases entry
  · rintro ⟨entries, text, rfl, entry⟩
    refine ⟨text, ?_⟩
    unfold definitionValue Value.get?
    dsimp only
    rw [entry]
    rfl

theorem exists_enumValues_iff (definitions : List Value) :
    (∃ values, enumValues definitions = .ok values) ↔ ∀ d ∈ definitions, IsDefinition d := by
  induction definitions with
  | nil => exact iff_of_true ⟨[], rfl⟩ nofun
  | cons definition rest ih =>
    rw [List.forall_mem_cons, ← ih, ← exists_definitionValue_iff]
    constructor
    · rintro ⟨values, shown⟩
      obtain ⟨text, first, shown⟩ := Except.bind_eq_ok.mp shown
      obtain ⟨texts, others, _⟩ := Except.bind_eq_ok.mp shown
      exact ⟨⟨text, first⟩, texts, others⟩
    · rintro ⟨⟨text, first⟩, texts, others⟩
      exact ⟨_, Except.bind_eq_ok.mpr ⟨text, first, Except.bind_eq_ok.mpr ⟨texts, others, rfl⟩⟩⟩

/-- What a trait needs of its value to be accepted. -/
theorem exists_constraint?_iff (traitId : String) (value : Value) :
    (∃ result, constraint? traitId value = .ok result) ↔
      WellFormed traitId value ∨ Boundless traitId value := by
  unfold constraint?
  split
  · exact iff_of_true ⟨_, rfl⟩ (Or.inl trivial)
  · exact iff_of_true ⟨_, rfl⟩ (Or.inl trivial)
  · rw [exists_bounds_iff exists_asUInt64?_iff .length]
    simp [WellFormed, Boundless]
  · rw [exists_bounds_iff exists_asFloat?_iff .range]
    simp [WellFormed, Boundless]
  · simp only [WellFormed, Boundless]
    cases value <;> simp [Value.asString?]
  · simp only [WellFormed, Boundless]
    cases value with
    | arr definitions =>
      simp [Value.asArray?, ← exists_enumValues_iff, Except.map_eq_ok]
    | _ => simp [Value.asArray?]
  · next required unique length range pattern enum =>
    refine iff_of_true ⟨_, rfl⟩ (Or.inl ?_)
    unfold WellFormed
    split
    · exact (length rfl).elim
    · exact (range rfl).elim
    · exact (pattern rfl).elim
    · exact (enum rfl).elim
    · trivial

/-! ### The first trait that is refused -/

theorem exists_constraints_iff (owner : String) (traits : Traits) :
    (∃ constraints, Document.constraints owner traits = .ok constraints) ↔
      ∀ entry ∈ traits, ∃ result, constraint? entry.1 entry.2 = .ok result := by
  induction traits with
  | nil => exact iff_of_true ⟨[], rfl⟩ nofun
  | cons entry rest ih =>
    obtain ⟨traitId, value⟩ := entry
    rw [constraints_cons, List.forall_mem_cons, ← ih]
    simp only [Except.bind_eq_ok, Except.mapError_eq_ok, Except.map_eq_ok]
    constructor
    · rintro ⟨_, first, accepted, others, later, _⟩
      exact ⟨⟨first, accepted⟩, others, later⟩
    · rintro ⟨⟨first, accepted⟩, others, later⟩
      exact ⟨_, first, accepted, others, later, rfl⟩

theorem exists_refused {owner : String} {traits : Traits} {e : ModelError}
    (failed : constraints owner traits = .error e) :
    ∃ before traitId value after fault, traits = before ++ (traitId, value) :: after ∧
      (∀ entry ∈ before, ∃ result, constraint? entry.1 entry.2 = .ok result) ∧
      constraint? traitId value = .error fault ∧ e = .invalidTrait owner traitId fault := by
  induction traits with
  | nil => cases failed
  | cons entry rest ih =>
    obtain ⟨traitId, value⟩ := entry
    rw [constraints_cons, Except.bind_eq_error] at failed
    rcases failed with here | ⟨first, accepted, later⟩
    · obtain ⟨fault, refused, rfl⟩ := Except.mapError_eq_error.mp here
      exact ⟨[], traitId, value, rest, fault, rfl, nofun, refused, rfl⟩
    · obtain ⟨before, traitId', value', after, fault, rfl, passed, refused, same⟩ :=
        ih (Except.map_eq_error.mp later)
      refine ⟨(traitId, value) :: before, traitId', value', after, fault, rfl, ?_, refused, same⟩
      exact List.forall_mem_cons.mpr ⟨⟨first, Except.mapError_eq_ok.mp accepted⟩, passed⟩

theorem constraint?_of_boundless {traitId : String} {value : Value}
    (boundless : Boundless traitId value) : ¬ WellFormed traitId value ∧
      (constraint? traitId value = .ok (some (.length none none)) ∨
        constraint? traitId value = .ok (some (.range none none))) := by
  obtain ⟨rfl | rfl, other⟩ := boundless
  · refine ⟨fun ⟨entries, object, _⟩ => other entries object, Or.inl ?_⟩
    rw [constraint?, bound?_of_noObject other, bound?_of_noObject other]
    rfl
  · refine ⟨fun ⟨entries, object, _⟩ => other entries object, Or.inr ?_⟩
    rw [constraint?, bound?_of_noObject other, bound?_of_noObject other]
    rfl

/-- Traits are refused if and only if one of them has a value of the wrong form, other than bounds
that are no object. The error names their owner and the first such trait. Bounds that are no object
have the wrong form as well, but pass for a constraint that bounds nothing. -/
theorem constraints_refused (owner : String) (traits : Traits) :
    ((∃ e, constraints owner traits = .error e) ↔
      ∃ entry ∈ traits, ¬ WellFormed entry.1 entry.2 ∧ ¬ Boundless entry.1 entry.2) ∧
    (∀ e, constraints owner traits = .error e →
      ∃ before traitId value after fault, traits = before ++ (traitId, value) :: after ∧
        (∀ entry ∈ before, WellFormed entry.1 entry.2 ∨ Boundless entry.1 entry.2) ∧
        ¬ WellFormed traitId value ∧ ¬ Boundless traitId value ∧
        e = .invalidTrait owner traitId fault) ∧
    ∀ traitId value, Boundless traitId value → ¬ WellFormed traitId value ∧
      (constraint? traitId value = .ok (some (.length none none)) ∨
        constraint? traitId value = .ok (some (.range none none))) := by
  refine ⟨?_, fun e failed => ?_, fun _ _ => constraint?_of_boundless⟩
  · have refused : (∃ e, constraints owner traits = .error e) ↔
        ¬ ∃ constraints, Document.constraints owner traits = .ok constraints := by
      cases constraints owner traits <;> simp
    rw [refused, exists_constraints_iff]
    simp only [exists_constraint?_iff, not_forall, not_or, exists_prop]
  · obtain ⟨before, traitId, value, after, fault, split, passed, refused, same⟩ :=
      exists_refused failed
    have rejects : ¬ ∃ result, constraint? traitId value = .ok result := by simp [refused]
    rw [exists_constraint?_iff, not_or] at rejects
    exact ⟨before, traitId, value, after, fault, split,
      fun entry mem => (exists_constraint?_iff _ _).mp (passed entry mem),
      rejects.1, rejects.2, same⟩

/-- A bound that is negative, behind a trait that says nothing about values. -/
theorem constraints_refused_negative :
    let negative : Value := .obj [("max", .null), ("min", .num (.int (-1)))]
    let traits : Traits := [("smithy.api#documentation", .str "some"),
      ("smithy.api#length", negative), ("smithy.api#pattern", .null)]
    constraints "test#Name" traits =
        .error (.invalidTrait "test#Name" "smithy.api#length" (.boundNotNatural "min")) ∧
      (∃ entry ∈ traits, ¬ WellFormed entry.1 entry.2 ∧ ¬ Boundless entry.1 entry.2) ∧
      ∃ before traitId value after fault, traits = before ++ (traitId, value) :: after ∧
        (∀ entry ∈ before, WellFormed entry.1 entry.2 ∨ Boundless entry.1 entry.2) ∧
        ¬ WellFormed traitId value ∧ ¬ Boundless traitId value ∧
        ModelError.invalidTrait "test#Name" "smithy.api#length" (.boundNotNatural "min") =
          .invalidTrait "test#Name" traitId fault := by
  intro negative traits
  have failed : constraints "test#Name" traits =
      .error (.invalidTrait "test#Name" "smithy.api#length" (.boundNotNatural "min")) := by rfl
  have refused := constraints_refused "test#Name" traits
  exact ⟨failed, refused.1.mp ⟨_, failed⟩, refused.2.1 _ failed⟩

/-- A number in place of an object with bounds is not refused, though no bounds have this form. -/
theorem length_of_number :
    ¬ WellFormed "smithy.api#length" (.num (.int 64)) ∧
      constraints "test#Name" [("smithy.api#length", .num (.int 64))] =
        .ok [.length none none] := by
  have other : NoObject (.num (.int 64)) := nofun
  exact ⟨(constraint?_of_boundless ⟨Or.inl rfl, other⟩).1, rfl⟩

end ServerSymbols.Document
