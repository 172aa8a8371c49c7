import ServerSymbols.Proofs.Model.Walk
import ServerSymbols.Proofs.Identifier

set_option autoImplicit false

/-
Clashes of names. In what a service leads to, no two shapes have the same key, so neither spelling
of their names is the same, as far as the key can be told from the spelling.
-/
namespace ServerSymbols

/-- A shape of the closure that is not one of those that every model has. -/
structure Closure.Own (m : Model) (c : Closure) (shape : Shape) : Prop where
  listed : shape.id ∈ c.ids
  found : m.get? shape.id = some shape
  own : shape.id.isPrelude = false

namespace Model

theorem firstClash?_eq_none_iff {seen ids : List ShapeId} :
    firstClash? seen ids = none ↔
      (ids.map nameKey).Nodup ∧ ∀ id ∈ ids, ∀ other ∈ seen, nameKey other ≠ nameKey id := by
  induction ids generalizing seen with
  | nil => simp [firstClash?]
  | cons id rest ih =>
    unfold firstClash?
    cases clash : seen.find? (nameKey · == nameKey id) with
    | some first =>
      have same : nameKey first = nameKey id := by simpa using List.find?_some clash
      have old := List.mem_of_find?_eq_some clash
      simp only [reduceCtorEq, false_iff, not_and]
      exact fun _ fresh => fresh id List.mem_cons_self first old same
    | none =>
      have fresh : ∀ other ∈ seen, nameKey other ≠ nameKey id := by
        simpa using List.find?_eq_none.mp clash
      dsimp only
      rw [ih, List.map_cons, List.nodup_cons, List.forall_mem_cons]
      constructor
      · rintro ⟨nodup, apart⟩
        refine ⟨⟨fun mem => ?_, nodup⟩, fresh, fun other mem old before => ?_⟩
        · obtain ⟨other, later, same⟩ := List.mem_map.mp mem
          exact apart other later id (List.mem_append_right _ List.mem_cons_self) same.symm
        · exact apart other mem old (List.mem_append_left _ before)
      · rintro ⟨⟨new, nodup⟩, _, apart⟩
        refine ⟨nodup, fun other mem old before => ?_⟩
        rcases List.mem_append.mp before with earlier | last
        · exact apart other mem old earlier
        · rw [List.mem_singleton.mp last]
          exact fun same => new (List.mem_map.mpr ⟨other, mem, same.symm⟩)

section Spelling

variable {a b : ShapeId}

theorem nameKey_of_snakeCase
    (same : Identifier.snakeCase a.name = Identifier.snakeCase b.name) : nameKey a = nameKey b := by
  unfold nameKey
  rw [String.ofList_injective same]

/-- The key of a name can be told from its spelling for types if words start with characters that
upper-casing does not turn into something else. -/
theorem nameKey_of_pascalCase (recasedA : Identifier.Recased a.name.toList)
    (recasedB : Identifier.Recased b.name.toList)
    (same : Identifier.pascalCase a.name = Identifier.pascalCase b.name) :
    nameKey a = nameKey b := by
  have spelled := String.ofList_injective same
  unfold nameKey
  rw [Identifier.filter_snake, Identifier.filter_snake, ← Identifier.lower_pascal recasedA,
    ← Identifier.lower_pascal recasedB, spelled]

end Spelling

/-- Two shapes of a service with the same key are one shape. -/
theorem eq_of_nameKey {m : Model} {service : ShapeId} {c : Closure} {s t : Shape}
    (found : m.serviceClosure service = .ok c) (ownS : c.Own m s) (ownT : c.Own m t)
    (same : nameKey s.id = nameKey t.id) : s.id = t.id := by
  have keys := (firstClash?_eq_none_iff.mp (walk_of_serviceClosure found).2).1
  have mem {shape : Shape} (own : c.Own m shape) : shape.id ∈ c.ids.filter (!·.isPrelude) :=
    List.mem_filter.mpr ⟨own.listed, by simp [own.own]⟩
  exact List.inj_on_of_nodup_map keys (mem ownS) (mem ownT) same

end Model

end ServerSymbols
