import ServerSymbols.Proofs.Model.Collection
import ServerSymbols.Proofs.Digraph.ClosedPath

set_option autoImplicit false

/-
What becomes of shapes that are added to those of the prelude. They make a model if their ids are
distinct, all references lead somewhere, and no collection contains itself through collections only;
of these conditions, the first that fails decides the error.
-/
namespace ServerSymbols

namespace Shape

/-- No id is given twice, nor to a shape of the prelude again. -/
def Distinct (added : List Shape) : Prop :=
  (ids added).Nodup ∧ ∀ id ∈ ids added, id ∉ ids prelude

/-- Every reference leads to a shape of the prelude or to one that is added. -/
def Complete (added : List Shape) : Prop :=
  ∀ shape ∈ added, ∀ ref ∈ shape.refs, ref ∈ ids (prelude ++ added)

/-- Members lead from a collection back to it, through collections only. -/
def Circular (added : List Shape) : Prop :=
  ∃ shape, Relation.TransGen (Nests (prelude ++ added)) shape shape

/-- The shape is the first whose id was given before it was added. -/
def FirstRepeated (added : List Shape) (shape : Shape) : Prop :=
  ∃ before after, added = before ++ shape :: after ∧ Distinct before ∧
    (shape.id ∈ ids prelude ∨ shape.id ∈ ids before)

/-- The shape is the first with a reference that leads nowhere, and this is its first. -/
def FirstDangling (added : List Shape) (shape : Shape) (target : ShapeId) : Prop :=
  ∃ before after, added = before ++ shape :: after ∧
    (∀ earlier ∈ before, ∀ ref ∈ earlier.refs, ref ∈ ids (prelude ++ added)) ∧
    ∃ refs others, shape.refs = refs ++ target :: others ∧
      (∀ ref ∈ refs, ref ∈ ids (prelude ++ added)) ∧ target ∉ ids (prelude ++ added)

theorem ids_append (shapes others : List Shape) : ids (shapes ++ others) = ids shapes ++ ids others :=
  List.map_append

theorem nodup_ids_prelude : (ids prelude).Nodup := by decide +kernel

theorem refs_of_mem_prelude {shape : Shape} (mem : shape ∈ prelude) : shape.refs = [] := by
  obtain ⟨kind, _, rfl⟩ := List.mem_map.mp mem
  rfl

variable {added other : List Shape} {shape : Shape} {id target : ShapeId}

theorem distinct_iff : Distinct added ↔ (ids (prelude ++ added)).Nodup := by
  rw [ids_append, List.nodup_append]
  constructor
  · rintro ⟨nodup, apart⟩
    refine ⟨nodup_ids_prelude, nodup, ?_⟩
    rintro id first other second rfl
    exact apart id second first
  · rintro ⟨_, nodup, apart⟩
    exact ⟨nodup, fun id second first => apart id first id second rfl⟩

/-! ### Repeated ids -/

theorem firstRepeated?_append {seen before after : List ShapeId} (nodup : before.Nodup)
    (fresh : ∀ id ∈ before, id ∉ seen) :
    firstRepeated? seen (before ++ after) = firstRepeated? (before.reverse ++ seen) after := by
  induction before generalizing seen with
  | nil => rfl
  | cons id rest ih =>
    obtain ⟨new, distinct⟩ := List.nodup_cons.mp nodup
    have first := fresh id List.mem_cons_self
    have later : ∀ other ∈ rest, other ∉ id :: seen := by
      intro other mem old
      rcases List.mem_cons.mp old with rfl | before
      · exact new mem
      · exact fresh other (List.mem_cons_of_mem id mem) before
    rw [List.cons_append, firstRepeated?, if_neg first, ih distinct later, List.reverse_cons,
      List.append_assoc, List.singleton_append]

theorem exists_of_firstRepeated? {seen : List ShapeId} {shapes : List Shape}
    (found : firstRepeated? seen (ids shapes) = some id) :
    ∃ before shape after, shapes = before ++ shape :: after ∧ shape.id = id ∧
      (ids before).Nodup ∧ (∀ other ∈ ids before, other ∉ seen) ∧
      (id ∈ seen ∨ id ∈ ids before) := by
  induction shapes generalizing seen with
  | nil => cases found
  | cons shape rest ih =>
    rw [ids, List.map_cons, firstRepeated?] at found
    by_cases old : shape.id ∈ seen
    · rw [if_pos old] at found
      cases found
      exact ⟨[], shape, rest, rfl, rfl, List.nodup_nil, by simp [ids], Or.inl old⟩
    · rw [if_neg old] at found
      obtain ⟨before, repeated, after, split, same, nodup, fresh, given⟩ := ih found
      have apart : shape.id ∉ ids before :=
        fun mem => fresh shape.id mem List.mem_cons_self
      refine ⟨shape :: before, repeated, after, by rw [split]; rfl, same,
        List.nodup_cons.mpr ⟨apart, nodup⟩, ?_, ?_⟩
      · intro other mem
        rcases List.mem_cons.mp mem with rfl | later
        · exact old
        · exact fun before => fresh other later (List.mem_cons_of_mem _ before)
      · rcases given with given | earlier
        · rcases List.mem_cons.mp given with rfl | before
          · exact Or.inr List.mem_cons_self
          · exact Or.inl before
        · exact Or.inr (List.mem_cons_of_mem _ earlier)

theorem exists_firstRepeated (found : firstRepeated? [] (ids (prelude ++ added)) = some id) :
    ∃ shape, FirstRepeated added shape ∧ shape.id = id := by
  have prior : firstRepeated? (ids prelude).reverse (ids added) = some id := by
    rw [ids_append, firstRepeated?_append nodup_ids_prelude (by simp), List.append_nil] at found
    exact found
  obtain ⟨before, shape, after, split, same, nodup, fresh, given⟩ := exists_of_firstRepeated? prior
  have apart : ∀ other ∈ ids before, other ∉ ids prelude :=
    fun other mem old => fresh other mem (List.mem_reverse.mpr old)
  have known : shape.id ∈ ids prelude ∨ shape.id ∈ ids before :=
    same ▸ given.imp_left List.mem_reverse.mp
  exact ⟨shape, ⟨before, after, split, ⟨nodup, apart⟩, known⟩, same⟩

theorem FirstRepeated.not_distinct (repeated : FirstRepeated added shape) : ¬ Distinct added := by
  rintro ⟨nodup, apart⟩
  obtain ⟨before, after, rfl, _, given⟩ := repeated
  rw [ids_append] at nodup apart
  rcases given with first | earlier
  · exact apart shape.id (List.mem_append_right _ List.mem_cons_self) first
  · exact (List.nodup_append.mp nodup).2.2 _ earlier _ List.mem_cons_self rfl

/-! ### References that lead nowhere -/

theorem complete_iff : Complete added ↔ danglingRef? (prelude ++ added) = none := by
  constructor
  · intro complete
    unfold danglingRef?
    rw [List.findSome?_eq_none_iff]
    intro shape mem
    rw [Option.map_eq_none_iff, List.find?_eq_none]
    intro ref listed
    have known : ref ∈ ids (prelude ++ added) := by
      rcases List.mem_append.mp mem with first | later
      · rw [refs_of_mem_prelude first] at listed
        cases listed
      · exact complete shape later ref listed
    simpa using known
  · intro none_found shape mem ref listed
    exact mem_ids_of_danglingRef?_eq_none none_found shape (List.mem_append_right _ mem) ref listed

theorem exists_firstDangling {source : ShapeId}
    (found : danglingRef? (prelude ++ added) = some (source, target)) :
    ∃ shape, FirstDangling added shape target ∧ shape.id = source := by
  unfold danglingRef? at found
  have clear : prelude.findSome? (fun shape =>
      (shape.refs.find? (· ∉ ids (prelude ++ added))).map (shape.id, ·)) = none := by
    rw [List.findSome?_eq_none_iff]
    intro shape mem
    rw [refs_of_mem_prelude mem]
    rfl
  rw [List.findSome?_append, clear, Option.none_or, List.findSome?_eq_some_iff] at found
  obtain ⟨before, shape, after, split, here, earlier⟩ := found
  obtain ⟨ref, first, same⟩ := Option.map_eq_some_iff.mp here
  cases same
  obtain ⟨missing, refs, others, listed, defined⟩ := List.find?_eq_some_iff_append.mp first
  refine ⟨shape, ⟨before, after, split, fun s mem r use => ?_, refs, others, listed,
    fun r mem => ?_, ?_⟩, rfl⟩
  · have none_missing := Option.map_eq_none_iff.mp (earlier s mem)
    simpa using List.find?_eq_none.mp none_missing r use
  · simpa using defined r mem
  · simpa using missing

theorem FirstDangling.not_complete (dangling : FirstDangling added shape target) :
    ¬ Complete added := by
  intro complete
  obtain ⟨before, after, split, _, refs, others, listed, _, missing⟩ := dangling
  have mem : shape ∈ added := split ▸ List.mem_append_right before List.mem_cons_self
  have use : target ∈ shape.refs := listed ▸ List.mem_append_right refs List.mem_cons_self
  exact missing (complete shape mem target use)

/-! ### Collections that contain themselves -/

theorem exists_path_of_nests {shapes : List Shape} (nodup : (ids shapes).Nodup)
    {outer inner : Shape} (nested : Relation.TransGen (Nests shapes) outer inner) (i : Fin shapes.length)
    (start : shapes.get i = outer) :
    ∃ j, shapes.get j = inner ∧ Relation.TransGen (collectionGraph shapes).Edge i j := by
  induction nested with
  | single nests =>
    obtain ⟨j, same⟩ := List.get_of_mem nests.2.1.1
    refine ⟨j, same, Relation.TransGen.single ?_⟩
    rw [edge_collectionGraph_iff nodup, start, same]
    exact nests
  | tail _ nests ih =>
    obtain ⟨k, between, path⟩ := ih
    obtain ⟨j, same⟩ := List.get_of_mem nests.2.1.1
    refine ⟨j, same, path.tail ?_⟩
    rw [edge_collectionGraph_iff nodup, between, same]
    exact nests

theorem circular_iff (distinct : Distinct added) :
    Circular added ↔ ∃ cycle, (collectionGraph (prelude ++ added)).cycle? = some cycle := by
  have nodup := distinct_iff.mp distinct
  have searched := Digraph.cycle?_eq_none_iff (collectionGraph (prelude ++ added))
  constructor
  · rintro ⟨shape, loop⟩
    obtain ⟨_, nests, _⟩ := Relation.TransGen.head'_iff.mp loop
    obtain ⟨i, start⟩ := List.get_of_mem nests.1.1
    obtain ⟨j, last, path⟩ := exists_path_of_nests nodup loop i start
    have same : i = j :=
      List.nodup_iff_injective_get.mp (List.Nodup.of_map _ nodup) (start.trans last.symm)
    cases found : (collectionGraph (prelude ++ added)).cycle? with
    | none => exact absurd ⟨j, same ▸ path⟩ (searched.mp found)
    | some cycle => exact ⟨cycle, rfl⟩
  · rintro ⟨cycle, found⟩
    obtain ⟨v, loop⟩ := (Digraph.isCycle_of_cycle? found).loop
    refine ⟨(prelude ++ added).get v, ?_⟩
    exact loop.lift (prelude ++ added).get
      fun i j edge => (edge_collectionGraph_iff nodup i j).mp edge

/-! ### The order of addition -/

theorem mem_ids_of_perm (same : added.Perm other) :
    id ∈ ids (prelude ++ added) ↔ id ∈ ids (prelude ++ other) :=
  ((same.append_left prelude).map _).mem_iff

theorem distinct_of_perm (same : added.Perm other) : Distinct added ↔ Distinct other := by
  rw [distinct_iff, distinct_iff]
  exact ((same.append_left prelude).map _).nodup_iff

theorem complete_of_perm (same : added.Perm other) : Complete added ↔ Complete other := by
  unfold Complete
  simp only [same.mem_iff, mem_ids_of_perm same]

theorem circular_of_perm (same : added.Perm other) : Circular added ↔ Circular other := by
  have nests : Nests (prelude ++ added) = Nests (prelude ++ other) := by
    funext outer inner
    unfold Nests
    simp only [(same.append_left prelude).mem_iff]
  unfold Circular
  rw [nests]

end Shape

namespace Model

open Shape (Distinct Complete Circular FirstRepeated FirstDangling)

variable {added : List Shape}

/-- The three checks in their order, with what each of them finds. -/
theorem build_cases (added : List Shape) :
    (∃ id, firstRepeated? [] (Shape.ids (Shape.prelude ++ added)) = some id ∧
      build added = .error (.duplicateShape id)) ∨
    firstRepeated? [] (Shape.ids (Shape.prelude ++ added)) = none ∧
      ((∃ source target, Shape.danglingRef? (Shape.prelude ++ added) = some (source, target) ∧
        build added = .error (.unknownTarget source target)) ∨
      Shape.danglingRef? (Shape.prelude ++ added) = none ∧
        ((∃ nodes, (Shape.collectionGraph (Shape.prelude ++ added)).cycle? = some nodes ∧
          build added = .error (.invalidRecursion
            (Shape.ids (nodes.map (Shape.prelude ++ added).get)))) ∨
        (Shape.collectionGraph (Shape.prelude ++ added)).cycle? = none ∧
          ∃ m, build added = .ok m ∧ m.shapes = Shape.prelude ++ added)) := by
  unfold build
  dsimp only
  split
  · next id repeated => exact Or.inl ⟨id, repeated, rfl⟩
  · next unrepeated =>
    refine Or.inr ⟨unrepeated, ?_⟩
    split
    · next source target dangling => exact Or.inl ⟨source, target, dangling, rfl⟩
    · next closed =>
      refine Or.inr ⟨closed, ?_⟩
      split
      · next nodes found => exact Or.inl ⟨nodes, found, by simp [Shape.ids]⟩
      · next unnested => exact Or.inr ⟨unnested, _, rfl, rfl⟩

/-- The same, said of the shapes. -/
theorem build_verdict (added : List Shape) :
    (∃ shape, FirstRepeated added shape ∧ build added = .error (.duplicateShape shape.id)) ∨
    Distinct added ∧ (∃ shape target, FirstDangling added shape target ∧
      build added = .error (.unknownTarget shape.id target)) ∨
    Distinct added ∧ Complete added ∧ Circular added ∧
      (∃ cycle, build added = .error (.invalidRecursion cycle)) ∨
    Distinct added ∧ Complete added ∧ ¬ Circular added ∧
      ∃ m, build added = .ok m ∧ m.shapes = Shape.prelude ++ added := by
  rcases build_cases added with ⟨id, repeated, failed⟩ | ⟨unrepeated, rest⟩
  · obtain ⟨shape, first, same⟩ := Shape.exists_firstRepeated repeated
    exact Or.inl ⟨shape, first, same ▸ failed⟩
  have distinct : Distinct added :=
    Shape.distinct_iff.mpr (firstRepeated?_eq_none_iff.mp unrepeated).1
  rcases rest with ⟨source, target, dangling, failed⟩ | ⟨closed, rest⟩
  · obtain ⟨shape, first, same⟩ := Shape.exists_firstDangling dangling
    exact Or.inr (Or.inl ⟨distinct, shape, target, first, same ▸ failed⟩)
  have complete : Complete added := Shape.complete_iff.mpr closed
  rcases rest with ⟨nodes, found, failed⟩ | ⟨unnested, m, built, shapes⟩
  · have circular := (Shape.circular_iff distinct).mpr ⟨nodes, found⟩
    exact Or.inr (Or.inr (Or.inl ⟨distinct, complete, circular, _, failed⟩))
  · have acyclic : ¬ Circular added := by
      intro circular
      obtain ⟨nodes, found⟩ := (Shape.circular_iff distinct).mp circular
      rw [unnested] at found
      cases found
    exact Or.inr (Or.inr (Or.inr ⟨distinct, complete, acyclic, m, built, shapes⟩))

theorem build_ok_iff (added : List Shape) :
    (∃ m, build added = .ok m) ↔ Distinct added ∧ Complete added ∧ ¬ Circular added := by
  rcases build_verdict added with ⟨shape, first, failed⟩ | ⟨_, shape, target, first, failed⟩ |
    ⟨_, _, circular, cycle, failed⟩ | ⟨distinct, complete, acyclic, m, built, _⟩
  · have refused : ¬ ∃ m, build added = .ok m := by simp [failed]
    exact iff_of_false refused fun sound => first.not_distinct sound.1
  · have refused : ¬ ∃ m, build added = .ok m := by simp [failed]
    exact iff_of_false refused fun sound => first.not_complete sound.2.1
  · have refused : ¬ ∃ m, build added = .ok m := by simp [failed]
    exact iff_of_false refused fun sound => sound.2.2 circular
  · exact iff_of_true ⟨m, built⟩ ⟨distinct, complete, acyclic⟩

theorem shapes_of_build {m : Model} (built : build added = .ok m) :
    m.shapes = Shape.prelude ++ added := by
  rcases build_verdict added with ⟨_, _, failed⟩ | ⟨_, _, _, _, failed⟩ | ⟨_, _, _, _, failed⟩ |
    ⟨_, _, _, model, succeeded, shapes⟩
  case inr.inr.inr =>
    rw [succeeded] at built
    cases built
    exact shapes
  all_goals
    rw [failed] at built
    cases built

/-- Every model is made from the shapes that follow those of the prelude. -/
theorem build_of_shapes {m : Model} (shapes : m.shapes = Shape.prelude ++ added) :
    build added = .ok m := by
  have distinct : Shape.Distinct added := Shape.distinct_iff.mpr (shapes ▸ m.nodup)
  have complete : Shape.Complete added := by
    intro shape mem ref listed
    rw [← shapes]
    exact m.closed shape (shapes ▸ List.mem_append_right _ mem) ref listed
  have acyclic : ¬ Shape.Circular added := by
    intro circular
    obtain ⟨cycle, found⟩ := (Shape.circular_iff distinct).mp circular
    have unnested := m.unnested
    rw [shapes, found] at unnested
    cases unnested
  obtain ⟨n, built⟩ := (build_ok_iff added).mpr ⟨distinct, complete, acyclic⟩
  have equal : n = m := Model.ext ((shapes_of_build built).trans shapes.symm)
  rw [built, equal]

/-- Which error it is, whatever it names; none if there is a model. -/
def errorVariant : Except ModelError Model → Option Nat
  | .ok _ => none
  | .error reason => some reason.ctorIdx

open Classical in
theorem errorVariant_build (added : List Shape) :
    errorVariant (build added) =
      if ¬ Distinct added then some (ModelError.duplicateShape ⟨"", ""⟩).ctorIdx
      else if ¬ Complete added then some (ModelError.unknownTarget ⟨"", ""⟩ ⟨"", ""⟩).ctorIdx
      else if Circular added then some (ModelError.invalidRecursion []).ctorIdx
      else none := by
  rcases build_verdict added with ⟨shape, first, failed⟩ | ⟨distinct, shape, target, first, failed⟩ |
    ⟨distinct, complete, circular, cycle, failed⟩ | ⟨distinct, complete, acyclic, m, built, _⟩
  · rw [failed, if_pos first.not_distinct]
    rfl
  · rw [failed, if_neg (not_not.mpr distinct), if_pos first.not_complete]
    rfl
  · rw [failed, if_neg (not_not.mpr distinct), if_neg (not_not.mpr complete), if_pos circular]
    rfl
  · rw [built, if_neg (not_not.mpr distinct), if_neg (not_not.mpr complete), if_neg acyclic]
    rfl

theorem errorVariant_of_perm {other : List Shape} (same : added.Perm other) :
    errorVariant (build added) = errorVariant (build other) := by
  have distinct := propext (Shape.distinct_of_perm same)
  have complete := propext (Shape.complete_of_perm same)
  have circular := propext (Shape.circular_of_perm same)
  rw [errorVariant_build, errorVariant_build, distinct, complete, circular]

/-- Shapes make a model if and only if their ids are distinct, all references are defined and no
collection contains itself through collections. The model has the 13 shapes of the prelude and then
these shapes as they are, each found under its id. If they make none, the error names the earliest
repeated id; or else the first reference that leads nowhere; or else it is that of a cycle. In which
order shapes are added matters neither for success nor for the kind of error. -/
theorem build_outcome (added : List Shape) :
    ((∃ m, build added = .ok m) ↔ Distinct added ∧ Complete added ∧ ¬ Circular added) ∧
    ((∃ shape, FirstRepeated added shape ∧ build added = .error (.duplicateShape shape.id)) ∨
      (¬ ∃ shape, FirstRepeated added shape) ∧
        (∃ shape target, FirstDangling added shape target ∧
          build added = .error (.unknownTarget shape.id target)) ∨
      (¬ ∃ shape, FirstRepeated added shape) ∧
        (¬ ∃ shape target, FirstDangling added shape target) ∧
        (∃ cycle, build added = .error (.invalidRecursion cycle)) ∨
      ∃ m, build added = .ok m ∧ Shape.prelude.length = 13 ∧
        m.shapes = Shape.prelude ++ added ∧ ∀ shape ∈ m.shapes, m.get? shape.id = some shape) ∧
    ∀ other, added.Perm other → errorVariant (build added) = errorVariant (build other) := by
  refine ⟨build_ok_iff added, ?_, fun other => errorVariant_of_perm⟩
  have unrepeated (distinct : Distinct added) : ¬ ∃ shape, FirstRepeated added shape :=
    fun ⟨_, first⟩ => first.not_distinct distinct
  have undangling (complete : Complete added) : ¬ ∃ shape target, FirstDangling added shape target :=
    fun ⟨_, _, first⟩ => first.not_complete complete
  rcases build_verdict added with repeated | ⟨distinct, dangling⟩ |
    ⟨distinct, complete, _, failed⟩ | ⟨_, _, _, m, built, shapes⟩
  · exact Or.inl repeated
  · exact Or.inr (Or.inl ⟨unrepeated distinct, dangling⟩)
  · exact Or.inr (Or.inr (Or.inl ⟨unrepeated distinct, undangling complete, failed⟩))
  · exact Or.inr (Or.inr (Or.inr ⟨m, built, rfl, shapes, fun shape mem => get?_of_mem mem⟩))

end Model

end ServerSymbols
