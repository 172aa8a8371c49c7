import Mathlib
import ServerSymbols.Reachability
import ServerSymbols.Proofs.Digraph.Mark

set_option autoImplicit false

/-
How many passes it takes to mark all nodes with a path to a seed. A pass goes over the nodes in
ascending order and its marks count at once. So within one pass a mark travels against any number of
edges that lead to an earlier node; each edge that does not costs it a pass of its own.
-/
namespace ServerSymbols.SeededGraph

variable {n : Nat} {g : SeededGraph n} {v w : Fin n} {way : List (Fin n)}

/-! ### Paths to a seed -/

/-- A path of one or more edges from `v` to a seed; `way` are its nodes behind `v`. -/
structure SeedPath (g : SeededGraph n) (v : Fin n) (way : List (Fin n)) : Prop where
  chain : (v :: way).IsChain g.Edge
  ends : ∃ seed, way.getLast? = some seed ∧ g.seeds.get seed = true

/-- The passes in which a mark comes to `v` along this path: one, and one more for each edge, but
for the last, that does not lead to an earlier node. -/
def travel (v : Fin n) (way : List (Fin n)) : Nat :=
  1 + ((v :: way).zip way).dropLast.countP fun edge => edge.1 ≤ edge.2

theorem travel_singleton (v w : Fin n) : travel v [w] = 1 := rfl

theorem travel_cons (v w : Fin n) (nonempty : way ≠ []) :
    travel v (w :: way) = travel w way + if v ≤ w then 1 else 0 := by
  have onward : (w :: way).zip way ≠ [] := by
    cases way with
    | nil => exact absurd rfl nonempty
    | cons next rest => simp
  unfold travel
  rw [List.zip_cons_cons, List.dropLast_cons_of_ne_nil onward, List.countP_cons]
  simp only [decide_eq_true_eq]
  omega

/-- Of the edges before the last, only that from 1 to 3 leads to a later node. -/
example : travel (2 : Fin 4) [1, 3, 0] = 2 := by decide

theorem SeedPath.ne_nil (path : g.SeedPath v way) : way ≠ [] := by
  obtain ⟨seed, last, _⟩ := path.ends
  rintro rfl
  cases last

theorem seedPath_singleton (edge : w ∈ g.next v) (seed : g.seeds.get w = true) :
    g.SeedPath v [w] :=
  ⟨List.isChain_pair.mpr edge, w, rfl, seed⟩

theorem SeedPath.cons (edge : w ∈ g.next v) (path : g.SeedPath w way) :
    g.SeedPath v (w :: way) := by
  obtain ⟨seed, last, isSeed⟩ := path.ends
  refine ⟨List.isChain_cons_cons.mpr ⟨edge, path.chain⟩, seed, ?_, isSeed⟩
  rw [List.getLast?_cons_of_ne_nil path.ne_nil, last]

/-- The first edge of a path leads to a seed that ends it, or to a node from which it goes on. -/
theorem SeedPath.cases (path : g.SeedPath v way) :
    ∃ w ∈ g.next v, way = [w] ∧ g.seeds.get w = true ∨
      ∃ rest, way = w :: rest ∧ g.SeedPath w rest := by
  obtain ⟨chain, seed, last, isSeed⟩ := path
  cases way with
  | nil => cases last
  | cons w rest =>
    obtain ⟨edge, onward⟩ := List.isChain_cons_cons.mp chain
    refine ⟨w, edge, ?_⟩
    cases rest with
    | nil =>
      cases last
      exact Or.inl ⟨rfl, isSeed⟩
    | cons next rest =>
      rw [List.getLast?_cons_cons] at last
      exact Or.inr ⟨next :: rest, rfl, onward, seed, last, isSeed⟩

theorem SeedPath.reachesSeed (path : g.SeedPath v way) : g.ReachesSeed v := by
  induction way generalizing v with
  | nil => exact absurd rfl path.ne_nil
  | cons w rest ih =>
    obtain ⟨w, edge, ⟨_, seed⟩ | ⟨rest, same, onward⟩⟩ := path.cases
    · exact (ReachesSeed.of_seed seed).of_reaches (Digraph.Reaches.edge edge)
    · cases same
      exact (ih onward).of_reaches (Digraph.Reaches.edge edge)

/-- A node with a path to a seed is a seed or has such a path of one or more edges. -/
theorem ReachesSeed.cases (reaches : g.ReachesSeed v) :
    g.seeds.get v = true ∨ ∃ way, g.SeedPath v way := by
  refine reaches.closed (P := fun u => g.seeds.get u = true ∨ ∃ way, g.SeedPath u way)
    (fun u seed => Or.inl seed) fun u w edge onward => Or.inr ?_
  rcases onward with seed | ⟨way, path⟩
  · exact ⟨[w], seedPath_singleton edge seed⟩
  · exact ⟨w :: way, path.cons edge⟩

/-! ### What passes mark -/

/-- The node is a seed, or a mark comes to it along some path in no more than `passes` passes. -/
def Within (g : SeededGraph n) (passes : Nat) (v : Fin n) : Prop :=
  g.seeds.get v = true ∨ ∃ way, g.SeedPath v way ∧ travel v way ≤ passes

theorem not_travel_le_zero (v : Fin n) (way : List (Fin n)) : ¬ travel v way ≤ 0 := by
  unfold travel
  omega

/-- A mark comes to a node from one that was marked in an earlier pass, or from an earlier node that
was marked in the same pass. -/
theorem within_succ_iff {passes : Nat} :
    g.Within (passes + 1) v ↔
      g.seeds.get v = true ∨
        ∃ w ∈ g.next v, g.Within passes w ∨ w < v ∧ g.Within (passes + 1) w := by
  constructor
  · rintro (seed | ⟨way, path, short⟩)
    · exact Or.inl seed
    · refine Or.inr ?_
      obtain ⟨w, edge, ⟨_, seed⟩ | ⟨rest, rfl, onward⟩⟩ := path.cases
      · exact ⟨w, edge, Or.inl (Or.inl seed)⟩
      · rw [travel_cons v w onward.ne_nil] at short
        by_cases later : v ≤ w
        · rw [if_pos later] at short
          exact ⟨w, edge, Or.inl (Or.inr ⟨rest, onward, by omega⟩)⟩
        · rw [if_neg later] at short
          exact ⟨w, edge, Or.inr ⟨not_le.mp later, Or.inr ⟨rest, onward, short⟩⟩⟩
  · rintro (seed | ⟨w, edge, known⟩)
    · exact Or.inl seed
    · refine Or.inr ?_
      rcases known with (seed | ⟨way, path, short⟩) | ⟨earlier, seed | ⟨way, path, short⟩⟩
      · exact ⟨[w], seedPath_singleton edge seed, by rw [travel_singleton]; omega⟩
      · refine ⟨w :: way, path.cons edge, ?_⟩
        rw [travel_cons v w path.ne_nil]
        split <;> omega
      · exact ⟨[w], seedPath_singleton edge seed, by rw [travel_singleton]; omega⟩
      · refine ⟨w :: way, path.cons edge, ?_⟩
        rw [travel_cons v w path.ne_nil, if_neg (not_le.mpr earlier)]
        exact short

theorem Within.succ {passes : Nat} (within : g.Within passes v) : g.Within (passes + 1) v :=
  within.imp_right fun ⟨way, path, short⟩ => ⟨way, path, Nat.le_succ_of_le short⟩

theorem Within.reachesSeed {passes : Nat} (within : g.Within passes v) : g.ReachesSeed v := by
  rcases within with seed | ⟨way, path, _⟩
  · exact ReachesSeed.of_seed seed
  · exact path.reachesSeed

section Pass

variable {nodes : List (Fin n)} {marks : Vector Bool n}

theorem get_markNode (g : SeededGraph n) (marks : Vector Bool n) (v : Fin n) :
    (g.markNode marks v).get v = true ↔
      marks.get v = true ∨ ∃ w ∈ g.next v, marks.get w = true := by
  rw [← leadsToMark_iff]
  rcases g.markNode_cases marks v with ⟨same, already⟩ | ⟨changed, _, leads⟩
  · rw [same, or_iff_left_of_imp already]
  · simp [changed, get_mark, leads]

theorem get_markNode_of_ne (other : w ≠ v) : (g.markNode marks v).get w = marks.get w := by
  rcases g.markNode_cases marks v with ⟨same, _⟩ | ⟨changed, _, _⟩
  · rw [same]
  · rw [changed, get_mark, decide_eq_false other, Bool.false_or]

theorem get_foldl_markNode_of_not_mem (absent : w ∉ nodes) :
    (nodes.foldl g.markNode marks).get w = marks.get w := by
  induction nodes generalizing marks with
  | nil => rfl
  | cons node rest ih =>
    rw [List.mem_cons, not_or] at absent
    rw [List.foldl_cons, ih absent.2, get_markNode_of_ne absent.1]

theorem get_foldl_markNode_of_get (marked : marks.get w = true) :
    (nodes.foldl g.markNode marks).get w = true := by
  induction nodes generalizing marks with
  | nil => exact marked
  | cons node rest ih => exact ih (get_markNode_of_get marked)

/-- In one pass a node is marked if it leads to a node marked before, or to an earlier node that
this pass marks. -/
theorem get_pass (g : SeededGraph n) (marks : Vector Bool n) (v : Fin n) :
    (g.pass marks).get v = true ↔ marks.get v = true ∨
      ∃ w ∈ g.next v, marks.get w = true ∨ w < v ∧ (g.pass marks).get w = true := by
  obtain ⟨before, after, split⟩ := List.append_of_mem (List.mem_finRange v)
  have sorted := List.pairwise_lt_finRange n
  rw [split, List.pairwise_append, List.pairwise_cons] at sorted
  obtain ⟨_, ⟨above, _⟩, below⟩ := sorted
  have before_iff : ∀ w, w ∈ before ↔ w < v := by
    intro w
    have listed : w ∈ before ++ v :: after := split ▸ List.mem_finRange w
    refine ⟨fun mem => below w mem v List.mem_cons_self, fun earlier => ?_⟩
    rcases List.mem_append.mp listed with mem | later
    · exact mem
    · rcases List.mem_cons.mp later with rfl | later
      · exact absurd earlier (lt_irrefl w)
      · exact absurd earlier (above w later).asymm
  have offAfter : ∀ w, w ≤ v → w ∉ after := fun w le mem => absurd (above w mem) le.not_gt
  have offBefore : v ∉ before := fun mem => lt_irrefl v ((before_iff v).mp mem)
  -- What stands behind a node in the order of the pass does not change its mark.
  have whole : ∀ w, w ≤ v → (g.pass marks).get w =
      (g.markNode (before.foldl g.markNode marks) v).get w := by
    intro w le
    rw [pass, split, List.foldl_append, List.foldl_cons,
      get_foldl_markNode_of_not_mem (offAfter w le)]
  rw [whole v le_rfl, get_markNode, get_foldl_markNode_of_not_mem offBefore]
  have known : ∀ w, (before.foldl g.markNode marks).get w = true ↔
      marks.get w = true ∨ w < v ∧ (g.pass marks).get w = true := by
    intro w
    by_cases earlier : w < v
    · rw [whole w earlier.le, get_markNode_of_ne earlier.ne, and_iff_right earlier]
      exact ⟨Or.inr, fun marked => marked.elim get_foldl_markNode_of_get id⟩
    · rw [get_foldl_markNode_of_not_mem fun mem => earlier ((before_iff w).mp mem)]
      simp [earlier]
  simp only [known]

end Pass

/-- The marks after this many passes. -/
def after (g : SeededGraph n) (passes : Nat) : Vector Bool n :=
  g.pass^[passes] g.seeds

theorem after_succ (g : SeededGraph n) (passes : Nat) :
    g.after (passes + 1) = g.pass (g.after passes) :=
  Function.iterate_succ_apply' g.pass passes g.seeds

/-- What is marked after some passes is what marks come to within them. -/
theorem get_after (g : SeededGraph n) (passes : Nat) (v : Fin n) :
    (g.after passes).get v = true ↔ g.Within passes v := by
  induction passes generalizing v with
  | zero =>
    refine ⟨Or.inl, fun within => within.resolve_right ?_⟩
    rintro ⟨way, _, short⟩
    exact not_travel_le_zero v way short
  | succ passes ih =>
    -- Within one pass, the earlier nodes are decided before `v`.
    induction place : v.val using Nat.strongRecOn generalizing v with
    | ind place earlier =>
      have before : ∀ w, w < v → ((g.after (passes + 1)).get w = true ↔ g.Within (passes + 1) w) :=
        fun w lt => earlier w.val (place ▸ lt) w rfl
      rw [after_succ, get_pass, ← after_succ, ih]
      constructor
      · rintro (old | ⟨w, edge, marked | ⟨lt, marked⟩⟩)
        · exact old.succ
        · exact within_succ_iff.mpr (Or.inr ⟨w, edge, Or.inl ((ih w).mp marked)⟩)
        · exact within_succ_iff.mpr (Or.inr ⟨w, edge, Or.inr ⟨lt, (before w lt).mp marked⟩⟩)
      · intro within
        rcases within_succ_iff.mp within with seed | ⟨w, edge, known | ⟨lt, known⟩⟩
        · exact Or.inl (Or.inl seed)
        · exact Or.inr ⟨w, edge, Or.inl ((ih w).mpr known)⟩
        · exact Or.inr ⟨w, edge, Or.inr ⟨lt, (before w lt).mpr known⟩⟩

theorem sound_after (g : SeededGraph n) (passes : Nat) : g.Sound (g.after passes) where
  seeds v seed := (g.get_after passes v).mpr (Or.inl seed)
  reaches v marked := ((g.get_after passes v).mp marked).reachesSeed

/-! ### How many passes are made -/

/-- The pass that marks a node with a path to a seed, if it is no seed itself: a mark comes to it
along the path that takes the fewest passes. -/
noncomputable def round (g : SeededGraph n) (v : Fin n) : Nat :=
  sInf {passes | ∃ way, g.SeedPath v way ∧ travel v way = passes}

open Classical in
/-- The nodes with a path to a seed that are no seeds. -/
noncomputable def led (g : SeededGraph n) : Finset (Fin n) :=
  Finset.univ.filter fun v => g.ReachesSeed v ∧ g.seeds.get v = false

/-- The passes up to the first that changes nothing: it comes after the one that marks the last
node. -/
noncomputable def passCount (g : SeededGraph n) : Nat :=
  1 + g.led.sup g.round

theorem mem_led : v ∈ g.led ↔ g.ReachesSeed v ∧ g.seeds.get v = false := by
  simp [led]

theorem within_iff_round (mem : v ∈ g.led) (passes : Nat) :
    g.Within passes v ↔ g.round v ≤ passes := by
  obtain ⟨reaches, plain⟩ := mem_led.mp mem
  have noSeed : ¬ g.seeds.get v = true := Bool.eq_false_iff.mp plain
  constructor
  · intro within
    obtain ⟨way, path, short⟩ := within.resolve_left noSeed
    have least : g.round v ≤ travel v way := Nat.sInf_le ⟨way, path, rfl⟩
    omega
  · intro le
    obtain ⟨way, path⟩ := reaches.cases.resolve_left noSeed
    have some_path : {passes | ∃ way, g.SeedPath v way ∧ travel v way = passes}.Nonempty :=
      ⟨travel v way, way, path, rfl⟩
    obtain ⟨best, bestPath, least⟩ := Nat.sInf_mem some_path
    exact Or.inr ⟨best, bestPath, least.trans_le le⟩

/-- From the last round on, all nodes with a path to a seed are marked. -/
theorem get_after_of_le {passes : Nat} (enough : g.led.sup g.round ≤ passes) (v : Fin n) :
    (g.after passes).get v = true ↔ g.ReachesSeed v := by
  refine ⟨(g.sound_after passes).reaches v, fun reaches => (g.get_after passes v).mpr ?_⟩
  by_cases seed : g.seeds.get v = true
  · exact Or.inl seed
  · have mem : v ∈ g.led := mem_led.mpr ⟨reaches, Bool.eq_false_iff.mpr seed⟩
    exact (within_iff_round mem passes).mpr ((Finset.le_sup mem).trans enough)

/-- Passes change something exactly up to the last round. -/
theorem pass_after_eq_iff (g : SeededGraph n) (passes : Nat) :
    g.pass (g.after passes) = g.after passes ↔ g.led.sup g.round ≤ passes := by
  constructor
  · intro still
    refine Finset.sup_le fun v mem => ?_
    rw [← within_iff_round mem, ← get_after, (g.sound_after passes).complete still]
    exact (mem_led.mp mem).1
  · intro enough
    refine ext_get fun v => Bool.eq_iff_iff.mpr ?_
    rw [← after_succ, get_after_of_le enough, get_after_of_le (enough.trans (Nat.le_succ passes))]

/-- Passes go on until the first that changes nothing, if the limit allows it. -/
theorem saturate_after (g : SeededGraph n) {passes : Nat} (before : passes ≤ g.led.sup g.round)
    (limit : Nat) :
    g.saturate limit (g.after passes) =
      if g.led.sup g.round - passes < limit then
        some (g.after (g.led.sup g.round), g.led.sup g.round - passes + 1)
      else none := by
  induction limit generalizing passes with
  | zero => rfl
  | succ limit ih =>
    rw [saturate]
    rcases before.eq_or_lt with rfl | sooner
    · have still := (g.pass_after_eq_iff _).mpr le_rfl
      rw [if_pos still, still, Nat.sub_self, if_pos limit.succ_pos]
    · have changed : g.pass (g.after passes) ≠ g.after passes :=
        fun still => absurd ((g.pass_after_eq_iff passes).mp still) sooner.not_ge
      rw [if_neg changed, ← after_succ, ih sooner]
      have fewer : g.led.sup g.round - passes = g.led.sup g.round - (passes + 1) + 1 := by omega
      rw [fewer]
      by_cases enough : g.led.sup g.round - (passes + 1) < limit
      · rw [if_pos enough, if_pos (Nat.succ_lt_succ enough), Option.map_some]
      · rw [if_neg enough, if_neg (fun lt => enough (Nat.lt_of_succ_lt_succ lt)), Option.map_none]

theorem spread_eq (g : SeededGraph n) (limit : Nat) :
    g.spread limit =
      if g.passCount ≤ limit then some (g.after (g.led.sup g.round), g.passCount) else none := by
  have started := g.saturate_after (Nat.zero_le _) limit
  rw [Nat.sub_zero] at started
  simp only [passCount, Nat.add_comm 1]
  exact started

theorem countP_add_unmarked (marks : Vector Bool n) : marks.countP id + unmarked marks = n := by
  have parts : n = marks.countP id + _ := Vector.size_eq_countP_add_countP
  simp only [id, Bool.not_eq_true, Bool.decide_eq_false] at parts
  exact parts.symm

/-- Each pass before the last marks at least one node. -/
theorem countP_after {passes : Nat} (before : passes ≤ g.led.sup g.round) :
    g.seeds.countP id + passes ≤ (g.after passes).countP id := by
  induction passes with
  | zero => exact le_rfl
  | succ passes ih =>
    have changed : g.pass (g.after passes) ≠ g.after passes :=
      fun still => absurd ((g.pass_after_eq_iff passes).mp still) (Nat.not_le_of_lt before)
    have fewer := (grown_pass (g.sound_after passes)).fewer.resolve_left changed
    have sooner := ih (Nat.le_of_succ_le before)
    have here := countP_add_unmarked (g.after passes)
    have next := countP_add_unmarked (g.after (passes + 1))
    rw [after_succ] at next ⊢
    omega

/-- Marking in passes finds the nodes with a path to a seed if the limit allows for one pass more
than the last round, and fails if it does not. There are no more passes than nodes to be marked, and
one: the limit that is set for a graph always suffices. -/
theorem settle_eq (g : SeededGraph n) :
    ∃ marks : Vector Bool n, (∀ v, marks.get v = true ↔ g.ReachesSeed v) ∧
      (∀ limit, g.settle limit =
        if g.passCount ≤ limit then .ok (marks, g.passCount) else .error (.unsettled limit n)) ∧
      g.passCount ≤ marks.countP id - g.seeds.countP id + 1 ∧
      marks.countP id - g.seeds.countP id + 1 ≤ n + 1 ∧ passLimit n = n + 1 ∧
      ∀ components, g.reaching .fixpoint components = .ok (marks, g.passCount) := by
  have settled : ∀ limit, g.settle limit = if g.passCount ≤ limit then
      .ok (g.after (g.led.sup g.round), g.passCount) else .error (.unsettled limit n) := by
    intro limit
    rw [settle, spread_eq]
    by_cases enough : g.passCount ≤ limit <;> simp [enough]
  have marked := countP_after (g := g) le_rfl
  have most : (g.after (g.led.sup g.round)).countP id ≤ n := Vector.countP_le_size
  have few : g.passCount ≤ (g.after (g.led.sup g.round)).countP id - g.seeds.countP id + 1 := by
    rw [passCount]
    omega
  refine ⟨g.after (g.led.sup g.round), get_after_of_le le_rfl, settled, few, by omega, rfl, ?_⟩
  intro components
  have enough : g.passCount ≤ passLimit n := by
    rw [passLimit]
    omega
  rw [reaching, settled, if_pos enough]

end ServerSymbols.SeededGraph
