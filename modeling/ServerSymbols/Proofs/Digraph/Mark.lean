import ServerSymbols.Proofs.Digraph.Component

set_option autoImplicit false

/-
Both ways of marking find exactly the nodes with a path to a seed. Component by component, each
component is decided by itself and by what it leads to; the passes over all nodes only ever mark
nodes with such a path, and a pass that changes nothing has marked all of them.
-/
namespace ServerSymbols.SeededGraph

open ServerSymbols.Digraph (Reaches Emitted)

variable {n : Nat} {g : SeededGraph n}

/-- The node has a path to a seed. -/
def ReachesSeed (g : SeededGraph n) (v : Fin n) : Prop :=
  ∃ seed, g.Reaches v seed ∧ g.seeds.get seed = true

theorem ReachesSeed.of_seed {v : Fin n} (seed : g.seeds.get v = true) : g.ReachesSeed v :=
  ⟨v, Reaches.refl v, seed⟩

theorem ReachesSeed.of_reaches {v w : Fin n} (path : g.Reaches v w) (onward : g.ReachesSeed w) :
    g.ReachesSeed v := by
  obtain ⟨seed, rest, isSeed⟩ := onward
  exact ⟨seed, path.trans rest, isSeed⟩

/-- A set that holds all seeds and the sources of all edges into it holds every node with a path to
a seed. -/
theorem ReachesSeed.closed {P : Fin n → Prop} {v : Fin n} (reaches : g.ReachesSeed v)
    (seeds : ∀ u, g.seeds.get u = true → P u) (edges : ∀ u, ∀ w ∈ g.next u, P w → P u) : P v := by
  obtain ⟨seed, path, isSeed⟩ := reaches
  induction path using Relation.ReflTransGen.head_induction_on with
  | refl => exact seeds seed isSeed
  | head edge _ ih => exact edges _ _ edge ih

theorem get_mark (marks : Vector Bool n) (v w : Fin n) :
    (mark marks v).get w = (decide (w = v) || marks.get w) := by
  rw [mark, get_set]
  by_cases same : w = v <;> simp [same]

theorem get_foldl_mark (component : List (Fin n)) (marks : Vector Bool n) (w : Fin n) :
    (component.foldl mark marks).get w = true ↔ w ∈ component ∨ marks.get w = true := by
  induction component generalizing marks with
  | nil => simp
  | cons v rest ih =>
    rw [List.foldl_cons, ih, get_mark, Bool.or_eq_true, decide_eq_true_eq, List.mem_cons]
    constructor
    · rintro (later | rfl | old)
      · exact Or.inl (Or.inr later)
      · exact Or.inl (Or.inl rfl)
      · exact Or.inr old
    · rintro ((rfl | later) | old)
      · exact Or.inr (Or.inl rfl)
      · exact Or.inl later
      · exact Or.inr (Or.inr old)

theorem leadsToMark_iff (g : SeededGraph n) (marks : Vector Bool n) (v : Fin n) :
    g.leadsToMark marks v = true ↔ ∃ w ∈ g.next v, marks.get w = true :=
  List.any_eq_true

section Condensation

variable {component : List (Fin n)} {marks : Vector Bool n}

/-- A node of the component is a seed or has an edge to a marked node. -/
def Hit (g : SeededGraph n) (marks : Vector Bool n) (component : List (Fin n)) : Prop :=
  ∃ v ∈ component, g.seeds.get v = true ∨ ∃ w ∈ g.next v, marks.get w = true

theorem get_markComponent (g : SeededGraph n) (marks : Vector Bool n) (component : List (Fin n))
    (w : Fin n) :
    (g.markComponent marks component).get w = true ↔
      w ∈ component ∧ g.Hit marks component ∨ marks.get w = true := by
  have hit_iff : (component.any fun v => g.seeds.get v || g.leadsToMark marks v) = true ↔
      g.Hit marks component := by
    simp only [List.any_eq_true, Bool.or_eq_true, leadsToMark_iff, Hit]
  unfold markComponent
  split
  · next hit => rw [get_foldl_mark, and_iff_left (hit_iff.mp hit)]
  · next miss =>
    rw [← hit_iff]
    simp only [miss, Bool.false_eq_true, and_false, false_or]

/-- A strongly connected component whose edges lead into it or to nodes that are decided already is
hit if and only if its nodes have a path to a seed. -/
theorem hit_iff {decided : List (Fin n)} {v : Fin n} (mem : v ∈ component)
    (connected : ∀ u ∈ component, ∀ w ∈ component, g.Reaches u w)
    (closed : ∀ u ∈ component, ∀ w ∈ g.next u, w ∈ component ∨ w ∈ decided)
    (done : ∀ w, marks.get w = true ↔ w ∈ decided ∧ g.ReachesSeed w) :
    g.Hit marks component ↔ g.ReachesSeed v := by
  constructor
  · rintro ⟨u, inside, seed | ⟨w, edge, marked⟩⟩
    · exact (ReachesSeed.of_seed seed).of_reaches (connected v mem u inside)
    · have path := (connected v mem u inside).trans (Reaches.edge edge)
      exact ((done w).mp marked).2.of_reaches path
  · intro reaches
    by_contra miss
    -- Without a hit, no node of the component would have a path to a seed.
    refine reaches.closed (P := fun u => g.ReachesSeed u ∧ u ∉ component) ?_ ?_ |>.2 mem
    · exact fun u seed =>
        ⟨ReachesSeed.of_seed seed, fun inside => miss ⟨u, inside, Or.inl seed⟩⟩
    · rintro u w edge ⟨onward, outside⟩
      refine ⟨onward.of_reaches (Reaches.edge edge), fun inside => ?_⟩
      have before := (closed u inside w edge).resolve_left outside
      exact miss ⟨u, inside, Or.inr ⟨w, edge, (done w).mpr ⟨before, onward⟩⟩⟩

theorem get_markComponents_of_emitted {done : List (List (Fin n))}
    (emitted : Emitted g.toDigraph done) (v : Fin n) :
    (g.markComponents done.reverse).get v = true ↔ v ∈ done.flatten ∧ g.ReachesSeed v := by
  rw [markComponents, List.foldl_reverse]
  induction emitted generalizing v with
  | nil => simp
  | @cons component done _ _ _ connected closed _ ih =>
    rw [List.foldr_cons, get_markComponent, List.flatten_cons, List.mem_append, ih v]
    constructor
    · rintro (⟨inside, hit⟩ | ⟨before, reaches⟩)
      · exact ⟨Or.inl inside, (hit_iff inside connected closed ih).mp hit⟩
      · exact ⟨Or.inr before, reaches⟩
    · rintro ⟨inside | before, reaches⟩
      · exact Or.inl ⟨inside, (hit_iff inside connected closed ih).mpr reaches⟩
      · exact Or.inr ⟨before, reaches⟩

/-- Marking component by component, in the order of the search. -/
theorem get_markComponents (g : SeededGraph n) (v : Fin n) :
    (g.markComponents g.components).get v = true ↔ g.ReachesSeed v := by
  have emitted := Digraph.components_emitted g.toDigraph
  have all : v ∈ g.components.reverse.flatten :=
    (g.components.reverse_perm.flatten).mem_iff.mpr (Digraph.mem_components g.toDigraph v)
  have marked := get_markComponents_of_emitted emitted v
  rw [List.reverse_reverse] at marked
  rw [marked, and_iff_right all]

end Condensation

section Passes

variable {marks : Vector Bool n}

/-- The marks are right as far as they go: seeds are marked, and what is marked has a path. -/
structure Sound (g : SeededGraph n) (marks : Vector Bool n) : Prop where
  seeds : ∀ v, g.seeds.get v = true → marks.get v = true
  reaches : ∀ v, marks.get v = true → g.ReachesSeed v

theorem sound_seeds (g : SeededGraph n) : g.Sound g.seeds :=
  ⟨fun _ seed => seed, fun _ seed => ReachesSeed.of_seed seed⟩

/-- What a step over one node does: it changes nothing, or it marks an unmarked node. -/
theorem markNode_cases (g : SeededGraph n) (marks : Vector Bool n) (v : Fin n) :
    (g.markNode marks v = marks ∧ (g.leadsToMark marks v = true → marks.get v = true)) ∨
      (g.markNode marks v = mark marks v ∧ marks.get v = false ∧
        g.leadsToMark marks v = true) := by
  unfold markNode
  cases marked : marks.get v <;> cases leads : g.leadsToMark marks v <;> simp

theorem get_markNode_of_get {v w : Fin n} (marked : marks.get w = true) :
    (g.markNode marks v).get w = true := by
  rcases g.markNode_cases marks v with ⟨same, _⟩ | ⟨changed, _, _⟩
  · rw [same, marked]
  · rw [changed, get_mark, marked, Bool.or_true]

theorem Sound.markNode (sound : g.Sound marks) (v : Fin n) : g.Sound (g.markNode marks v) := by
  refine ⟨fun w seed => get_markNode_of_get (sound.seeds w seed), fun w marked => ?_⟩
  rcases g.markNode_cases marks v with ⟨same, _⟩ | ⟨changed, _, leads⟩
  · exact sound.reaches w (same ▸ marked)
  · rw [changed, get_mark, Bool.or_eq_true, decide_eq_true_eq] at marked
    rcases marked with rfl | old
    · obtain ⟨t, edge, target⟩ := (g.leadsToMark_iff marks w).mp leads
      exact (sound.reaches t target).of_reaches (Reaches.edge edge)
    · exact sound.reaches w old

/-- How many nodes are not marked. -/
def unmarked (marks : Vector Bool n) : Nat :=
  marks.countP (!·)

theorem unmarked_le (marks : Vector Bool n) : unmarked marks ≤ n :=
  Vector.countP_le_size

/-- What the steps over a list of nodes keep, and what they change. -/
structure Grown (g : SeededGraph n) (marks grown : Vector Bool n) (nodes : List (Fin n)) :
    Prop where
  sound : g.Sound grown
  kept : ∀ v, marks.get v = true → grown.get v = true
  led : ∀ v ∈ nodes, g.leadsToMark marks v = true → grown.get v = true
  fewer : grown = marks ∨ unmarked grown < unmarked marks

theorem grown_foldl (sound : g.Sound marks) (nodes : List (Fin n)) :
    g.Grown marks (nodes.foldl g.markNode marks) nodes := by
  induction nodes generalizing marks with
  | nil =>
    exact ⟨sound, fun v marked => marked, fun v mem => absurd mem List.not_mem_nil, Or.inl rfl⟩
  | cons node rest ih =>
    have later := ih (sound.markNode node)
    rw [List.foldl_cons]
    constructor
    case sound => exact later.sound
    case kept => exact fun v marked => later.kept v (get_markNode_of_get marked)
    case led =>
      intro v mem leads
      rcases List.mem_cons.mp mem with rfl | inRest
      · refine later.kept v ?_
        rcases g.markNode_cases marks v with ⟨same, already⟩ | ⟨changed, _, _⟩
        · rw [same]
          exact already leads
        · rw [changed, get_mark, decide_eq_true rfl, Bool.true_or]
      · refine later.led v inRest ?_
        obtain ⟨w, edge, marked⟩ := (g.leadsToMark_iff marks v).mp leads
        exact (g.leadsToMark_iff _ v).mpr ⟨w, edge, get_markNode_of_get marked⟩
    case fewer =>
      rcases g.markNode_cases marks node with ⟨same, _⟩ | ⟨changed, unset, _⟩
      · rw [same] at later ⊢
        exact later.fewer
      · refine Or.inr ?_
        have one : unmarked (g.markNode marks node) < unmarked marks := by
          rw [changed]
          exact countP_set_lt (!·) marks node true (by simp [unset]) rfl
        rcases later.fewer with none_more | more
        · rw [none_more]
          exact one
        · exact Nat.lt_trans more one

theorem grown_pass (sound : g.Sound marks) :
    g.Grown marks (g.pass marks) (List.finRange n) :=
  grown_foldl sound (List.finRange n)

/-- A pass that changes nothing has seen all marks. -/
theorem Sound.complete (sound : g.Sound marks) (still : g.pass marks = marks) (v : Fin n) :
    marks.get v = true ↔ g.ReachesSeed v := by
  refine ⟨sound.reaches v, fun reaches => ?_⟩
  refine reaches.closed (P := fun u => marks.get u = true) sound.seeds fun u w edge marked => ?_
  have leads : g.leadsToMark marks u = true := (g.leadsToMark_iff marks u).mpr ⟨w, edge, marked⟩
  have set := (grown_pass sound).led u (List.mem_finRange u) leads
  rwa [still] at set

/-- Each pass but the last marks a node, so passes that outnumber the unmarked nodes suffice. -/
theorem saturate_eq_some {limit : Nat} (sound : g.Sound marks) (enough : unmarked marks < limit) :
    ∃ result passes, g.saturate limit marks = some (result, passes) ∧
      ∀ v, result.get v = true ↔ g.ReachesSeed v := by
  induction limit generalizing marks with
  | zero => omega
  | succ limit ih =>
    have grown := grown_pass sound
    rw [saturate]
    by_cases still : g.pass marks = marks
    · refine ⟨g.pass marks, 1, if_pos still, fun v => ?_⟩
      rw [still]
      exact sound.complete still v
    · have fewer := grown.fewer.resolve_left still
      obtain ⟨result, passes, found, right⟩ := ih grown.sound (by omega)
      refine ⟨result, passes + 1, ?_, right⟩
      rw [if_neg still, found, Option.map_some]

theorem spread_eq_some (g : SeededGraph n) :
    ∃ result passes, g.spread (passLimit n) = some (result, passes) ∧
      ∀ v, result.get v = true ↔ g.ReachesSeed v :=
  saturate_eq_some (sound_seeds g) (Nat.lt_succ_of_le (unmarked_le g.seeds))

end Passes

end ServerSymbols.SeededGraph
