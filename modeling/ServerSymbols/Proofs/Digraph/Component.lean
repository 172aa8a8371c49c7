import ServerSymbols.Proofs.Digraph.Complete

set_option autoImplicit false

/-
The search for components as a whole: it visits every node, and what it completes are the classes
of nodes that reach one another.
-/
namespace ServerSymbols.Digraph

variable {n : Nat} {g : Digraph n}

namespace Search

/-- No search takes infinitely many steps. -/
theorem step?_wellFounded (g : Digraph n) :
    WellFounded fun s' s : Search n => s.step? g = some s' :=
  Subrelation.wf (fun step => step?_decreases step)
    (InvImage.wf (fun s : Search n => (s.index.countP Option.isNone, pending s.path))
      (Prod.lex ⟨_, Nat.lt_wfRel.wf⟩ ⟨_, Nat.lt_wfRel.wf⟩).wf)

theorem inv_step? {s s' : Search n} (inv : s.Inv g) (explored : s.Explored g)
    (step : s.step? g = some s') : s'.Inv g ∧ s'.Explored g := by
  unfold step? at step
  split at step
  · cases step
  · next v rest path =>
    cases step
    exact inv_leave inv explored path
  · next v w todo rest path =>
    cases step
    have advanced := inv.advance path
    have rest_explored := explored.advance path rfl
    have edge : w ∈ g.next v :=
      inv.todo ⟨v, w :: todo⟩ (path ▸ List.mem_cons_self) w List.mem_cons_self
    split
    · next new =>
      refine ⟨advanced.visit new (advanced.path_reaches rfl edge), ?_⟩
      refine explored_visit advanced new fun x mem t edge followed => ?_
      exact (rest_explored x mem t edge followed).imp_left And.right
    · next visited =>
      refine ⟨advanced.meet edge, fun x mem t edge followed => ?_⟩
      rw [stack_meet] at mem
      rw [Followed, path_meet] at followed
      rcases rest_explored x mem t edge followed with ⟨rfl, rfl⟩ | settled
      · exact settled_meet List.mem_cons_self (Bool.eq_false_iff.mpr visited)
      · exact settled.meet

theorem step?_eq_none {s : Search n} (stop : s.step? g = none) : s.path = [] := by
  unfold step? at stop
  split at stop
  · assumption
  · cases stop
  · cases stop

/-- A step forgets no visit. -/
theorem isNew_step? {s s' : Search n} {v : Fin n} (step : s.step? g = some s')
    (visited : s.isNew v = false) : s'.isNew v = false := by
  unfold step? at step
  split at step
  · cases step
  · cases step
    rw [isNew, index_leave]
    exact visited
  · cases step
    split
    · rw [isNew_visit]
      simp only [Bool.and_eq_false_iff]
      exact Or.inr visited
    · rw [isNew, index_meet]
      exact visited

theorem run_spec {s : Search n} (inv : s.Inv g) (explored : s.Explored g) :
    (s.run g).Inv g ∧ (s.run g).Explored g ∧ (s.run g).path = [] ∧
      ∀ v, s.isNew v = false → (s.run g).isNew v = false := by
  induction s using (step?_wellFounded g).induction with
  | h s ih =>
    rw [run]
    split
    · next stop => exact ⟨inv, explored, step?_eq_none stop, fun v visited => visited⟩
    · next s' step =>
      obtain ⟨inv', explored'⟩ := inv_step? inv explored step
      obtain ⟨last, all, path, kept⟩ := ih s' step inv' explored'
      exact ⟨last, all, path, fun v visited => kept v (isNew_step? step visited)⟩

/-- Nothing stays on the stack behind the path: the earliest node there would lead to one still
earlier. -/
theorem Inv.stack_eq_nil {s : Search n} (inv : s.Inv g) (path : s.path = []) : s.stack = [] := by
  have offPath : ∀ x, x ∉ s.nodes := by simp [nodes, path]
  have none_at : ∀ k x, s.num x = k → x ∉ s.stack := by
    intro k
    induction k using Nat.strongRecOn with
    | ind k ih =>
      intro x index mem
      obtain ⟨y, onStack, low, _⟩ := inv.low_reaches x mem
      have lower := inv.low_lt x mem (offPath x)
      exact ih (s.num y) (by omega) y rfl onStack
  exact List.eq_nil_iff_forall_not_mem.mpr fun x => none_at (s.num x) x rfl

/-- The search is between two roots. -/
structure Idle (g : Digraph n) (s : Search n) : Prop where
  inv : s.Inv g
  explored : s.Explored g
  path : s.path = []

theorem idle_start (g : Digraph n) : (start n).Idle g :=
  ⟨inv_start g, explored_start g, rfl⟩

theorem Idle.root {s : Search n} (idle : s.Idle g) (v : Fin n) :
    (s.root g v).Idle g ∧ (s.root g v).isNew v = false ∧
      ∀ w, s.isNew w = false → (s.root g v).isNew w = false := by
  have noPath : s.nodes = [] := by rw [nodes, idle.path]; rfl
  unfold Search.root
  split
  · next new =>
    have entered := idle.inv.visit new (by simp [noPath])
    have explored : (s.visit g v).Explored g :=
      explored_visit idle.inv new fun x mem t edge followed =>
        Or.inr (idle.explored x mem t edge followed)
    obtain ⟨inv, all, path, kept⟩ := run_spec entered explored
    refine ⟨⟨inv, all, path⟩, kept v (by simp [isNew_visit]), fun w visited => kept w ?_⟩
    simp [isNew_visit, visited]
  · next visited => exact ⟨idle, Bool.eq_false_iff.mpr visited, fun w old => old⟩

theorem Idle.roots {s : Search n} (idle : s.Idle g) (roots : List (Fin n)) :
    (roots.foldl (Search.root g) s).Idle g ∧
      ∀ v, v ∈ roots ∨ s.isNew v = false → (roots.foldl (Search.root g) s).isNew v = false := by
  induction roots generalizing s with
  | nil => exact ⟨idle, fun v visited => visited.resolve_left List.not_mem_nil⟩
  | cons root roots ih =>
    obtain ⟨next, entered, kept⟩ := idle.root root
    obtain ⟨last, all⟩ := ih next
    refine ⟨last, fun v visited => all v ?_⟩
    rcases visited with listed | old
    · rcases List.mem_cons.mp listed with rfl | later
      · exact Or.inr entered
      · exact Or.inl later
    · exact Or.inr (kept v old)

end Search

theorem components_emitted (g : Digraph n) : Emitted g g.components.reverse := by
  rw [components, List.reverse_reverse]
  exact ((Search.idle_start g).roots (List.finRange n)).1.inv.emitted

theorem mem_components (g : Digraph n) (v : Fin n) : v ∈ g.components.flatten := by
  obtain ⟨idle, visited⟩ := (Search.idle_start g).roots (List.finRange n)
  have complete := (idle.inv.visited_iff v).mp (visited v (Or.inl (List.mem_finRange v)))
  rw [idle.inv.stack_eq_nil idle.path] at complete
  obtain ⟨component, listed, mem⟩ := List.mem_flatten.mp (complete.resolve_left List.not_mem_nil)
  exact List.mem_flatten.mpr ⟨component, List.mem_reverse.mpr listed, mem⟩

namespace Emitted

variable {done : List (List (Fin n))}

/-- No component is empty, and each is ascending. -/
theorem each (emitted : Emitted g done) :
    ∀ component ∈ done, component ≠ [] ∧ component.Pairwise (· < ·) := by
  induction emitted with
  | nil => intro component mem; cases mem
  | cons nonempty ascending _ _ _ _ ih =>
    intro component mem
    rcases List.mem_cons.mp mem with rfl | earlier
    · exact ⟨nonempty, ascending⟩
    · exact ih component earlier

theorem nodup_flatten (emitted : Emitted g done) : done.flatten.Nodup := by
  induction emitted with
  | nil => exact List.nodup_nil
  | cons _ ascending apart _ _ _ ih =>
    rw [List.flatten_cons, List.nodup_append]
    refine ⟨ascending.imp fun lt => Fin.ne_of_lt lt, ih, ?_⟩
    intro v here w earlier same
    rw [← same] at earlier
    exact apart v here earlier

/-- Nodes of complete components are in one of them if and only if they reach one another. -/
theorem together_iff (emitted : Emitted g done) {v w : Fin n} (mem : v ∈ done.flatten) :
    (∃ component ∈ done, v ∈ component ∧ w ∈ component) ↔ g.Reaches v w ∧ g.Reaches w v := by
  induction emitted with
  | nil => cases mem
  | @cons component done _ _ apart connected closed earlier ih =>
    constructor
    · intro together
      obtain ⟨c, listed, memV, memW⟩ := together
      rcases List.mem_cons.mp listed with rfl | before
      · exact ⟨connected v memV w memW, connected w memW v memV⟩
      · have old : v ∈ done.flatten := List.mem_flatten.mpr ⟨c, before, memV⟩
        exact (ih old).mp ⟨c, before, memV, memW⟩
    · intro both
      obtain ⟨onward, back⟩ := both
      by_cases old : v ∈ done.flatten
      · obtain ⟨c, before, members⟩ := (ih old).mpr ⟨onward, back⟩
        exact ⟨c, List.mem_cons_of_mem _ before, members⟩
      · have here : v ∈ component := by
          rw [List.flatten_cons, List.mem_append] at mem
          exact mem.resolve_right old
        have reached : w ∈ component ∨ w ∈ done.flatten := by
          refine onward.closed (P := fun u => u ∈ component ∨ u ∈ done.flatten)
            (fun u inside t edge => ?_) (Or.inl here)
          rcases inside with inside | before
          · exact closed u inside t edge
          · exact Or.inr (earlier.closed_flatten u before t edge)
        rcases reached with inside | before
        · exact ⟨component, List.mem_cons_self, here, inside⟩
        · exact absurd (back.closed earlier.closed_flatten before) old

/-- No edge leads into a component that is completed later. -/
theorem pairwise_edges (emitted : Emitted g done) :
    done.Pairwise fun later earlier => ∀ v ∈ earlier, ∀ w ∈ g.next v, w ∉ later := by
  induction emitted with
  | nil => exact List.Pairwise.nil
  | @cons component done _ _ apart _ _ earlier ih =>
    refine List.pairwise_cons.mpr ⟨fun before listed v mem w edge here => ?_, ih⟩
    have complete : v ∈ done.flatten := List.mem_flatten.mpr ⟨before, listed, mem⟩
    exact apart w here (earlier.closed_flatten v complete w edge)

end Emitted

/-- The search stops, and its components are the classes of nodes that reach one another: every
node is in exactly one place, each component is ascending, and edges between different components
lead to the earlier one. -/
theorem components_classes (g : Digraph n) :
    (WellFounded fun s' s : Search n => s.step? g = some s') ∧
      (∀ component ∈ g.components, component ≠ []) ∧
      (∀ v, g.components.flatten.count v = 1) ∧
      (∀ v w, (∃ component ∈ g.components, v ∈ component ∧ w ∈ component) ↔
        g.Reaches v w ∧ g.Reaches w v) ∧
      (∀ component ∈ g.components, component.Pairwise (· < ·)) ∧
      ∀ i j : Fin g.components.length, i ≠ j →
        ∀ v ∈ g.components[i], ∀ w ∈ g.components[j], w ∈ g.next v → j < i := by
  have emitted := components_emitted g
  have mem_iff : ∀ component, component ∈ g.components.reverse ↔ component ∈ g.components :=
    fun component => List.mem_reverse
  refine ⟨Search.step?_wellFounded g, ?_, ?_, ?_, ?_, ?_⟩
  · intro component mem
    exact (emitted.each component ((mem_iff component).mpr mem)).1
  · intro v
    have nodup : g.components.flatten.Nodup :=
      (g.components.reverse_perm.flatten).nodup_iff.mp emitted.nodup_flatten
    exact List.count_eq_one_of_mem nodup (mem_components g v)
  · intro v w
    have mem : v ∈ g.components.reverse.flatten :=
      (g.components.reverse_perm.flatten).mem_iff.mpr (mem_components g v)
    rw [← emitted.together_iff mem]
    simp only [mem_iff]
  · intro component mem
    exact (emitted.each component ((mem_iff component).mpr mem)).2
  · intro i j different v memV w memW edge
    have ordered := List.pairwise_reverse.mp emitted.pairwise_edges
    rcases Nat.lt_trichotomy j.val i.val with earlier | same | later
    · exact earlier
    · exact absurd (Fin.ext same.symm) different
    · have apart := List.pairwise_iff_getElem.mp ordered i j i.isLt j.isLt later
      exact absurd memW (apart v memV w edge)

end ServerSymbols.Digraph
