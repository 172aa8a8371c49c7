import ServerSymbols.Digraph.Cycle
import ServerSymbols.Proofs.Digraph.Path

set_option autoImplicit false

/-
A search for cycles that finds none has left every node after all its targets, so no path goes on
for ever.
-/
namespace ServerSymbols.Digraph

variable {n : Nat} {g : Digraph n}

/-- Every path from the node ends. -/
def Grounded (g : Digraph n) (v : Fin n) : Prop :=
  Acc (fun target source => target ∈ g.next source) v

/-- The targets of the nodes on the path are still to be followed, are grounded, or come next on
the path; `above` comes next after its last node. -/
def Trail (g : Digraph n) : Option (Fin n) → List (Visit n) → Prop
  | _, [] => True
  | above, ⟨v, todo⟩ :: rest =>
    (∀ w ∈ g.next v, w ∈ todo ∨ g.Grounded w ∨ above = some w) ∧ Trail g (some v) rest

theorem Trail.of_grounded {v : Fin n} {path : List (Visit n)} (grounded : g.Grounded v)
    (trail : g.Trail (some v) path) : g.Trail none path := by
  cases path with
  | nil => trivial
  | cons visit rest =>
    refine ⟨fun w edge => ?_, trail.2⟩
    rcases trail.1 w edge with pending | known | above
    · exact Or.inl pending
    · exact Or.inr (Or.inl known)
    · cases above
      exact Or.inr (Or.inl grounded)

/-- The state of the search: what was seen and is no longer on the path is grounded. -/
structure Tracked (g : Digraph n) (seen : Vector Bool n) (path : List (Visit n)) : Prop where
  seen : ∀ v, seen.get v = true → v ∈ path.map (·.node) ∨ g.Grounded v
  trail : g.Trail none path

/-- A search that meets no cycle grounds all it has seen, and forgets nothing. -/
theorem searchCycle_ok {seen seen' : Vector Bool n} {path : List (Visit n)}
    (tracked : g.Tracked seen path) (found : g.searchCycle seen path = .ok seen') :
    (∀ v, seen'.get v = true → g.Grounded v) ∧ ∀ v, seen.get v = true → seen'.get v = true := by
  fun_induction searchCycle g seen path with
  | case1 seen =>
    cases found
    exact ⟨fun v old => (tracked.seen v old).resolve_left List.not_mem_nil, fun v old => old⟩
  | case2 seen v rest ih =>
    have grounded : g.Grounded v := by
      refine Acc.intro v fun w edge => ?_
      rcases tracked.trail.1 w edge with pending | known | above
      · cases pending
      · exact known
      · cases above
    refine ih ⟨fun w old => ?_, tracked.trail.2.of_grounded grounded⟩ found
    rcases tracked.seen w old with onPath | known
    · rcases List.mem_cons.mp onPath with rfl | earlier
      · exact Or.inr grounded
      · exact Or.inl earlier
    · exact Or.inr known
  | case3 seen v w todo rest nodes onPath =>
    have same : nodes = v :: rest.map (·.node) := by simp [nodes]
    dsimp only at found
    rw [← same, if_pos onPath] at found
    cases found
  | case4 seen v w todo rest nodes offPath fresh ih =>
    have entered : g.Tracked (seen.set w true w.isLt) (⟨w, g.next w⟩ :: ⟨v, todo⟩ :: rest) := by
      refine ⟨fun u old => ?_, fun t edge => Or.inl edge, fun t edge => ?_, tracked.trail.2⟩
      · rw [get_set] at old
        split at old
        · next same => exact Or.inl (same ▸ List.mem_cons_self)
        · rcases tracked.seen u old with onPath | known
          · exact Or.inl (List.mem_cons_of_mem w onPath)
          · exact Or.inr known
      · rcases tracked.trail.1 t edge with pending | known | above
        · rcases List.mem_cons.mp pending with rfl | later
          · exact Or.inr (Or.inr rfl)
          · exact Or.inl later
        · exact Or.inr (Or.inl known)
        · cases above
    have same : nodes = v :: rest.map (·.node) := by simp [nodes]
    dsimp only at found
    rw [← same, if_neg offPath, dif_pos fresh] at found
    obtain ⟨grounded, kept⟩ := ih entered found
    refine ⟨grounded, fun u old => kept u ?_⟩
    rw [get_set, old, ite_self]
  | case5 seen v w todo rest nodes offPath visited ih =>
    have known : g.Grounded w := by
      refine (tracked.seen w (by simpa using visited)).resolve_left fun onPath => ?_
      exact offPath (by simpa [nodes] using onPath)
    have same : nodes = v :: rest.map (·.node) := by simp [nodes]
    dsimp only at found
    rw [← same, if_neg offPath, dif_neg visited] at found
    refine ih ⟨tracked.seen, fun t edge => ?_, tracked.trail.2⟩ found
    rcases tracked.trail.1 t edge with pending | grounded | above
    · rcases List.mem_cons.mp pending with rfl | later
      · exact Or.inr (Or.inl known)
      · exact Or.inl later
    · exact Or.inr (Or.inl grounded)
    · cases above

theorem searchRoots_ok {roots : List (Fin n)} {seen seen' : Vector Bool n}
    (old : ∀ v, seen.get v = true → g.Grounded v) (found : g.searchRoots roots seen = .ok seen') :
    ∀ v, v ∈ roots ∨ seen.get v = true → g.Grounded v := by
  induction roots generalizing seen with
  | nil => exact fun v mem => old v (mem.resolve_left List.not_mem_nil)
  | cons root roots ih =>
    rw [searchRoots] at found
    split at found
    · next visited =>
      intro v mem
      rcases mem with listed | before
      · rcases List.mem_cons.mp listed with rfl | later
        · exact old v visited
        · exact ih old found v (Or.inl later)
      · exact old v before
    · cases searched : g.searchCycle (seen.set root true root.isLt) [⟨root, g.next root⟩] with
      | error cycle =>
        rw [searched] at found
        cases found
      | ok next =>
        rw [searched] at found
        have tracked : g.Tracked (seen.set root true root.isLt) [⟨root, g.next root⟩] := by
          refine ⟨fun v set => ?_, fun t edge => Or.inl edge, trivial⟩
          rw [get_set] at set
          split at set
          · next same => exact Or.inl (same ▸ List.mem_cons_self)
          · exact Or.inr (old v set)
        obtain ⟨grounded, kept⟩ := searchCycle_ok tracked searched
        intro v mem
        rcases mem with listed | before
        · rcases List.mem_cons.mp listed with rfl | later
          · exact grounded v (kept v (by rw [get_set, if_pos rfl]))
          · exact ih grounded found v (Or.inl later)
        · exact old v before

/-- Without a cycle, every path ends. -/
theorem grounded_of_cycle?_eq_none (none_found : g.cycle? = none) (v : Fin n) : g.Grounded v := by
  unfold cycle? at none_found
  split at none_found
  · next seen found =>
    refine searchRoots_ok (fun w set => ?_) found v (Or.inl (List.mem_finRange v))
    rw [get_replicate] at set
    cases set
  · cases none_found

end ServerSymbols.Digraph
