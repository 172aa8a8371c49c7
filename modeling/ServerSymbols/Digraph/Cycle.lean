import ServerSymbols.Digraph.Basic

set_option autoImplicit false

/-
Finding a cycle by depth-first search.
-/
namespace ServerSymbols.Digraph

variable {n : Nat}

/-- The nodes of the path from `target` to its last node, and `target` again. The path has its
last node first. -/
def closeCycle (path : List (Fin n)) (target : Fin n) : List (Fin n) :=
  target :: (path.takeWhile (· != target)).reverse ++ [target]

/-- Follows the path until it is used up, or until an edge leads back to a node on it. -/
def searchCycle (g : Digraph n) (seen : Vector Bool n) (path : List (Visit n)) :
    Except (List (Fin n)) (Vector Bool n) :=
  match path with
  | [] => .ok seen
  | ⟨_, []⟩ :: rest => searchCycle g seen rest
  | ⟨v, w :: todo⟩ :: rest =>
    let nodes := v :: rest.map (·.node)
    if nodes.contains w then .error (closeCycle nodes w)
    else if _fresh : seen.get w = false then
      searchCycle g (seen.set w true w.isLt) (⟨w, g.next w⟩ :: ⟨v, todo⟩ :: rest)
    else searchCycle g seen (⟨v, todo⟩ :: rest)
termination_by (seen.countP (!·), pending path)
decreasing_by
  · apply Prod.Lex.right; simp
  · apply Prod.Lex.left; exact countP_set_lt (!·) seen w true (by simpa using _fresh) rfl
  · apply Prod.Lex.right; simp

/-- Searches from every node that was not seen before, in ascending order. -/
def searchRoots (g : Digraph n) : List (Fin n) → Vector Bool n → Except (List (Fin n)) (Vector Bool n)
  | [], seen => .ok seen
  | root :: roots, seen =>
    if seen.get root then searchRoots g roots seen
    else (searchCycle g (seen.set root true root.isLt) [⟨root, g.next root⟩]).bind (searchRoots g roots)

/-- The first cycle that the search closes; its first node stands at its end again. -/
def cycle? (g : Digraph n) : Option (List (Fin n)) :=
  match searchRoots g (List.finRange n) (Vector.replicate n false) with
  | .ok _ => none
  | .error cycle => some cycle

end ServerSymbols.Digraph
