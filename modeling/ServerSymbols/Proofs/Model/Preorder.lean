import ServerSymbols.Proofs.Model.Walk

set_option autoImplicit false

/-
The order of a walk. The walk keeps what is still to be visited on a stack, where a shape may stand
more than once; yet it visits in the order of the recursive depth-first search.
-/
namespace ServerSymbols.Model

variable {m : Model}

theorem unvisited_le_of_subset (m : Model) {visited more : List ShapeId} (subset : visited ⊆ more) :
    m.unvisited more ≤ m.unvisited visited := by
  apply List.countP_mono_left
  intro shape _ fresh
  simp only [decide_eq_true_eq] at fresh ⊢
  exact fun old => fresh (subset old)

/-- The recursive depth-first search from these shapes, one after the other, behind the shapes that
were visited before. A shape that is visited comes before all that its references lead to, and these
before the next shape; a shape that was visited before is skipped, and so is one that is not
defined. -/
def search (m : Model) (visited : List ShapeId) : List ShapeId → { after // visited <+: after }
  | [] => ⟨visited, List.prefix_rfl⟩
  | id :: ids =>
    if _fresh : id ∈ visited then m.search visited ids
    else
      match _found : m.get? id with
      | none => m.search visited ids
      | some shape =>
        let inner := m.search (visited ++ [id]) shape.refs
        let rest := m.search inner.val ids
        ⟨rest.val, ((List.prefix_append visited [id]).trans inner.property).trans rest.property⟩
termination_by ids => (m.unvisited visited, ids.length)
decreasing_by
  · apply Prod.Lex.right; simp
  · apply Prod.Lex.right; simp
  · apply Prod.Lex.left; exact unvisited_append_lt _fresh _found
  · apply Prod.Lex.left
    have grown := m.unvisited_le_of_subset inner.property.subset
    exact Nat.lt_of_le_of_lt grown (unvisited_append_lt _fresh _found)

/-- The preorder of the recursive depth-first search from one shape. -/
def preorder (m : Model) (root : ShapeId) : List ShapeId :=
  (m.search [] [root]).val

section Walk

variable {id : ShapeId} {shape : Shape} {stack visited : List ShapeId}

theorem walkFrom_of_visited (old : id ∈ visited) :
    m.walkFrom (id :: stack) visited = m.walkFrom stack visited := by
  rw [walkFrom, dif_pos old]

theorem walkFrom_of_fresh (fresh : id ∉ visited) (found : m.get? id = some shape) :
    m.walkFrom (id :: stack) visited = m.walkFrom (shape.refs ++ stack) (visited ++ [id]) := by
  rw [walkFrom, dif_neg fresh]
  split
  · next missing =>
    rw [found] at missing
    cases missing
  · next other same =>
    rw [found] at same
    cases same
    rfl

/-- A walk takes what stands first on its stack as the recursive search does, and then goes on with
the rest of the stack. -/
theorem walkFrom_append {ids : List ShapeId}
    (defined : ∀ id ∈ ids, ∃ shape, m.get? id = some shape) (stack : List ShapeId) :
    m.walkFrom (ids ++ stack) visited = m.walkFrom stack (m.search visited ids).val := by
  fun_induction search m visited ids generalizing stack with
  | case1 visited => rfl
  | case2 visited id ids old ih =>
    have later : ∀ other ∈ ids, ∃ shape, m.get? other = some shape :=
      fun other mem => defined other (List.mem_cons_of_mem id mem)
    rw [List.cons_append, walkFrom_of_visited old]
    exact ih later stack
  | case3 visited id ids fresh missing =>
    obtain ⟨shape, found⟩ := defined id List.mem_cons_self
    rw [missing] at found
    cases found
  | case4 visited id ids fresh shape found inner rest ihInner ihRest =>
    have refs : ∀ ref ∈ shape.refs, ∃ target, m.get? ref = some target :=
      fun ref mem => exists_get?_of_ref found mem
    have later : ∀ other ∈ ids, ∃ shape, m.get? other = some shape :=
      fun other mem => defined other (List.mem_cons_of_mem id mem)
    -- The references stand on the stack before the shapes that come after `id`.
    rw [List.cons_append, walkFrom_of_fresh fresh found, ihInner refs (ids ++ stack),
      ihRest later stack]

/-- The search skips shapes that were visited, so it does not matter whether they are asked for. -/
theorem search_filter {ids seen : List ShapeId} (old : seen ⊆ visited) :
    (m.search visited (ids.filter (· ∉ seen))).val = (m.search visited ids).val := by
  induction ids generalizing visited with
  | nil => rfl
  | cons id ids ih =>
    by_cases dropped : id ∈ seen
    · have kept : (id :: ids).filter (· ∉ seen) = ids.filter (· ∉ seen) := by simp [dropped]
      rw [kept, ih old, search, dif_pos (old dropped)]
    · have kept : (id :: ids).filter (· ∉ seen) = id :: ids.filter (· ∉ seen) := by simp [dropped]
      rw [kept, search, search]
      by_cases visitedBefore : id ∈ visited
      · rw [dif_pos visitedBefore, dif_pos visitedBefore]
        exact ih old
      · rw [dif_neg visitedBefore, dif_neg visitedBefore]
        split
        · exact ih old
        · next shape _ =>
          have inner := (m.search (visited ++ [id]) shape.refs).property
          have before : visited ⊆ visited ++ [id] := List.subset_append_left visited [id]
          exact ih fun x mem => inner.subset (before (old mem))

/-- Shapes that were visited may be left off the stack. -/
theorem walkFrom_filter {ids : List ShapeId}
    (defined : ∀ id ∈ ids, ∃ shape, m.get? id = some shape) (stack : List ShapeId) :
    m.walkFrom (ids.filter (· ∉ visited) ++ stack) visited = m.walkFrom (ids ++ stack) visited := by
  have fewer : ∀ id ∈ ids.filter (· ∉ visited), ∃ shape, m.get? id = some shape :=
    fun id mem => defined id (List.mem_of_mem_filter mem)
  rw [walkFrom_append fewer stack, walkFrom_append defined stack,
    search_filter (List.Subset.refl visited)]

end Walk

theorem walkFrom_of_walk {root : ShapeId} {c : Closure} (walked : m.walk root = .ok c) :
    m.walkFrom [root] [] = .ok c.ids := by
  unfold walk at walked
  cases visits : m.walkFrom [root] [] with
  | error reason =>
    rw [visits] at walked
    cases walked
  | ok ids =>
    rw [visits] at walked
    cases walked
    rfl

/-- What a walk finds is its root's preorder. -/
theorem ids_eq_preorder {root : ShapeId} {c : Closure} (walked : m.walk root = .ok c) :
    c.ids = m.preorder root := by
  have defined : ∀ id ∈ [root], ∃ shape, m.get? id = some shape := by
    obtain ⟨_, mem, closed⟩ := walk_closed walked
    obtain ⟨shape, found, _⟩ := closed.refs root mem
    intro id listed
    rw [List.mem_singleton.mp listed]
    exact ⟨shape, found⟩
  have searched : m.walkFrom ([root] ++ []) [] = m.walkFrom [] (m.search [] [root]).val :=
    walkFrom_append defined []
  rw [List.append_nil, walkFrom_of_walk walked, walkFrom] at searched
  exact Except.ok.inj searched

theorem preorder_eq_cons {root : ShapeId} (defined : ∃ shape, m.get? root = some shape) :
    ∃ later, m.preorder root = root :: later := by
  obtain ⟨shape, found⟩ := defined
  unfold preorder
  rw [search, dif_neg List.not_mem_nil]
  split
  · next missing =>
    rw [found] at missing
    cases missing
  · next other _ =>
    have first := (m.search ([] ++ [root]) other.refs).property
    have rest := (m.search (m.search ([] ++ [root]) other.refs).val []).property
    obtain ⟨later, same⟩ := first.trans rest
    exact ⟨later, same.symm⟩

/-- The shape `id` refers to this one. -/
def RefStep (m : Model) (id ref : ShapeId) : Prop :=
  ∃ shape, m.get? id = some shape ∧ ref ∈ shape.refs

/-- A path of zero or more references. -/
def RefPath (m : Model) : ShapeId → ShapeId → Prop :=
  Relation.ReflTransGen m.RefStep

/-- A walk visits nothing but what references lead to from its stack. -/
theorem refPath_of_walkFrom {stack visited ids : List ShapeId}
    (walked : m.walkFrom stack visited = .ok ids) :
    ∀ id ∈ ids, id ∈ visited ∨ ∃ start ∈ stack, m.RefPath start id := by
  fun_induction walkFrom m stack visited with
  | case1 visited =>
    cases walked
    exact fun id mem => Or.inl mem
  | case2 visited top stack old ih =>
    intro id mem
    rcases ih walked id mem with before | ⟨start, listed, path⟩
    · exact Or.inl before
    · exact Or.inr ⟨start, List.mem_cons_of_mem top listed, path⟩
  | case3 visited top stack fresh missing =>
    cases walked
  | case4 visited top stack fresh shape found ih =>
    intro id mem
    rcases ih walked id mem with before | ⟨start, listed, path⟩
    · rcases List.mem_append.mp before with old | here
      · exact Or.inl old
      · have same := List.mem_singleton.mp here
        exact Or.inr ⟨top, List.mem_cons_self, same ▸ Relation.ReflTransGen.refl⟩
    · rcases List.mem_append.mp listed with ref | later
      · have step : m.RefStep top start := ⟨shape, found, ref⟩
        exact Or.inr ⟨top, List.mem_cons_self, Relation.ReflTransGen.head step path⟩
      · exact Or.inr ⟨start, List.mem_cons_of_mem top later, path⟩

/-- A closure holds whatever references lead to from its shapes. -/
theorem mem_of_refPath {c : Closure} (closed : c.Closed m) {id last : ShapeId} (mem : id ∈ c.ids)
    (path : m.RefPath id last) : last ∈ c.ids := by
  induction path with
  | refl => exact mem
  | tail _ step ih =>
    obtain ⟨shape, found, listed⟩ := step
    obtain ⟨known, look, refs⟩ := closed.refs _ ih
    rw [look] at found
    cases found
    exact refs _ listed

theorem mem_walk_iff {root id : ShapeId} {c : Closure} (walked : m.walk root = .ok c) :
    id ∈ c.ids ↔ m.RefPath root id := by
  obtain ⟨_, mem, closed⟩ := walk_closed walked
  constructor
  · intro listed
    rcases refPath_of_walkFrom (walkFrom_of_walk walked) id listed with before | ⟨start, single, path⟩
    · exact absurd before List.not_mem_nil
    · rw [List.mem_singleton.mp single] at path
      exact path
  · exact mem_of_refPath closed mem

/-- A walk from a shape that is not defined fails, and names the shape. From any other it succeeds:
it finds each shape that references lead to from the root once and no other, all that its shapes
refer to among them, and it finds them in the order of the recursive depth-first search, with the
root first. -/
theorem walk_eq_preorder (m : Model) (root : ShapeId) :
    m.contains root = false ∧ m.walk root = .error (.unknownShape root) ∨
      m.contains root = true ∧ ∃ c, m.walk root = .ok c ∧ c.root = root ∧
        c.ids = m.preorder root ∧ (∃ later, c.ids = root :: later) ∧ c.ids.Nodup ∧
        (∀ id, id ∈ c.ids ↔ m.RefPath root id) ∧
        ∀ id ∈ c.ids, ∃ shape, m.get? id = some shape ∧ ∀ ref ∈ shape.refs, ref ∈ c.ids := by
  cases found : m.get? root with
  | none =>
    have missing : m.contains root = false := by rw [contains, found]; rfl
    exact Or.inl ⟨missing, walk_undefined found⟩
  | some shape =>
    have defined : ∃ shape, m.get? root = some shape := ⟨shape, found⟩
    obtain ⟨c, walked, same, _, closed⟩ := walk_ok defined
    have ordered := ids_eq_preorder walked
    have first : ∃ later, c.ids = root :: later := ordered ▸ preorder_eq_cons defined
    exact Or.inr ⟨contains_iff.mpr defined, c, walked, same, ordered, first, closed.nodup,
      fun id => mem_walk_iff walked, closed.refs⟩

end ServerSymbols.Model
