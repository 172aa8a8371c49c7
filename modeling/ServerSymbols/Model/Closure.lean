import ServerSymbols.Model.Basic
import ServerSymbols.Identifier

set_option autoImplicit false

/-
The shapes that a shape leads to, in the order of a depth-first search that follows references in
declaration order.
-/
namespace ServerSymbols

structure Closure where
  root : ShapeId
  ids : List ShapeId

namespace Closure

abbrev size (c : Closure) : Nat :=
  c.ids.length

def get (c : Closure) (i : Fin c.size) : ShapeId :=
  c.ids.get i

def contains (c : Closure) (id : ShapeId) : Bool :=
  id ∈ c.ids

def indexOf? (c : Closure) (id : ShapeId) : Option (Fin c.size) :=
  c.ids.finIdxOf? id

end Closure

theorem countP_lt_of_imp {α : Type} {p q : α → Bool} {xs : List α} (imp : ∀ x ∈ xs, p x → q x)
    {x : α} (mem : x ∈ xs) (notp : p x = false) (isq : q x = true) : xs.countP p < xs.countP q := by
  induction xs with
  | nil => contradiction
  | cons y ys ih =>
    rw [List.countP_cons, List.countP_cons]
    have tail : ys.countP p ≤ ys.countP q :=
      List.countP_mono_left fun z h => imp z (List.mem_cons_of_mem _ h)
    rcases List.mem_cons.mp mem with rfl | later
    · simp only [notp, isq, Bool.false_eq_true, ite_false, ite_true]; omega
    · have lt := ih (fun z h => imp z (List.mem_cons_of_mem _ h)) later
      have head := imp y List.mem_cons_self
      by_cases hp : p y = true
      · rw [if_pos hp, if_pos (head hp)]; omega
      · rw [if_neg hp]; split <;> omega

namespace Model

/-- How many shapes of the model are not visited. -/
def unvisited (m : Model) (visited : List ShapeId) : Nat :=
  m.shapes.countP fun shape => shape.id ∉ visited

theorem unvisited_append_lt {m : Model} {id : ShapeId} {shape : Shape} {visited : List ShapeId}
    (fresh : id ∉ visited) (found : m.get? id = some shape) :
    m.unvisited (visited ++ [id]) < m.unvisited visited := by
  have eq : shape.id = id := by simpa using List.find?_some found
  refine countP_lt_of_imp ?_ (List.mem_of_find?_eq_some found) ?_ ?_
  · intro s _; simp only [List.mem_append, decide_eq_true_eq]; exact fun h => fun mem => h (.inl mem)
  · simp [eq]
  · simpa [eq] using fresh

/-- Visits the shapes on the stack and what they refer to. A shape may be on the stack more than
once; only its first visit counts. -/
def walkFrom (m : Model) (stack visited : List ShapeId) : Except ModelError (List ShapeId) :=
  match stack with
  | [] => .ok visited
  | id :: stack =>
    if _fresh : id ∈ visited then m.walkFrom stack visited
    else
      match _found : m.get? id with
      | none => .error (.unknownShape id)
      | some shape => m.walkFrom (shape.refs ++ stack) (visited ++ [id])
termination_by (m.unvisited visited, stack.length)
decreasing_by
  · apply Prod.Lex.right; simp
  · apply Prod.Lex.left; exact unvisited_append_lt _fresh _found

/-- How many shapes a walk expects on its stack. -/
def stackRoom : Nat := 64

/-- Every shape that `root` leads to, itself included. -/
def walk (m : Model) (root : ShapeId) : Except ModelError Closure :=
  (m.walkFrom [root] []).map (⟨root, ·⟩)

/-- Shapes with the same key would get the same name in generated code: letter case and
separators do not tell names apart. -/
def nameKey (id : ShapeId) : List Char :=
  (Identifier.snake id.name.toList).filter (· != '_')

/-- The first id with the same key as an earlier one, behind that earlier one. -/
def firstClash? (seen : List ShapeId) : List ShapeId → Option (ShapeId × ShapeId)
  | [] => none
  | id :: rest =>
    match seen.find? (nameKey · == nameKey id) with
    | some first => some (first, id)
    | none => firstClash? (seen ++ [id]) rest

/-- What a service leads to. No two of these shapes, but for those of the prelude, may get the
same name. -/
def serviceClosure (m : Model) (service : ShapeId) : Except ModelError Closure := do
  let _ ← m.expectService service
  let closure ← m.walk service
  match firstClash? [] (closure.ids.filter (!·.isPrelude)) with
  | some (first, second) => .error (.conflictingNames first second)
  | none => .ok closure

end Model

end ServerSymbols
