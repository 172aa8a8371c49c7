import ServerSymbols.Symbol.Unconstrained
import ServerSymbols.Proofs.Model.Collection
import ServerSymbols.Proofs.Model.Bare

set_option autoImplicit false

/-
Base symbols, said without a bound on depth: collections ask for the symbols of what they hold, and
nothing else matters but the prefix of the runtime libraries.
-/
namespace ServerSymbols.BaseSymbols

/-- The symbol of a shape asks for types only if the shape is a collection, and only for those of
its targets. -/
theorem shapeSymbol_congr (runtime : RuntimeConfig) {shape : Shape}
    {typeOf other : ShapeId → Except SymbolError TypeExpr}
    (same : ∀ target, shape.isCollection = true → target ∈ shape.targets →
      typeOf target = other target) :
    shapeSymbol runtime shape typeOf = shapeSymbol runtime shape other := by
  unfold Shape.isCollection Shape.type Shape.targets at same
  unfold shapeSymbol
  cases kind : shape.kind with
  | list member | set member =>
    rw [kind] at same
    have item := same member.target rfl List.mem_cons_self
    simp only [item]
  | map key value =>
    rw [kind] at same
    have keys := same key.target rfl List.mem_cons_self
    have values := same value.target rfl (List.mem_cons_of_mem _ List.mem_cons_self)
    simp only [keys, values]
  | _ => rfl

/-- Within enough collections, one more level of depth changes nothing: no further collection can
stand inside them. -/
theorem symbolWithin_stable (b : BaseSymbols) {depth : Nat} {outer : List ShapeId} {id : ShapeId}
    (around : (outer ++ [id]).IsChain b.model.Holds)
    (enough : b.model.collectionCount ≤ outer.length + depth) :
    b.symbolWithin (depth + 1) id = b.symbolWithin (depth + 2) id := by
  induction depth generalizing outer id with
  | zero =>
    rw [symbolWithin, symbolWithin]
    cases found : b.model.get? id with
    | none => rfl
    | some shape =>
      refine shapeSymbol_congr b.runtime fun target collection listed => ?_
      have inner := Model.isChain_concat around ⟨shape, found, collection, listed⟩
      have bound := Model.length_le_of_isChain inner
      simp only [List.length_append, List.length_singleton] at bound
      omega
  | succ depth ih =>
    rw [symbolWithin, symbolWithin]
    cases found : b.model.get? id with
    | none => rfl
    | some shape =>
      refine shapeSymbol_congr b.runtime fun target collection listed => ?_
      have inner := Model.isChain_concat around ⟨shape, found, collection, listed⟩
      have room : b.model.collectionCount ≤ (outer ++ [id]).length + depth := by
        rw [List.length_append, List.length_singleton]
        omega
      rw [ih inner room]

/-- The symbol of a shape, given by the symbols of what it holds. -/
theorem symbol_eq (b : BaseSymbols) (id : ShapeId) :
    b.symbol id =
      match b.model.get? id with
      | none => .error (.unknownShape id)
      | some shape =>
        shapeSymbol b.runtime shape fun target => (b.symbol target).map (·.type) := by
  have room : b.model.collectionCount ≤ ([] : List ShapeId).length + b.model.collectionCount := by
    rw [List.length_nil]
    omega
  have stable := b.symbolWithin_stable (List.isChain_singleton id) room
  exact stable.trans (symbolWithin.eq_def b _ id)

section Runtime

variable {r r' : RuntimeConfig}

theorem primitiveType_runtime (same : r.cratePrefix = r'.cratePrefix) (kind : Primitive) :
    primitiveType r kind = primitiveType r' kind := by
  cases kind <;> simp only [primitiveType, RuntimeConfig.dataModule, same]

theorem shapeSymbol_runtime (same : r.cratePrefix = r'.cratePrefix) (shape : Shape)
    (typeOf : ShapeId → Except SymbolError TypeExpr) :
    shapeSymbol r shape typeOf = shapeSymbol r' shape typeOf := by
  unfold shapeSymbol
  cases shape.kind <;> simp only [primitiveType_runtime same]

theorem symbolWithin_runtime (same : r.cratePrefix = r'.cratePrefix) (m : Model) (depth : Nat) :
    (⟨m, r⟩ : BaseSymbols).symbolWithin depth = (⟨m, r'⟩ : BaseSymbols).symbolWithin depth := by
  induction depth with
  | zero => rfl
  | succ depth ih =>
    funext id
    rw [symbolWithin, symbolWithin, ih]
    cases m.get? id with
    | none => rfl
    | some shape => exact shapeSymbol_runtime same shape _

/-- Of the runtime's settings only the prefix of its libraries shows in symbols. -/
theorem symbol_runtime (same : r.cratePrefix = r'.cratePrefix) (m : Model) :
    (⟨m, r⟩ : BaseSymbols).symbol = (⟨m, r'⟩ : BaseSymbols).symbol := by
  funext id
  exact congrFun (symbolWithin_runtime same m _) id

end Runtime

section Collection

variable {b : BaseSymbols} {id : ShapeId} {shape : Shape} {symbol : Symbol}

theorem symbol_eq_sequence (b : BaseSymbols) {member : Member}
    (found : b.model.get? id = some shape)
    (kind : shape.kind = .list member ∨ shape.kind = .set member) :
    b.symbol id = (b.symbol member.target).map fun item => { type := .vec item.type } := by
  rw [symbol_eq, found]
  dsimp only
  unfold shapeSymbol
  rcases kind with kind | kind
  · rw [kind]
    dsimp only
    cases b.symbol member.target <;> rfl
  · rw [kind]
    dsimp only
    cases b.symbol member.target <;> rfl

theorem symbol_eq_map (b : BaseSymbols) {key value : Member}
    (found : b.model.get? id = some shape) (kind : shape.kind = .map key value) :
    b.symbol id = (b.symbol key.target).bind fun keys =>
      (b.symbol value.target).map fun values => { type := .map keys.type values.type } := by
  rw [symbol_eq, found]
  dsimp only
  unfold shapeSymbol
  rw [kind]
  dsimp only
  cases b.symbol key.target with
  | error reason => rfl
  | ok keys => cases b.symbol value.target <;> rfl

/-- The symbol of a list or set holds the type of its item's symbol. -/
theorem symbol_sequence {member : Member} (found : b.model.get? id = some shape)
    (kind : shape.kind = .list member ∨ shape.kind = .set member)
    (resolved : b.symbol id = .ok symbol) :
    ∃ item, b.symbol member.target = .ok item ∧ symbol = { type := .vec item.type } := by
  rw [b.symbol_eq_sequence found kind] at resolved
  cases item : b.symbol member.target with
  | error reason =>
    rw [item] at resolved
    cases resolved
  | ok item' =>
    rw [item] at resolved
    cases resolved
    exact ⟨item', rfl, rfl⟩

/-- The symbol of a map holds the types of its key's and its value's symbols. -/
theorem symbol_map {key value : Member} (found : b.model.get? id = some shape)
    (kind : shape.kind = .map key value) (resolved : b.symbol id = .ok symbol) :
    ∃ keys values, b.symbol key.target = .ok keys ∧ b.symbol value.target = .ok values ∧
      symbol = { type := .map keys.type values.type } := by
  rw [b.symbol_eq_map found kind] at resolved
  cases keys : b.symbol key.target with
  | error reason =>
    rw [keys] at resolved
    cases resolved
  | ok keys' =>
    cases values : b.symbol value.target with
    | error reason =>
      rw [keys, values] at resolved
      cases resolved
    | ok values' =>
      rw [keys, values] at resolved
      cases resolved
      exact ⟨keys', values', rfl, rfl, rfl⟩

end Collection

/-- The symbol of `id` is made from the symbol of `v`, at some depth. -/
def Visits (b : BaseSymbols) : ShapeId → ShapeId → Prop :=
  Relation.ReflTransGen b.model.Holds

section Bare

variable {s t : Shape} {m n : Model} {runtime : RuntimeConfig} {id : ShapeId}

theorem shapeSymbol_bare (runtime : RuntimeConfig) (s : Shape)
    (typeOf : ShapeId → Except SymbolError TypeExpr) :
    shapeSymbol runtime s.bare typeOf = shapeSymbol runtime s typeOf := by
  obtain ⟨id, kind, constraints⟩ := s
  cases kind <;> rfl

theorem unconstrainedSymbol_bare (b : BaseSymbols) (s : Shape) :
    b.unconstrainedSymbol s.bare = b.unconstrainedSymbol s := by
  obtain ⟨id, kind, constraints⟩ := s
  cases kind <;> rfl

/-- Of other shapes, an unconstrained symbol depends at most on the base symbol of its own. -/
theorem unconstrainedSymbol_of_bare {b b' : BaseSymbols} (same : s.bare = t.bare)
    (symbols : b.symbol s.id = b'.symbol s.id) :
    b.unconstrainedSymbol s = b'.unconstrainedSymbol t := by
  rw [← b'.unconstrainedSymbol_bare t, ← same, b'.unconstrainedSymbol_bare s]
  unfold unconstrainedSymbol
  rw [symbols]

/-- Nothing but the shapes that are visited matters for a symbol, and not their constraints. -/
theorem symbol_of_alike (alike : ∀ v, (mk m runtime).Visits id v → m.Alike n v) :
    (mk n runtime).symbol id = (mk m runtime).symbol id := by
  induction id using m.holds_wellFounded.induction with
  | _ id ih =>
    have here : m.Alike n id := alike id Relation.ReflTransGen.refl
    rw [symbol_eq, symbol_eq]
    dsimp only
    cases found : m.get? id with
    | none => rw [here.get?_eq_none found]
    | some shape =>
      obtain ⟨other, look, same⟩ := here.exists_get? found
      rw [look]
      dsimp only
      rw [← shapeSymbol_bare runtime other, same, shapeSymbol_bare]
      refine shapeSymbol_congr runtime fun target collection listed => ?_
      have holds : m.Holds id target := ⟨shape, found, collection, listed⟩
      rw [ih target holds fun v visits => alike v (Relation.ReflTransGen.head holds visits)]

end Bare

end ServerSymbols.BaseSymbols
