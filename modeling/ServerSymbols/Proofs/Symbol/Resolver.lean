import ServerSymbols.Symbol.Resolver

set_option autoImplicit false

/-
What the queries of a run answer, said without a cache. A cache is sound if all it holds is what
would be found afresh; then every query gives the plain answer, and leaves a sound cache.
-/
namespace ServerSymbols

namespace Query

variable {ε α β : Type}

theorem answer_bind (query : Query ε α) (next : α → Query ε β) (cache : Cache) :
    (query >>= next).answer cache =
      match query.answer cache with
      | (.ok value, cache) => (next value).answer cache
      | (.error reason, cache) => (.error reason, cache) := by
  unfold answer
  rw [ExceptT.run_bind, StateT.run_bind]
  cases query.run.run cache with
  | mk result cache => cases result <;> rfl

theorem answer_get_bind (next : Cache → Query ε β) (cache : Cache) :
    (get >>= next : Query ε β).answer cache = (next cache).answer cache := rfl

/-- From every cache with the property, the query gives this result and leaves such a cache. -/
def Gives (ok : Cache → Prop) (query : Query ε α) (result : Except ε α) : Prop :=
  ∀ cache, ok cache → (query.answer cache).1 = result ∧ ok (query.answer cache).2

variable {ok : Cache → Prop}

theorem gives_pure (value : α) : Gives ok (pure value : Query ε α) (.ok value) :=
  fun _ holds => ⟨rfl, holds⟩

theorem gives_throw (reason : ε) : Gives ok (throw reason : Query ε α) (.error reason) :=
  fun _ holds => ⟨rfl, holds⟩

theorem gives_ofExcept (result : Except ε α) : Gives ok (ofExcept result) result :=
  fun _ holds => ⟨rfl, holds⟩

theorem Gives.mapError {ε' : Type} {query : Query ε α} {result : Except ε α} (f : ε → ε')
    (gives : Gives ok query result) : Gives ok (query.mapError f) (result.mapError f) := by
  intro cache holds
  obtain ⟨same, kept⟩ := gives cache holds
  exact ⟨congrArg (Except.mapError f) same, kept⟩

theorem Gives.bind {query : Query ε α} {result : Except ε α} {next : α → Query ε β}
    {nextResult : α → Except ε β} (gives : Gives ok query result)
    (after : ∀ value, result = .ok value → Gives ok (next value) (nextResult value)) :
    Gives ok (query >>= next) (result >>= nextResult) := by
  intro cache holds
  obtain ⟨same, kept⟩ := gives cache holds
  rw [answer_bind]
  cases answered : query.answer cache with
  | mk got left =>
    rw [answered] at same kept
    cases got with
    | ok value =>
      subst same
      exact after value rfl left kept
    | error reason =>
      subst same
      exact ⟨rfl, kept⟩

end Query

open Query

/-- Whether a shape of the service reaches a constrained one, analysed afresh. -/
def Analysis.plainReaches (a : Analysis) (id : ShapeId) : Except SymbolError Bool := do
  match (← a.compute).reaches? id with
  | some answer => .ok answer
  | none => .error (.unknownShape id)

namespace Resolver

/-- The symbol of a shape, resolved afresh. -/
def plainSymbol (r : Resolver) (id : ShapeId) : Except SymbolError Symbol := do
  if ← r.analysis.plainReaches id then
    let shape ← r.expectShape id
    r.base.unconstrainedSymbol shape
  else r.base.symbol id

/-- What the unconstrained type of a collection holds, resolved afresh. -/
def plainWrapped (r : Resolver) (id : ShapeId) : Except SymbolError (Option TypeExpr) := do
  if !(← r.analysis.plainReaches id) then return none
  let shape ← r.expectShape id
  match shape.kind with
  | .list member | .set member =>
    let item ← r.plainSymbol member.target
    return some (.vec item.type)
  | .map key value =>
    let keySymbol ← r.plainSymbol key.target
    let valueSymbol ← r.plainSymbol value.target
    return some (.map keySymbol.type valueSymbol.type)
  | _ => return none

/-- The cache holds nothing but what would be found afresh. -/
structure Sound (r : Resolver) (cache : Cache) : Prop where
  reachability : ∀ found, cache.reachability = some found → r.analysis.compute = .ok found
  symbols : ∀ entry ∈ cache.symbols, r.plainSymbol entry.1 = .ok entry.2

/-- A property of sound caches, kept when the result of the analysis is added. -/
structure KeepsAnalysis (r : Resolver) (ok : Cache → Prop) : Prop where
  sound : ∀ {cache}, ok cache → r.Sound cache
  analysed : ∀ {cache found}, ok cache → r.analysis.compute = .ok found →
    ok { cache with reachability := some found }

/-- Such a property, also kept when a symbol is added that was resolved. -/
structure Keeps (r : Resolver) (ok : Cache → Prop) : Prop extends r.KeepsAnalysis ok where
  resolved : ∀ {cache id found}, ok cache → r.plainSymbol id = .ok found →
    ok { cache with symbols := (id, found) :: cache.symbols }

theorem sound_empty (r : Resolver) : r.Sound {} where
  reachability := fun _ found => nomatch found
  symbols := fun _ mem => absurd mem List.not_mem_nil

theorem keeps_sound (r : Resolver) : r.Keeps r.Sound where
  sound := id
  analysed := by
    intro cache found sound computed
    refine ⟨fun other same => ?_, sound.symbols⟩
    cases same
    exact computed
  resolved := by
    intro cache id found sound resolved
    refine ⟨sound.reachability, fun entry mem => ?_⟩
    rcases List.mem_cons.mp mem with rfl | old
    · exact resolved
    · exact sound.symbols entry old

variable {r : Resolver} {ok : Cache → Prop}

/-- A kept symbol is the one that would be resolved. -/
theorem Sound.lookup {cache : Cache} (sound : r.Sound cache) {id : ShapeId} {found : Symbol}
    (kept : cache.symbols.lookup id = some found) : r.plainSymbol id = .ok found := by
  obtain ⟨before, after, split, _⟩ := List.lookup_eq_some_iff.mp kept
  have mem : (id, found) ∈ cache.symbols := split ▸ List.mem_append_right _ List.mem_cons_self
  exact sound.symbols (id, found) mem

theorem KeepsAnalysis.gives_result (keeps : r.KeepsAnalysis ok) :
    Gives ok r.analysis.result r.analysis.compute := by
  intro cache holds
  unfold Analysis.result
  rw [answer_get_bind]
  cases kept : cache.reachability with
  | some found => exact ⟨((keeps.sound holds).reachability found kept).symm, holds⟩
  | none =>
    dsimp only
    rw [answer_bind]
    cases computed : r.analysis.compute with
    | error reason => exact ⟨rfl, holds⟩
    | ok found => exact ⟨rfl, keeps.analysed holds computed⟩

theorem KeepsAnalysis.gives_reaches (keeps : r.KeepsAnalysis ok) (id : ShapeId) :
    Gives ok (r.analysis.reaches id) (r.analysis.plainReaches id) := by
  refine keeps.gives_result.bind fun found _ => ?_
  cases found.reaches? id with
  | some answer => exact gives_pure answer
  | none => exact gives_throw _

theorem KeepsAnalysis.gives_resolve (keeps : r.KeepsAnalysis ok) (id : ShapeId) :
    Gives ok (r.resolve id) (r.plainSymbol id) := by
  refine (keeps.gives_reaches id).bind fun reaches _ => ?_
  cases reaches with
  | true => exact (gives_ofExcept _).bind fun shape _ => gives_ofExcept _
  | false => exact gives_ofExcept _

theorem Keeps.gives_symbol (keeps : r.Keeps ok) (id : ShapeId) :
    Gives ok (r.symbol id) (r.plainSymbol id) := by
  intro cache holds
  unfold Resolver.symbol
  rw [answer_get_bind]
  cases kept : cache.symbols.lookup id with
  | some found => exact ⟨((keeps.sound holds).lookup kept).symm, holds⟩
  | none =>
    dsimp only
    obtain ⟨same, left⟩ := keeps.gives_resolve id cache holds
    rw [answer_bind]
    cases answered : (r.resolve id).answer cache with
    | mk result cache =>
      rw [answered] at same left
      cases result with
      | error reason => exact ⟨same, left⟩
      | ok found => exact ⟨same, keeps.resolved left same.symm⟩

theorem Keeps.gives_wrappedType (keeps : r.Keeps ok) (id : ShapeId) :
    Gives ok (r.wrappedType id) (r.plainWrapped id) := by
  refine (keeps.gives_reaches id).bind fun reaches _ => ?_
  cases reaches with
  | false => exact gives_pure none
  | true =>
    refine (gives_ofExcept _).bind fun shape _ => ?_
    cases shape.kind with
    | list member | set member =>
      exact (keeps.gives_symbol member.target).bind fun item _ => gives_pure _
    | map key value =>
      exact (keeps.gives_symbol key.target).bind fun _ _ =>
        (keeps.gives_symbol value.target).bind fun _ _ => gives_pure _
    | _ => exact gives_pure none

theorem gives_symbol (r : Resolver) (id : ShapeId) :
    Gives r.Sound (r.symbol id) (r.plainSymbol id) :=
  r.keeps_sound.gives_symbol id

end Resolver

end ServerSymbols
