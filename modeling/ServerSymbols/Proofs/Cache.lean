import ServerSymbols.Proofs.Context

set_option autoImplicit false

/-
The cache of a run shows in no answer. Whether the analysis was made shows in the cache alone: the
first call makes it, so every later one finds it made.
-/
namespace ServerSymbols

namespace Query

variable {ε α β : Type} {r : Resolver}

/-- The query starts with the analysis, so it makes no difference to have analysed before. -/
def Analyses (r : Resolver) (query : Query ε α) : Prop :=
  ∀ cache found, r.Sound cache → r.analysis.compute = .ok found →
    query.answer cache = query.answer { cache with reachability := some found }

theorem Analyses.bind {query : Query ε α} (starts : Analyses r query) (next : α → Query ε β) :
    Analyses r (query >>= next) := by
  intro cache found sound computed
  rw [answer_bind, answer_bind, starts cache found sound computed]

theorem Analyses.mapError {ε' : Type} {query : Query ε α} (starts : Analyses r query)
    (f : ε → ε') : Analyses r (query.mapError f) := by
  intro cache found sound computed
  have same := starts cache found sound computed
  exact congrArg (fun left => (left.1.mapError f, left.2)) same

end Query

open Query

namespace Resolver

theorem analyses_result (r : Resolver) : Analyses r r.analysis.result := by
  intro cache found sound computed
  unfold Analysis.result
  rw [answer_get_bind, answer_get_bind]
  cases kept : cache.reachability with
  | none =>
    dsimp only
    rw [answer_bind, computed]
    rfl
  | some other =>
    have same : other = found :=
      Except.ok.inj ((sound.reachability other kept).symm.trans computed)
    rw [← same, ← kept]

theorem analyses_reaches (r : Resolver) (id : ShapeId) : Analyses r (r.analysis.reaches id) :=
  r.analyses_result.bind _

theorem analyses_resolve (r : Resolver) (id : ShapeId) : Analyses r (r.resolve id) :=
  (r.analyses_reaches id).bind _

variable {r : Resolver} {cache : Cache}

theorem keeps_found {found : Reachability} (computed : r.analysis.compute = .ok found) :
    r.Keeps (fun cache => r.Sound cache ∧ cache.reachability = some found) where
  sound := And.left
  analysed := fun holds again =>
    have same := Except.ok.inj (again.symm.trans computed)
    ⟨r.keeps_sound.analysed holds.1 again, congrArg some same⟩
  resolved := fun holds resolved => ⟨r.keeps_sound.resolved holds.1 resolved, holds.2⟩

theorem keepsAnalysis_symbols (r : Resolver) (symbols : List (ShapeId × Symbol)) :
    r.KeepsAnalysis (fun cache => r.Sound cache ∧ cache.symbols = symbols) where
  sound := And.left
  analysed := fun holds computed => ⟨r.keeps_sound.analysed holds.1 computed, holds.2⟩

/-- A shape that fails to resolve had no symbol kept, and none is added. -/
theorem symbols_of_error {id : ShapeId} {reason : SymbolError} (sound : r.Sound cache)
    (failed : ((r.symbol id).answer cache).1 = .error reason) :
    ((r.symbol id).answer cache).2.symbols = cache.symbols ∧
      ∀ symbol, (id, symbol) ∉ cache.symbols := by
  have plain : r.plainSymbol id = .error reason := (r.gives_symbol id cache sound).1 ▸ failed
  have absent : ∀ symbol, (id, symbol) ∉ cache.symbols := by
    intro symbol mem
    exact nomatch plain.symm.trans (sound.symbols (id, symbol) mem)
  refine ⟨?_, absent⟩
  have missed : cache.symbols.lookup id = none := by
    cases kept : cache.symbols.lookup id with
    | none => rfl
    | some found => exact nomatch plain.symm.trans (sound.lookup kept)
  obtain ⟨same, _, left⟩ :=
    (r.keepsAnalysis_symbols cache.symbols).gives_resolve id cache ⟨sound, rfl⟩
  unfold Resolver.symbol
  rw [answer_get_bind, missed]
  dsimp only
  rw [answer_bind]
  cases answered : (r.resolve id).answer cache with
  | mk result behind =>
    rw [answered] at same left
    obtain rfl : result = .error reason := same.trans plain
    exact left

end Resolver

namespace Context

variable {c : Context}

/-- With nothing kept, each call starts with the analysis. -/
theorem ask_fresh {found : Reachability} (computed : c.analysis.compute = .ok found)
    (call : Call) : c.ask call {} = c.ask call { reachability := some found } := by
  have sound := c.resolver.sound_empty
  have result := c.resolver.analyses_result
  cases call with
  | symbol id => exact (c.resolver.analyses_resolve id).bind _ {} found sound computed
  | wrappedType id => exact (c.resolver.analyses_reaches id).bind _ {} found sound computed
  | reaches id => exact c.resolver.analyses_reaches id {} found sound computed
  | analyze => exact result.bind _ {} found sound computed
  | rows onlyUnconstrained => exact (result.mapError _).bind _ {} found sound computed

theorem reachability_after {found : Reachability} (computed : c.analysis.compute = .ok found)
    {calls : List Call} (asked : calls ≠ []) : (c.after calls).reachability = some found := by
  cases calls with
  | nil => exact absurd rfl asked
  | cons call calls =>
    have keeps := Resolver.keeps_found (r := c.resolver) computed
    have start := c.resolver.keeps_sound.analysed c.resolver.sound_empty computed
    unfold after
    rw [List.foldl_cons, ask_fresh computed, ← List.foldl_cons]
    exact (foldl_of_keeps keeps (call :: calls) ⟨start, rfl⟩).2

/-- The analysis is made by the first call, whichever it is, if the service is accepted; and by
none if it is rejected. -/
theorem isComputed_after (c : Context) (calls : List Call) :
    (c.after calls).isComputed = true ↔
      calls ≠ [] ∧ ∃ closure, c.model.serviceClosure c.settings.service = .ok closure := by
  cases closed : c.model.serviceClosure c.settings.service with
  | error reason =>
    constructor
    · intro made
      obtain ⟨found, kept⟩ := Option.isSome_iff_exists.mp made
      have computed := (c.sound_after calls).reachability found kept
      exact nomatch (compute_of_rejected closed).symm.trans computed
    · rintro ⟨_, closure, accepted⟩
      cases accepted
  | ok closure =>
    obtain ⟨found, computed, _⟩ := compute_of_accepted closed
    constructor
    · intro made
      refine ⟨?_, closure, rfl⟩
      rintro rfl
      cases made
    · rintro ⟨asked, _⟩
      exact congrArg Option.isSome (reachability_after computed asked)

/-- No answer depends on what was asked before. The symbols kept are those that would be resolved
now or at any other time, a shape that fails to resolve leaves none, and the analysis is kept from
the first call on, unless the service is rejected. -/
theorem cache_unobservable (c : Context) (calls : List Call) :
    (∀ call, (c.ask call (c.after calls)).1 = (c.ask call {}).1) ∧
      (∀ id symbol, (id, symbol) ∈ (c.after calls).symbols →
        ∀ others, ((c.resolver.resolve id).answer (c.after others)).1 = .ok symbol) ∧
      (∀ id reason, (c.ask (.symbol id) (c.after calls)).1 = .error reason →
        (c.ask (.symbol id) (c.after calls)).2.symbols = (c.after calls).symbols ∧
          ∀ symbol, (id, symbol) ∉ (c.after calls).symbols) ∧
      ((c.after calls).isComputed = true ↔
        calls ≠ [] ∧ ∃ closure, c.model.serviceClosure c.settings.service = .ok closure) := by
  have keeps := c.resolver.keeps_sound
  have sound := c.sound_after calls
  refine ⟨fun call => ?_, fun id symbol mem others => ?_, fun id reason failed => ?_,
    c.isComputed_after calls⟩
  · have later := (ask_of_keeps keeps call sound).1
    have fresh := (ask_of_keeps keeps call c.resolver.sound_empty).1
    exact later.trans fresh.symm
  · have now := (keeps.gives_resolve id _ (c.sound_after others)).1
    exact now.trans (sound.symbols (id, symbol) mem)
  · exact Resolver.symbols_of_error sound failed

end Context

end ServerSymbols
