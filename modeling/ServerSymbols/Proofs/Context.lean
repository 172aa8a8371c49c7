import ServerSymbols.Proofs.Reachability
import ServerSymbols.Proofs.Table.Row

set_option autoImplicit false

/-
What a run can be asked, one call after the other. No call makes the cache unsound, so a later
answer is what a fresh run would give.
-/
namespace ServerSymbols

open Query

/-- What a run can be asked. Whether a shape is unconstrained is whether it reaches a constrained
one. -/
inductive Call where
  | symbol (id : ShapeId)
  | wrappedType (id : ShapeId)
  | reaches (id : ShapeId)
  | analyze
  | rows (onlyUnconstrained : Bool)

def Call.Answer : Call → Type
  | symbol _ => Except SymbolError Symbol
  | wrappedType _ => Except SymbolError (Option TypeExpr)
  | reaches _ => Except SymbolError Bool
  | analyze => Except SymbolError Unit
  | rows _ => Except Table.RowError (List Table.Row)

namespace Context

theorem compute_eq (c : Context) :
    c.analysis.compute =
      ((c.model.serviceClosure c.settings.service).mapError .ofModel).bind
        (Reachability.compute c.model · c.settings.codegen.strategy) := rfl

theorem compute_of_rejected {c : Context} {reason : ModelError}
    (rejected : c.model.serviceClosure c.settings.service = .error reason) :
    c.analysis.compute = .error (.ofModel reason) := by
  rw [c.compute_eq, rejected]
  rfl

/-- What the analysis of an accepted service knows: the groups of its closure, and of each shape
whether it reaches a constrained one. -/
structure Analysed (c : Context) (closure : Closure) (result : Reachability) : Prop where
  computed : c.analysis.compute = .ok result
  closure_eq : result.closure = closure
  cycles_eq : result.cycles = closure.cycles c.model
  reaches : ∀ id ∈ closure.ids, result.reaches? id = some true ↔ c.model.ReachesConstrained id

theorem exists_analysed {c : Context} {closure : Closure}
    (found : c.model.serviceClosure c.settings.service = .ok closure) :
    ∃ result, c.Analysed closure result := by
  have closed := Model.serviceClosure_closed found
  obtain ⟨marks, passes, computed, _⟩ :=
    Reachability.compute_eq_ok closed c.settings.codegen.strategy
  refine ⟨_, ?_, rfl, rfl, fun id mem => Reachability.reaches?_of_compute closed computed mem⟩
  rw [c.compute_eq, found]
  exact computed

/-- The analysis of a service succeeds if the service is accepted, and knows of each of its shapes
whether it reaches a constrained one. -/
theorem compute_of_accepted {c : Context} {closure : Closure}
    (found : c.model.serviceClosure c.settings.service = .ok closure) :
    ∃ result, c.analysis.compute = .ok result ∧ result.closure = closure ∧
      ∀ id ∈ closure.ids, result.reaches? id = some true ↔ c.model.ReachesConstrained id := by
  obtain ⟨result, analysed⟩ := exists_analysed found
  exact ⟨result, analysed.computed, analysed.closure_eq, analysed.reaches⟩

/-- The answer to a call, and the cache behind it. -/
def ask (c : Context) : (call : Call) → Cache → call.Answer × Cache
  | .symbol id => (c.resolver.symbol id).answer
  | .wrappedType id => (c.resolver.wrappedType id).answer
  | .reaches id => (c.analysis.reaches id).answer
  | .analyze => (do let _ ← c.analysis.result : Query SymbolError Unit).answer
  | .rows onlyUnconstrained => (Table.rows c onlyUnconstrained).answer

/-- The answer to a call, found afresh. -/
def plainAnswer (c : Context) : (call : Call) → call.Answer
  | .symbol id => c.resolver.plainSymbol id
  | .wrappedType id => c.resolver.plainWrapped id
  | .reaches id => c.analysis.plainReaches id
  | .analyze => do let _ ← c.analysis.compute
  | .rows onlyUnconstrained => Table.plainRows c onlyUnconstrained

/-- The cache of a run after these calls. -/
def after (c : Context) (calls : List Call) : Cache :=
  calls.foldl (fun cache call => (c.ask call cache).2) {}

section Keeps

variable {c : Context} {ok : Cache → Prop} {cache : Cache}

/-- A call answers as if afresh, and keeps what the analysis and symbols that are added keep. -/
theorem ask_of_keeps (keeps : c.resolver.Keeps ok) (call : Call) (holds : ok cache) :
    (c.ask call cache).1 = c.plainAnswer call ∧ ok (c.ask call cache).2 := by
  cases call with
  | symbol id => exact keeps.gives_symbol id cache holds
  | wrappedType id => exact keeps.gives_wrappedType id cache holds
  | reaches id => exact keeps.gives_reaches id cache holds
  | analyze => exact (keeps.gives_result.bind fun _ _ => gives_pure ()) cache holds
  | rows onlyUnconstrained => exact Table.gives_rows_of_keeps keeps onlyUnconstrained cache holds

theorem foldl_of_keeps (keeps : c.resolver.Keeps ok) (calls : List Call) (holds : ok cache) :
    ok (calls.foldl (fun cache call => (c.ask call cache).2) cache) := by
  induction calls generalizing cache with
  | nil => exact holds
  | cons call calls ih => exact ih (ask_of_keeps keeps call holds).2

end Keeps

theorem sound_after (c : Context) (calls : List Call) : c.resolver.Sound (c.after calls) :=
  foldl_of_keeps c.resolver.keeps_sound calls c.resolver.sound_empty

end Context

end ServerSymbols
