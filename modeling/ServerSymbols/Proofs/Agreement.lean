import ServerSymbols.Proofs.Symbol.Outcome

set_option autoImplicit false

/-
Runs that answer alike. What a run says of a shape depends on whether the shape reaches a
constrained one, on the base symbol of the shape and on the shape itself, but for its constraints.
Two runs that agree on these for all shapes of one closure cannot be told apart by what they answer.
-/
namespace ServerSymbols

/-! ### Analyses -/

namespace Closure

variable {m n : Model} {c : Closure} {id : ShapeId}

theorem memberEdges_alike (alike : m.Alike n id) : memberEdges n c id = memberEdges m c id := by
  unfold memberEdges
  cases found : m.get? id with
  | none => rw [alike.get?_eq_none found]
  | some shape =>
    obtain ⟨other, look, same⟩ := alike.exists_get? found
    rw [look]
    dsimp only
    rw [Shape.isData_of_bare same, Shape.targets_of_bare same]

theorem toDigraph_memberGraph_alike (alike : ∀ id ∈ c.ids, m.Alike n id) :
    (c.memberGraph n).toDigraph = (c.memberGraph m).toDigraph := by
  have edges : (fun i => memberEdges n c (c.get i)) = fun i => memberEdges m c (c.get i) :=
    funext fun i => memberEdges_alike (alike _ (c.get_mem i))
  unfold memberGraph
  rw [edges]

/-- Constraints do not show in the groups of a closure. -/
theorem cycles_alike (alike : ∀ id ∈ c.ids, m.Alike n id) : c.cycles n = c.cycles m := by
  unfold cycles
  rw [toDigraph_memberGraph_alike alike]

theorem memberGraph_alike (alike : ∀ id ∈ c.ids, m.Alike n id)
    (constrained : ∀ id ∈ c.ids, n.IsConstrained id ↔ m.IsConstrained id) :
    c.memberGraph n = c.memberGraph m := by
  have edges := congrArg Digraph.edges (toDigraph_memberGraph_alike alike)
  have seeds : (c.memberGraph n).seeds = (c.memberGraph m).seeds := by
    apply ext_get
    intro i
    apply Bool.eq_iff_iff.mpr
    rw [seed_iff, seed_iff]
    exact constrained _ (c.get_mem i)
  rw [SeededGraph.mk.injEq, Digraph.mk.injEq]
  exact ⟨edges, seeds⟩

end Closure

/-- The analysis of a closure depends on nothing but its own shapes. -/
theorem Reachability.compute_alike {m n : Model} {c : Closure} (closed : c.Closed m)
    (alike : ∀ id ∈ c.ids, m.Alike n id)
    (constrained : ∀ id ∈ c.ids, n.IsConstrained id ↔ m.IsConstrained id) (strategy : Strategy) :
    compute n c strategy = compute m c strategy := by
  have known {k : Model} (defined : ∀ id ∈ c.ids, ∃ shape, k.get? id = some shape) :
      c.ids.find? (!k.contains ·) = none := by
    apply List.find?_eq_none.mpr
    intro id mem
    simp [Model.contains_iff.mpr (defined id mem)]
  have defined : ∀ id ∈ c.ids, ∃ shape, m.get? id = some shape := by
    intro id mem
    obtain ⟨shape, found, _⟩ := closed.refs id mem
    exact ⟨shape, found⟩
  have defined' : ∀ id ∈ c.ids, ∃ shape, n.get? id = some shape := by
    intro id mem
    obtain ⟨shape, found⟩ := defined id mem
    obtain ⟨other, look, _⟩ := (alike id mem).exists_get? found
    exact ⟨other, look⟩
  unfold compute
  rw [known defined, known defined', Closure.memberGraph_alike alike constrained]

/-! ### Wrappers -/

namespace Shape

/-- What the wrapper of a shape holds, made from the symbols of what the shape holds. -/
def held (symbolOf : ShapeId → Except SymbolError Symbol) (shape : Shape) :
    Except SymbolError (Option TypeExpr) := do
  match shape.kind with
  | .list member | .set member =>
    let item ← symbolOf member.target
    return some (.vec item.type)
  | .map key value =>
    let keySymbol ← symbolOf key.target
    let valueSymbol ← symbolOf value.target
    return some (.map keySymbol.type valueSymbol.type)
  | _ => return none

theorem held_bare (symbolOf : ShapeId → Except SymbolError Symbol) (shape : Shape) :
    shape.bare.held symbolOf = shape.held symbolOf := by
  obtain ⟨id, kind, constraints⟩ := shape
  cases kind <;> rfl

theorem held_congr {symbolOf other : ShapeId → Except SymbolError Symbol} {shape : Shape}
    (same : ∀ target, shape.isCollection = true → target ∈ shape.targets →
      symbolOf target = other target) : shape.held symbolOf = shape.held other := by
  unfold isCollection type targets at same
  unfold held
  cases kind : shape.kind with
  | list member | set member =>
    rw [kind] at same
    simp only [same member.target rfl List.mem_cons_self]
  | map key value =>
    rw [kind] at same
    have keys := same key.target rfl List.mem_cons_self
    have values := same value.target rfl (List.mem_cons_of_mem _ List.mem_cons_self)
    simp only [keys, values]
  | _ => rfl

end Shape

theorem Resolver.plainWrapped_eq (r : Resolver) (id : ShapeId) :
    r.plainWrapped id = (do
      if !(← r.analysis.plainReaches id) then return none
      (← r.expectShape id).held r.plainSymbol) := rfl

/-! ### Rows -/

namespace Table

variable {c : Context} {id : ShapeId} {shape : Shape}
variable (r : Reachability) (onlyUnconstrained : Bool) (rest : List ShapeId)

theorem plainRowsOf_of_missing (missing : c.model.get? id = none) :
    plainRowsOf c r onlyUnconstrained (id :: rest) = .error (.symbol (.unknownShape id)) := by
  unfold plainRowsOf
  rw [Context.expectShape_of_missing missing]
  rfl

theorem plainRowsOf_of_other (look : c.model.get? id = some shape) (other : shape.isData = false) :
    plainRowsOf c r onlyUnconstrained (id :: rest) = plainRowsOf c r onlyUnconstrained rest := by
  rw [plainRowsOf, Context.expectShape_of_get? look]
  simp only [Except.mapError, bind, Except.bind, other]
  cases plainRowsOf c r onlyUnconstrained rest <;> rfl

theorem plainRowsOf_of_data (look : c.model.get? id = some shape) (data : shape.isData = true) :
    plainRowsOf c r onlyUnconstrained (id :: rest) =
      (plainRow? c.resolver r onlyUnconstrained shape).bind fun first =>
        (plainRowsOf c r onlyUnconstrained rest).map (first.toList ++ ·) := by
  rw [plainRowsOf, Context.expectShape_of_get? look]
  simp only [Except.mapError, bind, Except.bind, data, ↓reduceIte]
  rfl

end Table

namespace Context

variable {c d : Context} {closure : Closure} {id : ShapeId}

/-! ### Answers -/

/-- What was asked before shows in no answer. -/
theorem ask_after (c : Context) (call : Call) (calls : List Call) :
    (c.ask call (c.after calls)).1 = c.plainAnswer call :=
  (ask_of_keeps c.resolver.keeps_sound call (c.sound_after calls)).1

/-- Whatever each of the runs was asked before, they give the same answer to the call. -/
def SameAnswer (c d : Context) (call : Call) : Prop :=
  ∀ calls others : List Call, (c.ask call (c.after calls)).1 = (d.ask call (d.after others)).1

theorem sameAnswer_iff {call : Call} :
    c.SameAnswer d call ↔ c.plainAnswer call = d.plainAnswer call := by
  constructor
  · intro same
    have start := same [] []
    rwa [ask_after, ask_after] at start
  · intro same calls others
    rw [ask_after, ask_after, same]

/-! ### What is known of one shape -/

theorem mem_of_plainReaches {answer : Bool} (reached : c.analysis.plainReaches id = .ok answer) :
    ∃ closure, c.model.serviceClosure c.settings.service = .ok closure ∧ id ∈ closure.ids := by
  cases found : c.model.serviceClosure c.settings.service with
  | error reason =>
    rw [plainReaches_of_rejected found] at reached
    cases reached
  | ok closure =>
    refine ⟨closure, rfl, ?_⟩
    by_contra outside
    rw [plainReaches_of_outside found outside] at reached
    cases reached

/-- Runs whose closures share a shape know alike whether it reaches a constrained one. -/
theorem plainReaches_congr {closure' : Closure}
    (found : c.model.serviceClosure c.settings.service = .ok closure)
    (found' : d.model.serviceClosure d.settings.service = .ok closure') (mem : id ∈ closure.ids)
    (mem' : id ∈ closure'.ids)
    (reaches : c.model.ReachesConstrained id ↔ d.model.ReachesConstrained id) :
    c.analysis.plainReaches id = d.analysis.plainReaches id := by
  obtain ⟨answer, reached, right⟩ := plainReaches_eq found mem
  obtain ⟨answer', reached', right'⟩ := plainReaches_eq found' mem'
  have same : answer = answer' := Bool.eq_iff_iff.mpr (right.trans (reaches.trans right'.symm))
  rw [reached, reached', same]

theorem plainWrapped_of_error {reason : SymbolError}
    (unknown : c.analysis.plainReaches id = .error reason) :
    c.resolver.plainWrapped id = .error reason := by
  unfold Resolver.plainWrapped
  rw [show c.resolver.analysis.plainReaches id = .error reason from unknown]
  rfl

theorem plainWrapped_of_free (free : c.analysis.plainReaches id = .ok false) :
    c.resolver.plainWrapped id = .ok none := by
  unfold Resolver.plainWrapped
  rw [show c.resolver.analysis.plainReaches id = .ok false from free]
  rfl

/-- Two runs know the same of a shape. -/
structure AgreeOn (c d : Context) (id : ShapeId) : Prop where
  reaches : c.analysis.plainReaches id = d.analysis.plainReaches id
  alike : c.model.Alike d.model id
  base : c.base.symbol id = d.base.symbol id

theorem AgreeOn.plainSymbol (agree : c.AgreeOn d id) :
    c.resolver.plainSymbol id = d.resolver.plainSymbol id := by
  have reaches : c.resolver.analysis.plainReaches id = d.resolver.analysis.plainReaches id :=
    agree.reaches
  have base : c.resolver.base.symbol id = d.resolver.base.symbol id := agree.base
  unfold Resolver.plainSymbol
  rw [reaches, base]
  cases found : c.model.get? id with
  | none =>
    rw [expectShape_of_missing found, expectShape_of_missing (agree.alike.get?_eq_none found)]
    simp only [bind, Except.bind]
  | some shape =>
    obtain ⟨other, look, same⟩ := agree.alike.exists_get? found
    have symbols : c.resolver.base.symbol shape.id = d.resolver.base.symbol shape.id := by
      rw [Model.id_of_get? found, base]
    have relaxed := BaseSymbols.unconstrainedSymbol_of_bare same.symm symbols
    rw [expectShape_of_get? found, expectShape_of_get? look]
    simp only [bind, Except.bind, relaxed]

theorem AgreeOn.plainWrapped (agree : c.AgreeOn d id)
    (inner : ∀ v, c.model.Holds id v → c.resolver.plainSymbol v = d.resolver.plainSymbol v) :
    c.resolver.plainWrapped id = d.resolver.plainWrapped id := by
  have reaches : c.resolver.analysis.plainReaches id = d.resolver.analysis.plainReaches id :=
    agree.reaches
  rw [Resolver.plainWrapped_eq, Resolver.plainWrapped_eq, reaches]
  cases found : c.model.get? id with
  | none =>
    rw [expectShape_of_missing found, expectShape_of_missing (agree.alike.get?_eq_none found)]
    simp only [bind, Except.bind]
  | some shape =>
    obtain ⟨other, look, same⟩ := agree.alike.exists_get? found
    have held : shape.held c.resolver.plainSymbol = other.held d.resolver.plainSymbol := by
      rw [← other.held_bare, same, shape.held_bare]
      exact Shape.held_congr fun v collection listed => inner v ⟨shape, found, collection, listed⟩
    rw [expectShape_of_get? found, expectShape_of_get? look]
    simp only [bind, Except.bind, held]

/-! ### What is known of a whole closure -/

/-- Two runs for one closure that know the same of each of its shapes. -/
structure Agree (c d : Context) : Prop where
  closure : c.model.serviceClosure c.settings.service = d.model.serviceClosure d.settings.service
  shapes : ∀ closure, c.model.serviceClosure c.settings.service = .ok closure →
    ∀ id ∈ closure.ids, c.AgreeOn d id

section Agree

variable (agree : c.Agree d)
include agree

theorem Agree.plainReaches (id : ShapeId) :
    c.analysis.plainReaches id = d.analysis.plainReaches id := by
  cases found : c.model.serviceClosure c.settings.service with
  | error reason =>
    rw [plainReaches_of_rejected found, plainReaches_of_rejected (agree.closure ▸ found)]
  | ok closure =>
    by_cases mem : id ∈ closure.ids
    · exact (agree.shapes closure found id mem).reaches
    · rw [plainReaches_of_outside found mem, plainReaches_of_outside (agree.closure ▸ found) mem]

theorem Agree.plainSymbol (id : ShapeId) :
    c.resolver.plainSymbol id = d.resolver.plainSymbol id := by
  have reaches := agree.plainReaches id
  cases reached : c.analysis.plainReaches id with
  | error reason =>
    rw [plainSymbol_of_error reached, plainSymbol_of_error (reaches ▸ reached)]
  | ok answer =>
    obtain ⟨closure, found, mem⟩ := mem_of_plainReaches reached
    exact (agree.shapes closure found id mem).plainSymbol

theorem Agree.plainWrapped (id : ShapeId) :
    c.resolver.plainWrapped id = d.resolver.plainWrapped id := by
  have reaches := agree.plainReaches id
  cases reached : c.analysis.plainReaches id with
  | error reason =>
    rw [plainWrapped_of_error reached, plainWrapped_of_error (reaches ▸ reached)]
  | ok answer =>
    obtain ⟨closure, found, mem⟩ := mem_of_plainReaches reached
    exact (agree.shapes closure found id mem).plainWrapped fun v _ => agree.plainSymbol v

theorem Agree.analysed (found : c.model.serviceClosure c.settings.service = .ok closure) :
    ∃ r r', c.Analysed closure r ∧ d.Analysed closure r' ∧ r.cycles = r'.cycles := by
  obtain ⟨r, analysed⟩ := exists_analysed found
  obtain ⟨r', analysed'⟩ := exists_analysed (agree.closure ▸ found)
  refine ⟨r, r', analysed, analysed', ?_⟩
  rw [analysed.cycles_eq, analysed'.cycles_eq]
  exact (Closure.cycles_alike fun id mem => (agree.shapes closure found id mem).alike).symm

/-! ### Tables -/

theorem Agree.plainRow? {r r' : Reachability} {shape shape' : Shape} (onlyUnconstrained : Bool)
    (cycles : r.cycles = r'.cycles) (same : shape.bare = shape'.bare) :
    Table.plainRow? c.resolver r onlyUnconstrained shape =
      Table.plainRow? d.resolver r' onlyUnconstrained shape' := by
  have groups : r.cycleOf? = r'.cycleOf? := by
    funext id
    simp only [Reachability.cycleOf?, cycles]
  simp only [Table.plainRow?, groups, agree.plainSymbol, agree.plainWrapped,
    Shape.id_of_bare same, Shape.type_of_bare same]

theorem Agree.plainRowsOf {r r' : Reachability} {ids : List ShapeId} (onlyUnconstrained : Bool)
    (cycles : r.cycles = r'.cycles) (alike : ∀ id ∈ ids, c.model.Alike d.model id) :
    Table.plainRowsOf c r onlyUnconstrained ids = Table.plainRowsOf d r' onlyUnconstrained ids := by
  induction ids with
  | nil => rfl
  | cons id rest ih =>
    have later := ih fun v mem => alike v (List.mem_cons_of_mem id mem)
    have here := alike id List.mem_cons_self
    cases found : c.model.get? id with
    | none =>
      rw [Table.plainRowsOf_of_missing r _ rest found,
        Table.plainRowsOf_of_missing r' _ rest (here.get?_eq_none found)]
    | some shape =>
      obtain ⟨other, look, same⟩ := here.exists_get? found
      have row := agree.plainRow? onlyUnconstrained cycles same.symm
      have kinds : other.isData = shape.isData := Shape.isData_of_bare same
      cases data : shape.isData with
      | false =>
        rw [Table.plainRowsOf_of_other r _ rest found data,
          Table.plainRowsOf_of_other r' _ rest look (kinds.trans data), later]
      | true =>
        rw [Table.plainRowsOf_of_data r _ rest found data,
          Table.plainRowsOf_of_data r' _ rest look (kinds.trans data), row, later]

theorem Agree.plainRows (onlyUnconstrained : Bool) :
    Table.plainRows c onlyUnconstrained = Table.plainRows d onlyUnconstrained := by
  unfold Table.plainRows
  cases found : c.model.serviceClosure c.settings.service with
  | error reason =>
    rw [compute_of_rejected found, compute_of_rejected (agree.closure ▸ found)]
    simp only [Except.mapError, bind, Except.bind]
  | ok closure =>
    obtain ⟨r, r', analysed, analysed', cycles⟩ := agree.analysed found
    have alike : ∀ id ∈ closure.ids, c.model.Alike d.model id :=
      fun id mem => (agree.shapes closure found id mem).alike
    have rows := agree.plainRowsOf onlyUnconstrained cycles alike
    rw [analysed.computed, analysed'.computed]
    simp only [Except.mapError, bind, Except.bind, analysed.closure_eq, analysed'.closure_eq, rows]

/-- Runs that agree give the same answer to every call. -/
theorem Agree.sameAnswer (call : Call) : c.SameAnswer d call := by
  apply sameAnswer_iff.mpr
  cases call with
  | symbol id => exact agree.plainSymbol id
  | wrappedType id => exact agree.plainWrapped id
  | reaches id => exact agree.plainReaches id
  | rows onlyUnconstrained => exact agree.plainRows onlyUnconstrained
  | analyze =>
    unfold plainAnswer
    cases found : c.model.serviceClosure c.settings.service with
    | error reason =>
      rw [compute_of_rejected found, compute_of_rejected (agree.closure ▸ found)]
    | ok closure =>
      obtain ⟨r, r', analysed, analysed', _⟩ := agree.analysed found
      rw [analysed.computed, analysed'.computed]
      rfl

end Agree

/-! ### Two models -/

/-- What differs between the models does not show in runs with these settings: the service leads to
the same shapes in both, which are alike, and of which the same are constrained. -/
structure Unseen (m n : Model) (s : Settings) : Prop where
  closures : n.serviceClosure s.service = m.serviceClosure s.service
  shapes : ∀ closure, m.serviceClosure s.service = .ok closure → ∀ id ∈ closure.ids,
    m.Alike n id ∧ (n.IsConstrained id ↔ m.IsConstrained id)

variable {m n : Model} {s : Settings}

theorem Unseen.compute (unseen : Unseen m n s) :
    (Context.mk n s).analysis.compute = (Context.mk m s).analysis.compute := by
  cases found : m.serviceClosure s.service with
  | error reason =>
    have found' := unseen.closures.trans found
    rw [compute_of_rejected (c := ⟨m, s⟩) found, compute_of_rejected (c := ⟨n, s⟩) found']
  | ok closure =>
    have shapes := unseen.shapes closure found
    have same := Reachability.compute_alike (Model.serviceClosure_closed found)
      (fun id mem => (shapes id mem).1) (fun id mem => (shapes id mem).2) s.codegen.strategy
    rw [compute_eq, compute_eq]
    dsimp only
    rw [unseen.closures, found]
    exact same

/-- The symbol of a shape is made from shapes of the same closure. -/
theorem mem_of_visits {b : BaseSymbols} {v : ShapeId} (closed : closure.Closed b.model)
    (mem : id ∈ closure.ids) (visits : b.Visits id v) : v ∈ closure.ids := by
  have path : b.model.MemberPath id v :=
    Relation.ReflTransGen.mono (fun _ _ => Model.Holds.step) _ _ visits
  exact closed.path mem path

theorem Unseen.agree (unseen : Unseen m n s) : (Context.mk m s).Agree (Context.mk n s) := by
  refine ⟨unseen.closures.symm, fun closure found id mem => ?_⟩
  have shapes := unseen.shapes closure found
  constructor
  case reaches =>
    unfold Analysis.plainReaches
    rw [unseen.compute]
  case alike => exact (shapes id mem).1
  case base =>
    have closed : closure.Closed m := Model.serviceClosure_closed found
    have symbols :
        (BaseSymbols.mk n s.runtime).symbol id = (BaseSymbols.mk m s.runtime).symbol id :=
      BaseSymbols.symbol_of_alike fun v visits => (shapes v (mem_of_visits closed mem visits)).1
    exact symbols.symm

end Context

end ServerSymbols
