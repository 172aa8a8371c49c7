import ServerSymbols.Proofs.Symbol.Base

set_option autoImplicit false

/-
Base symbols as a recursion without a bound. A call for a collection makes calls for the shapes that
the collection holds. Nothing in a call tells which calls it was made for; that the recursion ends
all the same is due to the models, in which no chain of collections comes back to its start.
-/
namespace ServerSymbols

/-- A call for a shape, with the calls that it makes one after the other. -/
inductive CallTree where
  | leaf (id : ShapeId)
  | one (id : ShapeId) (call : CallTree)
  | two (id : ShapeId) (first second : CallTree)

namespace CallTree

/-- The shape that is asked for. -/
def root : CallTree → ShapeId
  | leaf id | one id _ | two id _ _ => id

/-- The shapes of the calls that are open at the same time, from the outermost call down to one that
makes no further call. -/
def chains : CallTree → List (List ShapeId)
  | leaf id => [[id]]
  | one id call => call.chains.map (id :: ·)
  | two id first second => (first.chains ++ second.chains).map (id :: ·)

theorem head?_of_mem_chains {calls : CallTree} {chain : List ShapeId}
    (mem : chain ∈ calls.chains) : chain.head? = some calls.root := by
  cases calls with
  | leaf id =>
    cases List.mem_singleton.mp mem
    rfl
  | one id call =>
    obtain ⟨_, _, rfl⟩ := List.mem_map.mp mem
    rfl
  | two id first second =>
    obtain ⟨_, _, rfl⟩ := List.mem_map.mp mem
    rfl

end CallTree

namespace BaseSymbols

/-- The recursion comes to an end with these calls and this result. -/
inductive Runs (b : BaseSymbols) : CallTree → Except SymbolError Symbol → Prop where
  | unknown {id : ShapeId} (missing : b.model.get? id = none) :
    Runs b (.leaf id) (.error (.unknownShape id))
  /-- A shape that is no collection asks for no types. -/
  | simple {id : ShapeId} {shape : Shape} (found : b.model.get? id = some shape)
    (simple : shape.isCollection = false) (typeOf : ShapeId → Except SymbolError TypeExpr) :
    Runs b (.leaf id) (shapeSymbol b.runtime shape typeOf)
  | sequence {id : ShapeId} {shape : Shape} {member : Member} {call : CallTree}
    {result : Except SymbolError Symbol} (found : b.model.get? id = some shape)
    (kind : shape.kind = .list member ∨ shape.kind = .set member)
    (target : call.root = member.target) (item : Runs b call result) :
    Runs b (.one id call) (result.map fun item => { type := .vec item.type })
  /-- If there is no symbol for the keys of a map, its values are not asked for. -/
  | keys {id : ShapeId} {shape : Shape} {key value : Member} {call : CallTree}
    {reason : SymbolError} (found : b.model.get? id = some shape)
    (kind : shape.kind = .map key value) (target : call.root = key.target)
    (failed : Runs b call (.error reason)) : Runs b (.one id call) (.error reason)
  | map {id : ShapeId} {shape : Shape} {key value : Member} {first second : CallTree}
    {keys : Symbol} {result : Except SymbolError Symbol} (found : b.model.get? id = some shape)
    (kind : shape.kind = .map key value) (keyTarget : first.root = key.target)
    (valueTarget : second.root = value.target) (resolved : Runs b first (.ok keys))
    (values : Runs b second result) :
    Runs b (.two id first second) (result.map fun values => { type := .map keys.type values.type })

variable {b : BaseSymbols} {calls calls' : CallTree} {result result' : Except SymbolError Symbol}

/-- Whatever the recursion ends with is the symbol. -/
theorem Runs.result_eq (runs : b.Runs calls result) : result = b.symbol calls.root := by
  induction runs with
  | unknown missing => rw [CallTree.root, symbol_eq, missing]
  | simple found simple typeOf =>
    rw [CallTree.root, symbol_eq, found]
    refine shapeSymbol_congr b.runtime fun target collection _ => ?_
    rw [simple] at collection
    cases collection
  | sequence found kind target _ ih =>
    rw [CallTree.root, b.symbol_eq_sequence found kind, ih, target]
  | keys found kind target _ ih =>
    rw [CallTree.root, b.symbol_eq_map found kind, ← target, ← ih]
    rfl
  | map found kind keyTarget valueTarget _ _ first second =>
    rw [CallTree.root, b.symbol_eq_map found kind, ← keyTarget, ← first, ← valueTarget, ← second]
    rfl

section Inversion

variable {shape : Shape} (runs : b.Runs calls result)
include runs

theorem Runs.eq_leaf
    (simple : ∀ shape, b.model.get? calls.root = some shape → shape.isCollection = false) :
    calls = .leaf calls.root := by
  cases runs with
  | unknown | simple => rfl
  | sequence found kind =>
    exact absurd (Shape.collection_of_sequence kind).1 (by simp [simple _ found])
  | keys found kind | map found kind =>
    exact absurd (Shape.collection_of_map kind).1 (by simp [simple _ found])

theorem Runs.eq_one {member : Member} (found : b.model.get? calls.root = some shape)
    (kind : shape.kind = .list member ∨ shape.kind = .set member) :
    ∃ call item, calls = .one calls.root call ∧ call.root = member.target ∧ b.Runs call item := by
  cases runs with
  | unknown missing => cases found.symm.trans missing
  | simple found' simple =>
    cases found.symm.trans found'
    cases simple.symm.trans (Shape.collection_of_sequence kind).1
  | sequence found' kind' target item =>
    cases found.symm.trans found'
    have targets := (Shape.collection_of_sequence kind').2
    rw [(Shape.collection_of_sequence kind).2] at targets
    exact ⟨_, _, rfl, target.trans (List.cons.inj targets).1.symm, item⟩
  | keys found' kind' | map found' kind' =>
    cases found.symm.trans found'
    rcases kind with kind | kind <;> cases kind.symm.trans kind'

/-- The keys of a map are asked for first, and its values only if the keys have a symbol. -/
theorem Runs.eq_one_or_two {key value : Member} (found : b.model.get? calls.root = some shape)
    (kind : shape.kind = .map key value) :
    (∃ call reason, calls = .one calls.root call ∧ call.root = key.target ∧
      b.Runs call (.error reason)) ∨
    ∃ first second keys values, calls = .two calls.root first second ∧ first.root = key.target ∧
      second.root = value.target ∧ b.Runs first (.ok keys) ∧ b.Runs second values := by
  cases runs with
  | unknown missing => cases found.symm.trans missing
  | simple found' simple =>
    cases found.symm.trans found'
    cases simple.symm.trans (Shape.collection_of_map kind).1
  | sequence found' kind' =>
    cases found.symm.trans found'
    rcases kind' with kind' | kind' <;> cases kind.symm.trans kind'
  | keys found' kind' target failed =>
    cases found.symm.trans found'
    cases kind.symm.trans kind'
    exact Or.inl ⟨_, _, rfl, target, failed⟩
  | map found' kind' keyTarget valueTarget resolved values =>
    cases found.symm.trans found'
    cases kind.symm.trans kind'
    exact Or.inr ⟨_, _, _, _, rfl, keyTarget, valueTarget, resolved, values⟩

end Inversion

/-- The calls that the recursion makes are determined by the shape that is asked for. -/
theorem Runs.unique (runs : b.Runs calls result) (other : b.Runs calls' result')
    (same : calls'.root = calls.root) : calls' = calls := by
  induction runs generalizing calls' result' with
  | unknown missing =>
    have leaf := other.eq_leaf fun shape found => by
      rw [same] at found
      cases found.symm.trans missing
    exact leaf.trans (congrArg CallTree.leaf same)
  | simple found simple =>
    have leaf := other.eq_leaf fun shape found' => by
      rw [same] at found'
      cases found'.symm.trans found
      exact simple
    exact leaf.trans (congrArg CallTree.leaf same)
  | sequence found kind target _ ih =>
    obtain ⟨call, item, one, target', runs⟩ := other.eq_one (same ▸ found) kind
    rw [one, same, ih runs (target'.trans target.symm)]
    rfl
  | keys found kind target failed ih =>
    rcases other.eq_one_or_two (same ▸ found) kind with
      ⟨call, reason, one, target', runs⟩ | ⟨first, _, _, _, _, target', _, resolved, _⟩
    · rw [one, same, ih runs (target'.trans target.symm)]
      rfl
    · have clash := failed.result_eq
      rw [target, ← target', ← resolved.result_eq] at clash
      cases clash
  | map found kind keyTarget valueTarget resolved _ ihKeys ihValues =>
    rcases other.eq_one_or_two (same ▸ found) kind with
      ⟨call, reason, _, target', failed⟩ |
      ⟨_, _, _, _, two, keyTarget', valueTarget', runs, runs'⟩
    · have clash := failed.result_eq
      rw [target', ← keyTarget, ← resolved.result_eq] at clash
      cases clash
    · rw [two, same, ihKeys runs (keyTarget'.trans keyTarget.symm),
        ihValues runs' (valueTarget'.trans valueTarget.symm)]
      rfl

/-- The recursion ends for every shape: collections stand inside one another to a finite depth
only. -/
theorem exists_runs (b : BaseSymbols) (id : ShapeId) :
    ∃ calls result, calls.root = id ∧ b.Runs calls result := by
  induction id using b.model.holds_wellFounded.induction with
  | _ id ih =>
    cases found : b.model.get? id with
    | none => exact ⟨_, _, rfl, .unknown found⟩
    | some shape =>
      cases collection : shape.isCollection with
      | false => exact ⟨_, _, rfl, .simple found collection fun _ => .error (.unknownShape id)⟩
      | true =>
        rcases Shape.kind_of_collection collection with ⟨member, kind⟩ | ⟨key, value, kind⟩
        · obtain ⟨call, item, target, runs⟩ := ih _ (Model.holds_of_sequence found kind)
          exact ⟨_, _, rfl, .sequence found kind target runs⟩
        · obtain ⟨holdsKey, holdsValue⟩ := Model.holds_of_map found kind
          obtain ⟨first, keys, keyTarget, resolved⟩ := ih _ holdsKey
          obtain ⟨second, values, valueTarget, runs⟩ := ih _ holdsValue
          cases keys with
          | error reason => exact ⟨_, _, rfl, .keys found kind keyTarget resolved⟩
          | ok keys => exact ⟨_, _, rfl, .map found kind keyTarget valueTarget resolved runs⟩

theorem isChain_cons_of_mem_chains {id : ShapeId} {chain : List ShapeId}
    (holds : b.model.Holds id calls.root) (listed : chain ∈ calls.chains)
    (inner : chain.IsChain b.model.Holds) : (id :: chain).IsChain b.model.Holds := by
  rw [List.isChain_cons, CallTree.head?_of_mem_chains listed]
  refine ⟨fun _ same => ?_, inner⟩
  cases same
  exact holds

/-- A call is made for a shape only while the call for a collection that holds it is open. -/
theorem Runs.isChain (runs : b.Runs calls result) {chain : List ShapeId}
    (mem : chain ∈ calls.chains) : chain.IsChain b.model.Holds := by
  induction runs generalizing chain with
  | unknown | simple =>
    cases List.mem_singleton.mp mem
    exact List.isChain_singleton _
  | sequence found kind target _ ih =>
    obtain ⟨inner, listed, rfl⟩ := List.mem_map.mp mem
    have holds := target ▸ Model.holds_of_sequence found kind
    exact isChain_cons_of_mem_chains holds listed (ih listed)
  | keys found kind target _ ih =>
    obtain ⟨inner, listed, rfl⟩ := List.mem_map.mp mem
    have holds := target ▸ (Model.holds_of_map found kind).1
    exact isChain_cons_of_mem_chains holds listed (ih listed)
  | map found kind keyTarget valueTarget _ _ ihKeys ihValues =>
    obtain ⟨inner, listed, rfl⟩ := List.mem_map.mp mem
    obtain ⟨holdsKey, holdsValue⟩ := Model.holds_of_map found kind
    rcases List.mem_append.mp listed with listed | listed
    · exact isChain_cons_of_mem_chains (keyTarget ▸ holdsKey) listed (ihKeys listed)
    · exact isChain_cons_of_mem_chains (valueTarget ▸ holdsValue) listed (ihValues listed)

/-- The recursion for the symbol of a shape always ends, with the same calls each time. Of the calls
that are open at the same time no two are for the same shape, and their number is at most one more
than that of the model's collections. -/
theorem symbol_terminates (b : BaseSymbols) (id : ShapeId) :
    ∃ calls : CallTree, calls.root = id ∧ b.Runs calls (b.symbol id) ∧
      (∀ calls' result, calls'.root = id → b.Runs calls' result →
        calls' = calls ∧ result = b.symbol id) ∧
      ∀ chain ∈ calls.chains, chain.Nodup ∧ chain.length ≤ b.model.collectionCount + 1 := by
  obtain ⟨calls, result, rfl, runs⟩ := b.exists_runs id
  refine ⟨calls, rfl, runs.result_eq ▸ runs, fun calls' result' same other => ?_,
    fun chain mem => ?_⟩
  · exact ⟨runs.unique other same, same ▸ other.result_eq⟩
  · have holds := runs.isChain mem
    exact ⟨Model.nodup_of_isChain holds, Model.length_le_of_isChain holds⟩

end BaseSymbols

end ServerSymbols
