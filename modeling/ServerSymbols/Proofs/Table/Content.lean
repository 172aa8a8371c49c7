import ServerSymbols.Proofs.Agreement
import ServerSymbols.Proofs.Groups
import ServerSymbols.Proofs.Symbol.Outline

set_option autoImplicit false

/-
What the rows of a table say. Rows are made and left out by the kinds of symbols. In the terms of
the model, the kind tells whether the shape reaches a constrained one; so a row that is left out
would have been made, as there is no wrapper that could fail.
-/
namespace ServerSymbols

/-- A wrapper holds something if and only if it is one of a collection. -/
theorem Shape.isSome_held {symbolOf : ShapeId → Except SymbolError Symbol} {shape : Shape}
    {held : Option TypeExpr} (made : shape.held symbolOf = .ok held) :
    held.isSome = shape.isCollection := by
  unfold Shape.held at made
  unfold isCollection type
  cases kind : shape.kind with
  | list member | set member =>
    rw [kind] at made
    dsimp only at made
    cases item : symbolOf member.target with
    | error reason =>
      rw [item] at made
      cases made
    | ok symbol =>
      rw [item] at made
      cases made
      rfl
  | map key value =>
    rw [kind] at made
    dsimp only at made
    cases keys : symbolOf key.target with
    | error reason =>
      rw [keys] at made
      cases made
    | ok keySymbol =>
      cases values : symbolOf value.target with
      | error reason =>
        rw [keys, values] at made
        cases made
      | ok valueSymbol =>
        rw [keys, values] at made
        cases made
        rfl
  | _ =>
    rw [kind] at made
    cases made
    rfl

namespace Context

variable {c : Context} {id : ShapeId} {symbol : Symbol} {held : Option TypeExpr}

theorem mem_of_plainSymbol (resolved : c.resolver.plainSymbol id = .ok symbol) :
    ∃ closure, c.model.serviceClosure c.settings.service = .ok closure ∧ id ∈ closure.ids := by
  cases reached : c.analysis.plainReaches id with
  | error reason =>
    rw [plainSymbol_of_error reached] at resolved
    cases resolved
  | ok answer => exact mem_of_plainReaches reached

theorem mem_of_plainWrapped (wrapped : c.resolver.plainWrapped id = .ok held) :
    ∃ closure, c.model.serviceClosure c.settings.service = .ok closure ∧ id ∈ closure.ids := by
  cases reached : c.analysis.plainReaches id with
  | error reason =>
    rw [plainWrapped_of_error reached] at wrapped
    cases wrapped
  | ok answer => exact mem_of_plainReaches reached

/-- The kind of a symbol tells whether its shape reaches a constrained one. -/
theorem isUnconstrained_iff (resolved : c.resolver.plainSymbol id = .ok symbol) :
    symbol.kind.isUnconstrained = true ↔ c.model.ReachesConstrained id := by
  obtain ⟨closure, found, mem⟩ := mem_of_plainSymbol resolved
  unfold SymbolKind.isUnconstrained
  rw [decide_eq_true_iff]
  by_cases reaches : c.model.ReachesConstrained id
  · obtain ⟨other, same, unchecked⟩ := plainSymbol_of_reaching found mem reaches
    rw [resolved] at same
    cases same
    exact iff_of_true unchecked reaches
  · obtain ⟨shape, look, _⟩ := (Model.serviceClosure_closed found).refs id mem
    rw [plainSymbol_eq_base found mem reaches] at resolved
    rcases c.base.decided ⟨shape, look⟩ with ⟨_, _, failed⟩ | ⟨_, other, same, valid⟩
    · rw [resolved] at failed
      cases failed
    · rw [resolved] at same
      cases same
      exact iff_of_false (not_not.mpr valid) reaches

theorem isSome_plainWrapped_iff (wrapped : c.resolver.plainWrapped id = .ok held) :
    held.isSome = true ↔ c.model.IsWrapper id := by
  obtain ⟨closure, found, mem⟩ := mem_of_plainWrapped wrapped
  by_cases reaches : c.model.ReachesConstrained id
  · obtain ⟨shape, look, _⟩ := (Model.serviceClosure_closed found).refs id mem
    rw [c.resolver.plainWrapped_eq, plainReaches_of_reaching found mem reaches,
      expectShape_of_get? look] at wrapped
    have made : shape.held c.resolver.plainSymbol = .ok held := wrapped
    rw [Shape.isSome_held made]
    constructor
    · intro collection
      exact ⟨shape, look, collection, reaches⟩
    · rintro ⟨other, same, collection, _⟩
      rw [look] at same
      cases same
      exact collection
  · rw [plainWrapped_of_free (plainReaches_of_free found mem reaches)] at wrapped
    cases wrapped
    apply iff_of_false Bool.false_ne_true
    rintro ⟨_, _, _, reached⟩
    exact reaches reached

theorem plainWrapped_of_domain (resolved : c.resolver.plainSymbol id = .ok symbol)
    (valid : symbol.kind.isUnconstrained = false) : c.resolver.plainWrapped id = .ok none := by
  obtain ⟨closure, found, mem⟩ := mem_of_plainSymbol resolved
  have free : ¬ c.model.ReachesConstrained id := by
    rw [← isUnconstrained_iff resolved, valid]
    exact Bool.false_ne_true
  exact plainWrapped_of_free (plainReaches_of_free found mem free)

end Context

namespace Table

variable {c : Context} {r : Reachability} {closure : Closure}

/-! ### Rows that are left out -/

theorem plainRow?_filter (c : Context) (r : Reachability) (shape : Shape) :
    plainRow? c.resolver r true shape =
      (plainRow? c.resolver r false shape).map (Option.filter (·.unconstrained)) := by
  unfold plainRow?
  cases resolved : c.resolver.plainSymbol shape.id with
  | error reason => rfl
  | ok symbol =>
    simp only [Except.mapError, bind, Except.bind]
    cases unchecked : symbol.kind.isUnconstrained with
    | true =>
      cases c.resolver.plainWrapped shape.id <;> rfl
    | false =>
      rw [Context.plainWrapped_of_domain resolved unchecked]
      rfl

theorem plainRowsOf_filter (c : Context) (r : Reachability) (ids : List ShapeId) :
    plainRowsOf c r true ids = (plainRowsOf c r false ids).map (List.filter (·.unconstrained)) := by
  induction ids with
  | nil => rfl
  | cons id rest ih =>
    cases look : c.model.get? id with
    | none =>
      rw [plainRowsOf_of_missing r true rest look, plainRowsOf_of_missing r false rest look]
      rfl
    | some shape =>
      cases data : shape.isData with
      | false =>
        rw [plainRowsOf_of_other r true rest look data, plainRowsOf_of_other r false rest look data]
        exact ih
      | true =>
        rw [plainRowsOf_of_data r true rest look data, plainRowsOf_of_data r false rest look data,
          plainRow?_filter, ih]
        cases plainRow? c.resolver r false shape with
        | error reason => rfl
        | ok first =>
          simp only [Except.map, Except.bind]
          cases plainRowsOf c r false rest with
          | error reason => rfl
          | ok others => simp only [List.filter_append, Option.toList_filter]

theorem plainRows_filter (c : Context) :
    plainRows c true = (plainRows c false).map (List.filter (·.unconstrained)) := by
  unfold plainRows
  cases c.analysis.compute with
  | error reason => rfl
  | ok r => exact plainRowsOf_filter c r r.closure.ids

/-! ### Rows that are made -/

/-- The row tells these things about the shape, in the terms of the model. -/
structure Describes (c : Context) (id : ShapeId) (row : Row) : Prop where
  shape : row.shape = id.text
  shapeType : ∃ shape, c.model.get? id = some shape ∧ row.shapeType = shape.type.name
  symbol : ∃ symbol, c.Resolves id (.ok symbol) ∧ row.kind = symbol.kind.name ∧
    row.type = symbol.type.render false ∧ row.space = symbol.type.space
  held : ∃ held, c.Wraps id (.ok held) ∧ row.wraps = held.map (·.render true)
  unconstrained : row.unconstrained = true ↔ c.model.ReachesConstrained id
  recursive : row.recursive = true ↔ Relation.TransGen c.model.MemberStep id id
  wraps : row.wraps.isSome = true ↔ c.model.IsWrapper id

section Analysed

variable (found : c.model.serviceClosure c.settings.service = .ok closure)
variable (analysed : c.Analysed closure r)
include found analysed

theorem describes_of_plainRow? {shape : Shape} {first : Option Row}
    (mem : shape.id ∈ closure.ids) (look : c.model.get? shape.id = some shape)
    (made : plainRow? c.resolver r false shape = .ok first) :
    ∃ row, first = some row ∧ Describes c shape.id row := by
  unfold plainRow? at made
  cases resolved : c.resolver.plainSymbol shape.id with
  | error reason =>
    rw [resolved] at made
    cases made
  | ok symbol =>
    cases wrapped : c.resolver.plainWrapped shape.id with
    | error reason =>
      rw [resolved, wrapped] at made
      cases made
    | ok held =>
      rw [resolved, wrapped] at made
      cases made
      refine ⟨_, rfl, ?_⟩
      constructor
      case shape => rfl
      case shapeType => exact ⟨shape, look, rfl⟩
      case symbol => exact ⟨symbol, resolved ▸ c.resolves_plainSymbol shape.id, rfl, rfl, rfl⟩
      case held => exact ⟨held, wrapped ▸ c.wraps_plainWrapped shape.id, rfl⟩
      case unconstrained => exact Context.isUnconstrained_iff resolved
      case recursive =>
        have closed := Model.serviceClosure_closed found
        have looped := Reachability.isSome_cycleOf?_iff closed analysed.cycles_eq shape.id
        exact looped.trans (and_iff_right mem)
      case wraps =>
        rw [Option.isSome_map]
        exact Context.isSome_plainWrapped_iff wrapped

theorem describes_of_plainRowsOf {ids : List ShapeId} {rows : List Row} (inside : ids ⊆ closure.ids)
    (made : plainRowsOf c r false ids = .ok rows) :
    List.Forall₂ (Describes c) (ids.filter fun id => (c.model.get? id).any Shape.isData) rows := by
  induction ids generalizing rows with
  | nil =>
    cases made
    exact List.Forall₂.nil
  | cons id rest ih =>
    obtain ⟨mem, later⟩ := List.cons_subset.mp inside
    cases look : c.model.get? id with
    | none =>
      rw [plainRowsOf_of_missing r false rest look] at made
      cases made
    | some shape =>
      cases data : shape.isData with
      | false =>
        rw [plainRowsOf_of_other r false rest look data] at made
        rw [List.filter_cons_of_neg (by simp [look, data])]
        exact ih later made
      | true =>
        rw [plainRowsOf_of_data r false rest look data] at made
        rw [List.filter_cons_of_pos (by simp [look, data])]
        cases one : plainRow? c.resolver r false shape with
        | error reason =>
          rw [one] at made
          cases made
        | ok first =>
          cases more : plainRowsOf c r false rest with
          | error reason =>
            rw [one, more] at made
            cases made
          | ok others =>
            rw [one, more] at made
            cases made
            obtain rfl := Model.id_of_get? look
            obtain ⟨row, rfl, describes⟩ := describes_of_plainRow? found analysed mem look one
            exact List.Forall₂.cons describes (ih later more)

end Analysed

end Table

namespace Context

/-- The table of a run, whatever it was asked before. If only unconstrained shapes are wanted, the
table is what remains of the full table without the rows of others, or fails as that does. The full
table of an accepted service, if there is one, has exactly one row for each data shape of the
service, in the order of the closure. The row tells that the shape reaches a constrained one, that
members lead from it back to it, and what its wrapper holds, exactly if the model has it so. -/
theorem rows_content (c : Context) :
    (∀ calls others : List Call, ((Table.rows c true).answer (c.after calls)).1 =
      ((Table.rows c false).answer (c.after others)).1.map (List.filter (·.unconstrained))) ∧
    ∀ closure, c.model.serviceClosure c.settings.service = .ok closure →
      ∀ (calls : List Call) (rows : List Table.Row),
        ((Table.rows c false).answer (c.after calls)).1 = .ok rows →
          closure.ids.Nodup ∧ List.Forall₂ (Table.Describes c)
            (closure.ids.filter fun id => (c.model.get? id).any Shape.isData) rows := by
  have answered (onlyUnconstrained : Bool) (calls : List Call) :
      ((Table.rows c onlyUnconstrained).answer (c.after calls)).1 =
        Table.plainRows c onlyUnconstrained :=
    (Table.gives_rows c onlyUnconstrained _ (c.sound_after calls)).1
  constructor
  · intro calls others
    rw [answered, answered]
    exact Table.plainRows_filter c
  · intro closure found calls rows made
    obtain ⟨r, analysed⟩ := exists_analysed found
    rw [answered, Table.plainRows, analysed.computed] at made
    have listed : Table.plainRowsOf c r false closure.ids = .ok rows := by
      rw [← analysed.closure_eq]
      exact made
    exact ⟨(Model.serviceClosure_closed found).nodup,
      Table.describes_of_plainRowsOf found analysed (List.Subset.refl _) listed⟩

theorem rows_content_forest :
    forest.model.serviceClosure forest.settings.service = .ok forestClosure ∧
      ∃ rows, ((Table.rows forest false).answer (forest.after [])).1 = .ok rows ∧
        ((Table.rows forest true).answer (forest.after [])).1 =
          .ok (rows.filter (·.unconstrained)) ∧
        forestClosure.ids.Nodup ∧ List.Forall₂ (Table.Describes forest)
          [⟨"test", "Tree"⟩, ⟨"test", "Forest"⟩, .prelude "String", ⟨"test", "Notes"⟩,
            ⟨"test", "Lines"⟩] rows := by
  have found := serviceClosure_forest
  have succeeds : ((Table.rows forest false).answer (forest.after [])).1.toBool = true := by cbv
  cases made : ((Table.rows forest false).answer (forest.after [])).1 with
  | error reason =>
    rw [made] at succeeds
    cases succeeds
  | ok rows =>
    obtain ⟨filtered, content⟩ := rows_content forest
    obtain ⟨nodup, described⟩ := content forestClosure found [] rows made
    have wanted := filtered [] []
    rw [made] at wanted
    exact ⟨found, rows, rfl, wanted, nodup, described⟩

end Context

end ServerSymbols
