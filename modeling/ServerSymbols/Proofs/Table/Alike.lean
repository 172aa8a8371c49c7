import ServerSymbols.Proofs.Agreement

set_option autoImplicit false

/-
What the symbol table depends on: the model, the service and the prefix of the runtime libraries.
Runs that agree on these answer alike, however they find the shapes that reach a constrained one.
-/
namespace ServerSymbols

/-- Settings that name the same service and the same runtime libraries. -/
structure Settings.Alike (s t : Settings) : Prop where
  service : s.service = t.service
  cratePrefix : s.runtime.cratePrefix = t.runtime.cratePrefix

variable (m : Model) {s t : Settings}

/-- How the shapes that reach a constrained one are found makes no difference. -/
theorem Context.agree_of_alike (alike : s.Alike t) : (Context.mk m s).Agree (Context.mk m t) := by
  have closure : m.serviceClosure s.service = m.serviceClosure t.service := by
    rw [alike.service]
  refine ⟨closure, fun c found id mem => ?_⟩
  constructor
  case reaches => exact plainReaches_congr found (closure ▸ found) mem mem Iff.rfl
  case alike => exact Model.Alike.refl m id
  case base => exact congrFun (BaseSymbols.symbol_runtime alike.cratePrefix m) id

theorem Table.plainRows_alike (alike : s.Alike t) (onlyUnconstrained : Bool) :
    plainRows ⟨m, s⟩ onlyUnconstrained = plainRows ⟨m, t⟩ onlyUnconstrained :=
  (Context.agree_of_alike m alike).plainRows onlyUnconstrained

namespace Context

/-- Settings are looked at for the service they name, and for nothing else. -/
theorem make_alike (alike : s.Alike t) :
    (∃ reason, make m s = .error reason ∧ make m t = .error reason) ∨
      make m s = .ok ⟨m, s⟩ ∧ make m t = .ok ⟨m, t⟩ := by
  unfold make
  rw [alike.service]
  cases m.expectService t.service with
  | error reason => exact Or.inl ⟨.ofModel reason, rfl, rfl⟩
  | ok service => exact Or.inr ⟨rfl, rfl⟩

/-- Two runs over one model whose settings agree on the service and on the prefix of the runtime
libraries start or fail alike, and whatever either was asked before, their tables have the same
rows in the same order, or the same error. -/
theorem rows_alike (m : Model) (s t : Settings) (service : s.service = t.service)
    (cratePrefix : s.runtime.cratePrefix = t.runtime.cratePrefix) :
    (∃ reason, make m s = .error reason ∧ make m t = .error reason) ∨
      ∃ c d, make m s = .ok c ∧ make m t = .ok d ∧
        ∀ (onlyUnconstrained : Bool) (calls others : List Call),
          ((Table.rows c onlyUnconstrained).answer (c.after calls)).1 =
            ((Table.rows d onlyUnconstrained).answer (d.after others)).1 := by
  have alike : s.Alike t := ⟨service, cratePrefix⟩
  rcases make_alike m alike with failed | ⟨left, right⟩
  · exact Or.inl failed
  · refine Or.inr ⟨⟨m, s⟩, ⟨m, t⟩, left, right, fun onlyUnconstrained calls others => ?_⟩
    have first := (Table.gives_rows ⟨m, s⟩ onlyUnconstrained _ (sound_after ⟨m, s⟩ calls)).1
    have second := (Table.gives_rows ⟨m, t⟩ onlyUnconstrained _ (sound_after ⟨m, t⟩ others)).1
    rw [first, second]
    exact Table.plainRows_alike m alike onlyUnconstrained

end Context

def Settings.forest : Settings :=
  .forService ⟨"test", "Service"⟩ "forest"

/-- The settings of `forest`, but for all that the table does not depend on. -/
def Settings.woods : Settings :=
  { Settings.forest with
    moduleName := "woods"
    runtime := { relativePath := some "../runtime" }
    codegen := { debugMode := true, strategy := .fixpoint }
    customization := some [] }

namespace Context

theorem rows_alike_forest :
    Settings.forest.service = Settings.woods.service ∧
      Settings.forest.runtime.cratePrefix = Settings.woods.runtime.cratePrefix ∧
      ∃ c d, make Model.forest Settings.forest = .ok c ∧
        make Model.forest Settings.woods = .ok d ∧
        ∀ (onlyUnconstrained : Bool) (calls others : List Call),
          ((Table.rows c onlyUnconstrained).answer (c.after calls)).1 =
            ((Table.rows d onlyUnconstrained).answer (d.after others)).1 := by
  have starts : (make Model.forest Settings.forest).toBool = true := by decide +kernel
  refine ⟨rfl, rfl, (rows_alike Model.forest Settings.forest Settings.woods rfl rfl).resolve_left ?_⟩
  intro failed
  obtain ⟨reason, left, _⟩ := failed
  rw [left] at starts
  cases starts

end Context

end ServerSymbols
