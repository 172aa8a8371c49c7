import ServerSymbols.Proofs.Symbol.Base
import ServerSymbols.Proofs.Symbol.Unconstrained

set_option autoImplicit false

/-
Types that are defined under the names of shapes. Two shapes of a service get different ones if the
spelling for types keeps the keys of their names. It need not: the keys are in lower case, but the
spelling begins each word with the upper case of its first character, and some characters share
their upper case with others whose lower case differs.
-/
namespace ServerSymbols

/-- Shapes whose symbol is a type that the generated library defines under the shape's name. -/
def ShapeType.isDefined : ShapeType → Bool
  | struct | union | enum | operation | service => true
  | _ => false

namespace BaseSymbols

theorem symbol_of_isDefined (b : BaseSymbols) {s : Shape} (found : b.model.get? s.id = some s)
    (isDefined : s.type.isDefined = true) :
    ∃ space file, b.symbol s.id = .ok (definedSymbol s.id space file) := by
  unfold Shape.type at isDefined
  rw [symbol_eq, found]
  dsimp only
  unfold shapeSymbol
  cases kind : s.kind with
  | struct members | union members | enum variants => exact ⟨modelModule, modelFile, rfl⟩
  | operation input output errors => exact ⟨"crate::operation", "src/operation.rs", rfl⟩
  | service operations resources => exact ⟨"crate", "src/lib.rs", rfl⟩
  | list member | set member | map key value | intEnum variants | primitive kind'
  | resource identifiers operations resources =>
    rw [kind] at isDefined
    cases isDefined

/-- Two structures, unions, enums, operations or services of a service that are not of the prelude
have different types if every word of their names starts with a character that upper-casing does
not turn into something else. -/
theorem types_distinct (m : Model) (service : ShapeId) (c : Closure)
    (found : m.serviceClosure service = .ok c) (runtime : RuntimeConfig) (s t : Shape)
    (ownS : c.Own m s) (ownT : c.Own m t) (definedS : s.type.isDefined = true)
    (definedT : t.type.isDefined = true) (recasedS : Identifier.Recased s.id.name.toList)
    (recasedT : Identifier.Recased t.id.name.toList) (distinct : s.id ≠ t.id) :
    ∃ x y, (mk m runtime).symbol s.id = .ok x ∧ (mk m runtime).symbol t.id = .ok y ∧
      x.type ≠ y.type := by
  obtain ⟨spaceS, fileS, first⟩ := (mk m runtime).symbol_of_isDefined ownS.found definedS
  obtain ⟨spaceT, fileT, second⟩ := (mk m runtime).symbol_of_isDefined ownT.found definedT
  refine ⟨_, _, first, second, fun same => distinct ?_⟩
  have spelled : Identifier.pascalCase s.id.name = Identifier.pascalCase t.id.name := by
    injection same
  exact Model.eq_of_nameKey found ownS ownT (Model.nameKey_of_pascalCase recasedS recasedT spelled)

theorem symbol_river (b : BaseSymbols) {space name : String}
    (found : b.model.get? ⟨space, name⟩ = some (.river space name)) :
    b.symbol ⟨space, name⟩ = .ok (definedSymbol ⟨space, name⟩ modelModule modelFile) := by
  rw [symbol_eq, found]
  rfl

theorem types_distinct_rivers :
    Model.rivers.serviceClosure ⟨"test", "Service"⟩ = .ok Closure.rivers ∧
      Closure.rivers.Own Model.rivers (.river "atlas" "Irmak") ∧
      Closure.rivers.Own Model.rivers (.river "test" "Şehir") ∧
      Identifier.Recased "Irmak".toList ∧ Identifier.Recased "Şehir".toList ∧
      (Shape.river "atlas" "Irmak").id ≠ (Shape.river "test" "Şehir").id ∧
      ∃ x y, (mk Model.rivers {}).symbol ⟨"atlas", "Irmak"⟩ = .ok x ∧
        (mk Model.rivers {}).symbol ⟨"test", "Şehir"⟩ = .ok y ∧ x.type ≠ y.type := by
  have first : Closure.rivers.Own Model.rivers (.river "atlas" "Irmak") :=
    Closure.own_rivers (by simp)
  have second : Closure.rivers.Own Model.rivers (.river "test" "Şehir") :=
    Closure.own_rivers (by simp)
  have recased : Identifier.Recased "Irmak".toList := by
    have ascii : ∀ c ∈ "Irmak".toList, c.toNat < 128 := by simp
    exact Identifier.recased_of_ascii ascii
  have recased' : Identifier.Recased "Şehir".toList := by
    have single : Identifier.words "Şehir".toList = [['Ş', 'e', 'h', 'i', 'r']] := by cbv
    intro word listed first head
    rw [single, List.mem_singleton] at listed
    cases listed
    cases head
    decide +kernel
  have distinct : (Shape.river "atlas" "Irmak").id ≠ (Shape.river "test" "Şehir").id := by
    decide +kernel
  exact ⟨Model.serviceClosure_rivers, first, second, recased, recased', distinct,
    types_distinct Model.rivers ⟨"test", "Service"⟩ Closure.rivers Model.serviceClosure_rivers {}
      _ _ first second rfl rfl recased recased' distinct⟩

/-- Two structures of `Model.rivers` are called `Irmak` in the library, though the service is
accepted and their ids are read from texts. -/
theorem types_clash_rivers :
    ShapeId.parse "test#ırmak" = .ok ⟨"test", "ırmak"⟩ ∧
      ShapeId.parse "atlas#Irmak" = .ok ⟨"atlas", "Irmak"⟩ ∧
      Model.rivers.serviceClosure ⟨"test", "Service"⟩ = .ok Closure.rivers ∧
      Closure.rivers.Own Model.rivers (.river "test" "ırmak") ∧
      Closure.rivers.Own Model.rivers (.river "atlas" "Irmak") ∧
      (Shape.river "test" "ırmak").id ≠ (Shape.river "atlas" "Irmak").id ∧
      ∃ x y, (mk Model.rivers {}).symbol ⟨"test", "ırmak"⟩ = .ok x ∧
        (mk Model.rivers {}).symbol ⟨"atlas", "Irmak"⟩ = .ok y ∧ x.type = y.type := by
  have first : Closure.rivers.Own Model.rivers (.river "test" "ırmak") :=
    Closure.own_rivers (by simp)
  have second : Closure.rivers.Own Model.rivers (.river "atlas" "Irmak") :=
    Closure.own_rivers (by simp)
  have spelled : Identifier.pascalCase "ırmak" = Identifier.pascalCase "Irmak" := by cbv
  refine ⟨by decide +kernel, by decide +kernel, Model.serviceClosure_rivers, first, second,
    by decide +kernel, _, _, symbol_river _ first.found, symbol_river _ second.found, ?_⟩
  simp only [definedSymbol, spelled]

end BaseSymbols

end ServerSymbols
