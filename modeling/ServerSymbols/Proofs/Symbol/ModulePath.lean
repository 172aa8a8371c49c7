import ServerSymbols.Proofs.Except
import ServerSymbols.Proofs.Symbol.Placed

set_option autoImplicit false

/-
Where the library keeps the types that it defines. The module of a type is one path, written once
with double colons and once as the list of its parts below the root, and the first of these parts
names the file of the type.
-/
namespace ServerSymbols

namespace Symbol

/-! ### Paths and their parts -/

theorem splitPath_ne_nil (part text : List Char) : splitPath part text ≠ [] := by
  fun_induction splitPath part text with
  | case1 part rest ih => exact List.cons_ne_nil _ _
  | case2 part c rest other ih => exact ih
  | case3 part => exact List.cons_ne_nil _ _

/-- Nothing is lost by cutting a path. -/
theorem intercalate_splitPath (part text : List Char) :
    "::".toList.intercalate (splitPath part text) = part.reverse ++ text := by
  fun_induction splitPath part text with
  | case1 part rest ih =>
    rw [List.intercalate_cons_of_ne_nil (splitPath_ne_nil [] rest), ih]
    simp
  | case2 part c rest other ih => simpa using ih
  | case3 part => simp

/-- A part goes on as long as there is no colon. -/
theorem splitPath_append {word : List Char} (colonless : ':' ∉ word) (part text : List Char) :
    splitPath part (word ++ text) = splitPath (word.reverse ++ part) text := by
  induction word generalizing part with
  | nil => rfl
  | cons c word ih =>
    rw [List.mem_cons, not_or] at colonless
    obtain ⟨other, colonless⟩ := colonless
    rw [List.cons_append, splitPath, ih colonless, List.reverse_cons, List.append_assoc]
    · rfl
    · rintro _ rfl
      exact absurd rfl other

/-- The parts of a path that starts with a word. -/
theorem splitPath_colons {word : List Char} (colonless : ':' ∉ word) (rest : List Char) :
    splitPath [] (word ++ "::".toList ++ rest) = word :: splitPath [] rest := by
  rw [List.append_assoc, splitPath_append colonless]
  simp [splitPath]

theorem splitPath_word {word : List Char} (colonless : ':' ∉ word) :
    splitPath [] word = [word] := by
  have cut := splitPath_append colonless [] []
  rw [List.append_nil, List.append_nil] at cut
  rw [cut, splitPath, List.reverse_reverse]

theorem intercalate_cons_eq (root : List Char) (parts : List (List Char)) :
    "::".toList.intercalate (root :: parts) = root ++ parts.flatMap ("::".toList ++ ·) := by
  induction parts generalizing root with
  | nil => simp
  | cons part parts ih =>
    rw [List.intercalate_cons_cons, ih, List.flatMap_cons, List.append_assoc, List.append_assoc]

/-! ### Modules of the library -/

variable {x : Symbol} {space : String}

/-- The module of the type is the root of the library or below it. -/
def InLibrary (x : Symbol) : Prop :=
  ∃ space, x.type.space = some space ∧ (space = "crate" ∨ "crate::".toList <+: space.toList)

theorem colonless_crate : ':' ∉ "crate".toList := by
  decide

theorem modulePath_of_split {parts : List (List Char)} (module : x.type.space = some space)
    (split : splitPath [] space.toList = "crate".toList :: parts) :
    x.modulePath = parts.map String.ofList := by
  simp only [modulePath, module, split]
  rfl

theorem exists_split_of_inLibrary (inside : x.InLibrary) :
    ∃ space parts, x.type.space = some space ∧
      splitPath [] space.toList = "crate".toList :: parts := by
  obtain ⟨space, module, rfl | ⟨rest, below⟩⟩ := inside
  · exact ⟨_, [], module, splitPath_word colonless_crate⟩
  · have path : space.toList = "crate".toList ++ "::".toList ++ rest := below.symm
    exact ⟨space, _, module, path ▸ splitPath_colons colonless_crate rest⟩

/-- The parts of a path below the root make up the path. -/
theorem toList_of_split {parts : List (List Char)}
    (split : splitPath [] space.toList = "crate".toList :: parts) :
    space.toList = "crate".toList ++ parts.flatMap ("::".toList ++ ·) := by
  rw [← intercalate_cons_eq, ← split, intercalate_splitPath]
  rfl

theorem space_of_inLibrary (inside : x.InLibrary) :
    x.type.space = some ("crate" ++ String.join (x.modulePath.map ("::" ++ ·))) := by
  obtain ⟨space, parts, module, split⟩ := exists_split_of_inLibrary inside
  rw [modulePath_of_split module split, module, Option.some_inj, ← String.toList_inj,
    toList_of_split split]
  simp [List.flatMap_map]

/-- Modules outside of the library have no path in it. -/
theorem modulePath_of_outside (outside : ¬ x.InLibrary) : x.modulePath = [] := by
  cases module : x.type.space with
  | none => simp only [modulePath, module]
  | some space =>
    cases split : splitPath [] space.toList with
    | nil => simp only [modulePath, module, split]
    | cons root parts =>
      simp only [modulePath, module, split]
      refine if_neg fun crate => outside ⟨space, module, ?_⟩
      subst crate
      have path := toList_of_split split
      cases parts with
      | nil =>
        left
        rw [← String.toList_inj, path]
        rfl
      | cons part parts =>
        right
        rw [path, List.flatMap_cons, List.append_assoc, ← List.append_assoc]
        exact List.prefix_append _ _

/-! ### Files of the library -/

/-- The file that defines the types of a module. -/
def moduleFile : List String → String
  | [] => "src/lib.rs"
  | first :: _ => "src/" ++ first ++ ".rs"

/-- The symbol has a file exactly if its type is in a module of the library, whose path is that of
the module and tells the file. -/
structure Located (x : Symbol) : Prop where
  file_iff : x.file.isSome = true ↔ x.InLibrary
  space : x.InLibrary →
    x.type.space = some ("crate" ++ String.join (x.modulePath.map ("::" ++ ·)))
  file : x.InLibrary → x.file = some (moduleFile x.modulePath)
  outside : ¬ x.InLibrary → x.modulePath = []

theorem located_of_outside (noFile : x.file = none) (outside : ¬ x.InLibrary) : x.Located where
  file_iff := by simp [noFile, outside]
  space := space_of_inLibrary
  file := fun inside => absurd inside outside
  outside := modulePath_of_outside

theorem located_of_inside (inside : x.InLibrary) (file : x.file = some (moduleFile x.modulePath)) :
    x.Located where
  file_iff := by simp [file, inside]
  space := space_of_inLibrary
  file := fun _ => file
  outside := modulePath_of_outside

theorem located_of_root (module : x.type.space = some "crate") (file : x.file = some "src/lib.rs") :
    x.Located := by
  refine located_of_inside ⟨_, module, Or.inl rfl⟩ ?_
  rw [modulePath_of_split module (splitPath_word colonless_crate), file]
  rfl

/-- The symbol is in a module below that with this name. -/
theorem located_of_below (name : String) (rest : List Char) (colonless : ':' ∉ name.toList)
    (module : x.type.space = some space)
    (below : space.toList = "crate::".toList ++ name.toList ++ rest)
    (onward : rest = [] ∨ "::".toList <+: rest) (file : x.file = some ("src/" ++ name ++ ".rs")) :
    x.Located := by
  have inside : "crate::".toList <+: space.toList := by
    rw [below, List.append_assoc]
    exact List.prefix_append _ _
  refine located_of_inside ⟨space, module, Or.inr inside⟩ ?_
  have first : ∃ parts, splitPath [] (name.toList ++ rest) = name.toList :: parts := by
    rcases onward with rfl | ⟨later, rfl⟩
    · rw [List.append_nil]
      exact ⟨[], splitPath_word colonless⟩
    · rw [← List.append_assoc]
      exact ⟨_, splitPath_colons colonless later⟩
  obtain ⟨parts, first⟩ := first
  have split : splitPath [] space.toList = "crate".toList :: name.toList :: parts := by
    rw [below, ← first, List.append_assoc]
    exact splitPath_colons colonless_crate _
  rw [modulePath_of_split module split, file, List.map_cons, String.ofList_toList]
  rfl

theorem located_of_builtin (noFile : x.file = none)
    (builtin : x.type.space ∈ [none, "std::string", "std::vec", "std::collections"]) :
    x.Located := by
  refine located_of_outside noFile ?_
  rintro ⟨space, module, inside⟩
  rw [module] at builtin
  simp only [List.mem_cons, Option.some.injEq, List.not_mem_nil, or_false, reduceCtorEq,
    false_or] at builtin
  revert inside
  rcases builtin with rfl | rfl | rfl <;> decide

theorem Located.withKind (located : x.Located) (kind : SymbolKind) : (x.withKind kind).Located :=
  ⟨located.file_iff, located.space, located.file, located.outside⟩

end Symbol

/-- The prefix of the runtime's modules does not lead into the library. -/
def RuntimeConfig.Foreign (r : RuntimeConfig) : Prop :=
  ¬ "crate::".toList <+: r.cratePrefix.toList

/-- The modules of the runtime have an underscore behind their prefix, and the root of the library
has none in front of its colons. -/
theorem RuntimeConfig.Foreign.dataModule {r : RuntimeConfig} (foreign : r.Foreign) :
    r.dataModule ≠ "crate" ∧ ¬ "crate::".toList <+: r.dataModule.toList := by
  have underscore : '_' ∈ r.dataModule.toList := by
    simp [RuntimeConfig.dataModule]
  refine ⟨fun root => ?_, fun below => ?_⟩
  · rw [root] at underscore
    revert underscore
    decide
  · have module : r.dataModule.toList = r.cratePrefix.toList ++ "_smithy_types".toList := by
      rw [RuntimeConfig.dataModule, String.toList_append]
    have front : r.cratePrefix.toList <+: r.dataModule.toList := by
      rw [module]
      exact List.prefix_append _ _
    rcases List.prefix_or_prefix_of_prefix below front with longer | ⟨rest, shorter⟩
    · exact foreign longer
    -- The root and its colons end within the module's own part, which starts with an underscore.
    · obtain ⟨later, whole⟩ := below
      rw [module, ← shorter, List.append_assoc] at whole
      have behind := List.append_cancel_left whole
      cases rest with
      | nil =>
        rw [List.append_nil] at shorter
        exact foreign (shorter ▸ List.prefix_refl _)
      | cons first rest =>
        have underscore : first = '_' := List.head_eq_of_cons_eq behind
        have inside : '_' ∈ "crate::".toList := by
          rw [← shorter, underscore]
          simp
        revert inside
        decide

namespace BaseSymbols

variable {b : BaseSymbols} {id : ShapeId} {shape : Shape} {x : Symbol}

theorem located_primitiveType (foreign : b.runtime.Foreign) (noFile : x.file = none)
    (kind : Primitive) (type : x.type = primitiveType b.runtime kind) : x.Located := by
  have runtime (module : x.type.space = some b.runtime.dataModule) : x.Located := by
    obtain ⟨root, below⟩ := foreign.dataModule
    refine Symbol.located_of_outside noFile ?_
    rintro ⟨space, module', inside⟩
    cases module.symm.trans module'
    exact inside.elim root below
  cases kind with
  | blob | timestamp | document | bigInteger | bigDecimal => exact runtime (by rw [type]; rfl)
  | _ => exact Symbol.located_of_builtin noFile (by simp [type, primitiveType, TypeExpr.space])

theorem located_of_symbol (foreign : b.runtime.Foreign) (found : b.model.get? id = some shape)
    (resolved : b.symbol id = .ok x) : x.Located := by
  have equation := b.symbol_eq id
  rw [resolved, found] at equation
  dsimp only at equation
  unfold shapeSymbol at equation
  cases kind : shape.kind with
  | struct members | union members | enum variants =>
    rw [kind] at equation
    cases equation
    exact Symbol.located_of_below "model" [] (by decide) rfl rfl (Or.inl rfl) rfl
  | operation input output errors =>
    rw [kind] at equation
    cases equation
    exact Symbol.located_of_below "operation" [] (by decide) rfl rfl (Or.inl rfl) rfl
  | service operations resources =>
    rw [kind] at equation
    cases equation
    exact Symbol.located_of_root rfl rfl
  | list member =>
    obtain ⟨item, _, rfl⟩ := symbol_sequence found (Or.inl kind) resolved
    exact Symbol.located_of_builtin rfl (by simp [TypeExpr.space])
  | set member =>
    obtain ⟨item, _, rfl⟩ := symbol_sequence found (Or.inr kind) resolved
    exact Symbol.located_of_builtin rfl (by simp [TypeExpr.space])
  | map key value =>
    obtain ⟨keys, values, _, _, rfl⟩ := symbol_map found kind resolved
    exact Symbol.located_of_builtin rfl (by simp [TypeExpr.space])
  | primitive kind' =>
    rw [kind] at equation
    cases equation
    exact located_primitiveType foreign rfl kind' rfl
  | intEnum variants =>
    rw [kind] at equation
    cases equation
    exact located_primitiveType foreign rfl .integer rfl
  | resource identifiers operations resources =>
    rw [kind] at equation
    cases equation

theorem located_wrapperSymbol (id : ShapeId) : (wrapperSymbol id).Located := by
  refine Symbol.located_of_below "unconstrained"
    ("::".toList ++ (Identifier.snakeCase id.name ++ "_unconstrained").toList) (by decide)
    rfl ?_ (Or.inr (List.prefix_append _ _)) rfl
  simp

theorem located_builderSymbol (id : ShapeId) : (builderSymbol id).Located := by
  refine Symbol.located_of_below "model"
    ("::".toList ++ (Identifier.snakeCase id.name).toList) (by decide) rfl ?_
    (Or.inr (List.prefix_append _ _)) rfl
  simp [modelModule]

theorem located_of_unconstrainedSymbol (foreign : b.runtime.Foreign)
    (found : b.model.get? id = some shape) (resolved : b.unconstrainedSymbol shape = .ok x) :
    x.Located := by
  have raw (standard : shape.type.isStandard = true) : x.Located := by
    rw [unconstrainedSymbol_of_isStandard standard, Model.id_of_get? found] at resolved
    obtain ⟨symbol, base, rfl⟩ := Except.map_eq_ok.mp resolved
    exact (located_of_symbol foreign found base).withKind .raw
  unfold unconstrainedSymbol at resolved
  unfold Shape.type at raw
  cases kind : shape.kind with
  | struct members =>
    rw [kind] at resolved
    cases resolved
    exact located_builderSymbol shape.id
  | union members | list member | set member | map key value =>
    rw [kind] at resolved
    cases resolved
    exact located_wrapperSymbol shape.id
  | enum variants =>
    rw [kind] at resolved
    cases resolved
    exact Symbol.located_of_builtin rfl (by simp [TypeExpr.space])
  | primitive kind' | intEnum variants =>
    rw [kind] at raw
    exact raw rfl
  | operation input output errors | resource identifiers operations resources
  | service operations resources =>
    rw [kind] at resolved
    cases resolved

end BaseSymbols

namespace Context

/-- Whatever the names of shapes are, a run resolves them to symbols whose file and module belong
together, unless the prefix of the runtime leads into the library. -/
theorem symbol_located (c : Context) (foreign : c.settings.runtime.Foreign) (id : ShapeId)
    (x : Symbol) (resolves : c.Resolves id (.ok x)) : x.Located := by
  rcases plainSymbol_cases (resolves_iff.mp resolves) with resolved | ⟨shape, look, resolved⟩
  · obtain ⟨shape, look⟩ := BaseSymbols.exists_get?_of_symbol resolved
    exact BaseSymbols.located_of_symbol foreign look resolved
  · exact BaseSymbols.located_of_unconstrainedSymbol foreign look resolved

/-- A structure with colons in its name. -/
def entry : Shape :=
  ⟨⟨"test", "log::Entry"⟩, .struct [⟨"ship", .prelude "String", [.required]⟩], []⟩

/-- A run for a service that is given entries. -/
def harbor : Context where
  model := {
    shapes := Shape.prelude ++ [
      ⟨⟨"test", "Harbor"⟩, .service [⟨"test", "Arrive"⟩] [], []⟩,
      ⟨⟨"test", "Arrive"⟩, .operation (some entry.id) none [], []⟩,
      entry]
    prelude_first := List.prefix_append _ _
    nodup := by decide +kernel
    closed := by decide +kernel
    unnested := by cbv }
  settings := .forService ⟨"test", "Harbor"⟩ "harbor"

/-- The name gives two modules below the one that names the file. -/
theorem symbol_located_harbor :
    ¬ "crate::".toList <+: harbor.settings.runtime.cratePrefix.toList ∧
      ∃ x, harbor.Resolves entry.id (.ok x) ∧ x.modulePath = ["model", "log", "entry"] ∧
        x.file = some "src/model.rs" ∧ x.Located := by
  have foreign : harbor.settings.runtime.Foreign := by
    unfold RuntimeConfig.Foreign
    decide +kernel
  have found : harbor.model.serviceClosure harbor.settings.service = .ok {
      root := ⟨"test", "Harbor"⟩
      ids := [⟨"test", "Harbor"⟩, ⟨"test", "Arrive"⟩, entry.id, .prelude "String"] } := by cbv
  have look : harbor.model.get? entry.id = some entry := Model.get?_of_mem (by simp [harbor])
  have reaches : harbor.model.ReachesConstrained entry.id :=
    ⟨_, Relation.ReflTransGen.refl, _, look, by decide +kernel⟩
  have resolves : harbor.Resolves entry.id (.ok (BaseSymbols.builderSymbol entry.id)) :=
    resolves_iff.mpr (plainSymbol_eq_unconstrained found (by decide +kernel) look reaches)
  exact ⟨foreign, _, resolves, by decide +kernel, rfl,
    symbol_located harbor foreign _ _ resolves⟩

end Context

end ServerSymbols
