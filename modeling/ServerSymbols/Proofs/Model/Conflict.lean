import ServerSymbols.Proofs.Model.Clash
import ServerSymbols.Proofs.Model.Bare

set_option autoImplicit false

/-
When names conflict. Keys are made from the words of a name, yet a key is the name without its
separators and in lower case, wherever words begin. So the closure of a service is refused exactly if
two of its names are the same up to separators and letter case, and the earliest such pair is
reported.
-/
namespace ServerSymbols

/-- The name without its separators, each other character in lower case by itself. -/
def ShapeId.plainName (id : ShapeId) : List Char :=
  (id.name.toList.filter (· ∉ ['_', '-', ' ', '.'])).flatMap Text.toLowercase

/-- Two shapes that are not of the prelude and have the same plain name. -/
structure ShapeId.Clash (a b : ShapeId) : Prop where
  ne : a ≠ b
  ownLeft : a.isPrelude = false
  ownRight : b.isPrelude = false
  same : a.plainName = b.plainName

namespace Model

/-- The second of two clashing ids is the earliest in the list with which an earlier one clashes, and
the first is the only earlier one with its plain name. -/
def FirstClash (ids : List ShapeId) (first second : ShapeId) : Prop :=
  ∃ before after, ids = before ++ second :: after ∧
    (before.Pairwise fun a b => ¬ a.Clash b) ∧ first ∈ before ∧ first.Clash second ∧
    ∀ other ∈ before, other.Clash second → other = first

/-! ### Keys -/

theorem not_isSeparator (c : Char) :
    (!Identifier.isSeparator c) = decide (c ∉ ['_', '-', ' ', '.']) := by
  rw [Bool.eq_iff_iff]
  simp [Identifier.isSeparator, and_assoc]

/-- Where words begin makes no difference to the key. -/
theorem nameKey_eq_plainName (id : ShapeId) : nameKey id = id.plainName := by
  have joined (words : List (List Char)) :
      words.flatMap (·.flatMap Text.toLowercase) = words.flatten.flatMap Text.toLowercase := by
    rw [List.flatten_eq_flatMap, List.flatMap_assoc]
    rfl
  have plain : nameKey id = id.plainName.filter (· != '_') := by
    unfold nameKey ShapeId.plainName
    rw [Identifier.filter_snake, joined, Identifier.flatten_words, funext not_isSeparator]
  rw [plain, List.filter_eq_self]
  intro c mem
  obtain ⟨origin, listed, lower⟩ := List.mem_flatMap.mp mem
  have other := (List.mem_filter.mp listed).2
  by_cases underscore : c = '_'
  · rw [underscore, Text.mem_toLowercase_underscore] at lower
    simp [lower] at other
  · simpa using underscore

theorem clash_iff {a b : ShapeId} :
    a.Clash b ↔ a ≠ b ∧ a.isPrelude = false ∧ b.isPrelude = false ∧ nameKey a = nameKey b := by
  rw [nameKey_eq_plainName, nameKey_eq_plainName]
  exact ⟨fun clash => ⟨clash.ne, clash.ownLeft, clash.ownRight, clash.same⟩,
    fun ⟨ne, left, right, same⟩ => ⟨ne, left, right, same⟩⟩

/-! ### The first clash -/

/-- What the search for a clash reports: an id with the key of an earlier one, where no two ids
before it have the same key. -/
theorem firstClash?_eq_some {seen ids : List ShapeId} {first second : ShapeId}
    (found : firstClash? seen ids = some (first, second)) :
    ∃ before after, ids = before ++ second :: after ∧ firstClash? seen before = none ∧
      first ∈ seen ++ before ∧ nameKey first = nameKey second := by
  induction ids generalizing seen with
  | nil => cases found
  | cons id rest ih =>
    unfold firstClash? at found
    cases clash : seen.find? (nameKey · == nameKey id) with
    | some earlier =>
      rw [clash] at found
      cases found
      have old := List.mem_of_find?_eq_some clash
      exact ⟨[], rest, rfl, rfl, by simpa using old, by simpa using List.find?_some clash⟩
    | none =>
      rw [clash] at found
      obtain ⟨before, after, split, clear, mem, same⟩ := ih found
      refine ⟨id :: before, after, by rw [split, List.cons_append], ?_, by simpa using mem, same⟩
      rw [firstClash?, clash]
      exact clear

section FirstClash

variable {ids before : List ShapeId} {first second : ShapeId}

/-- Own ids with keys of their own do not clash. -/
theorem pairwise_not_clash_iff (distinct : before.Nodup) :
    (before.Pairwise fun a b => ¬ a.Clash b) ↔
      ((before.filter (!·.isPrelude)).map nameKey).Nodup := by
  rw [List.Nodup, List.pairwise_map, List.pairwise_filter]
  constructor
  · intro apart
    refine (apart.and distinct).imp fun {a b} both ownA ownB same => ?_
    exact both.1 (clash_iff.mpr ⟨both.2, by simpa using ownA, by simpa using ownB, same⟩)
  · intro apart
    refine apart.imp fun {a b} differ clash => ?_
    obtain ⟨_, ownA, ownB, same⟩ := clash_iff.mp clash
    exact differ (by simpa using ownA) (by simpa using ownB) same

theorem firstClash_of_firstClash? (distinct : ids.Nodup)
    (found : firstClash? [] (ids.filter (!·.isPrelude)) = some (first, second)) :
    FirstClash ids first second := by
  obtain ⟨own, _, split, clear, mem, same⟩ := firstClash?_eq_some found
  obtain ⟨start, rest, whole, filtered, later⟩ := List.filter_eq_append_iff.mp split
  obtain ⟨skipped, after, passed, prelude, ownSecond, _⟩ := List.filter_eq_cons_iff.mp later
  have ownBefore : (start ++ skipped).filter (!·.isPrelude) = own := by
    rw [List.filter_append, filtered, List.filter_eq_nil_iff.mpr prelude, List.append_nil]
  have split : ids = (start ++ skipped) ++ second :: after := by
    rw [whole, passed, List.append_assoc]
  have apart := List.nodup_append.mp (split ▸ distinct)
  have keys : (own.map nameKey).Nodup := (firstClash?_eq_none_iff.mp clear).1
  have member_iff : ∀ id, id ∈ own ↔ id ∈ start ++ skipped ∧ id.isPrelude = false := by
    intro id
    rw [← ownBefore, List.mem_filter, Bool.not_eq_true']
  obtain ⟨listed, ownFirst⟩ := (member_iff first).mp (by simpa using mem)
  refine ⟨start ++ skipped, after, split, ?_, listed, ?_, ?_⟩
  · rw [pairwise_not_clash_iff apart.1, ownBefore]
    exact keys
  · have differ : first ≠ second := apart.2.2 first listed second List.mem_cons_self
    exact clash_iff.mpr ⟨differ, ownFirst, by simpa using ownSecond, same⟩
  · intro other before clash
    obtain ⟨_, ownOther, _, same'⟩ := clash_iff.mp clash
    exact List.inj_on_of_nodup_map keys ((member_iff other).mpr ⟨before, ownOther⟩)
      ((member_iff first).mpr ⟨listed, ownFirst⟩) (same'.trans same.symm)

theorem FirstClash.exists_clash (clash : FirstClash ids first second) :
    ∃ a ∈ ids, ∃ b ∈ ids, a.Clash b := by
  obtain ⟨before, after, rfl, _, mem, clashes, _⟩ := clash
  exact ⟨first, by simp [mem], second, by simp, clashes⟩

/-- A part without clashes ends before the second id of a clash. -/
theorem length_le_of_pairwise {start after rest : List ShapeId} {next : ShapeId}
    (split : before ++ second :: after = start ++ next :: rest) (mem : first ∈ before)
    (clash : first.Clash second) (apart : start.Pairwise fun a b => ¬ a.Clash b) :
    start.length ≤ before.length := by
  by_contra longer
  have upTo : before ++ [second] <+: before ++ second :: after := by simp
  have part : start <+: before ++ second :: after := ⟨next :: rest, split.symm⟩
  have inside : before ++ [second] <+: start := by
    apply List.prefix_of_prefix_length_le upTo part
    simp
    omega
  have both := List.pairwise_append.mp (apart.sublist inside.sublist)
  exact both.2.2 first mem second List.mem_cons_self clash

/-- There is only one first clash. -/
theorem FirstClash.unique {first' second' : ShapeId} (clash : FirstClash ids first second)
    (clash' : FirstClash ids first' second') : first = first' ∧ second = second' := by
  obtain ⟨before, after, rfl, apart, mem, clashes, only⟩ := clash
  obtain ⟨before', after', split, apart', mem', clashes', only'⟩ := clash'
  have length : before.length = before'.length := by
    apply Nat.le_antisymm
    · exact length_le_of_pairwise split.symm mem' clashes' apart
    · exact length_le_of_pairwise split mem clashes apart'
  obtain ⟨rfl, same⟩ := List.append_inj split length
  obtain ⟨rfl, _⟩ := List.cons_eq_cons.mp same
  exact ⟨only' first mem clashes, rfl⟩

end FirstClash

/-! ### Services -/

section Service

variable {m : Model} {service : ShapeId} {shape : Shape} {c : Closure}

/-- A service is refused for its first clash, and accepted if it has none. -/
theorem serviceClosure_verdict (expected : m.expectService service = .ok shape)
    (walked : m.walk service = .ok c) :
    (∃ first second, m.serviceClosure service = .error (.conflictingNames first second) ∧
        FirstClash c.ids first second) ∨
      m.serviceClosure service = .ok c ∧ ∀ a ∈ c.ids, ∀ b ∈ c.ids, ¬ a.Clash b := by
  have distinct := (walk_closed walked).2.2.nodup
  rw [serviceClosure_of_walk expected walked]
  cases clash : firstClash? [] (c.ids.filter (!·.isPrelude)) with
  | some pair =>
    obtain ⟨first, second⟩ := pair
    exact Or.inl ⟨first, second, rfl, firstClash_of_firstClash? distinct clash⟩
  | none =>
    have keys := (firstClash?_eq_none_iff.mp clash).1
    refine Or.inr ⟨rfl, fun a memA b memB clash => clash.ne ?_⟩
    obtain ⟨_, ownA, ownB, same⟩ := clash_iff.mp clash
    apply List.inj_on_of_nodup_map keys _ _ same
    · exact List.mem_filter.mpr ⟨memA, by simp [ownA]⟩
    · exact List.mem_filter.mpr ⟨memB, by simp [ownB]⟩

end Service

/-- What a service leads to is refused for conflicting names exactly if two shapes in it that are not
of the prelude have the same name but for separators and letter case. The pair that is reported is
the earliest. Without such a pair, the service leads to what a walk from it finds. -/
theorem serviceClosure_conflict (m : Model) (service : ShapeId) (shape : Shape)
    (found : m.get? service = some shape) (isService : shape.type = .service) :
    ∃ c, m.walk service = .ok c ∧
      ((∃ first second, m.serviceClosure service = .error (.conflictingNames first second)) ↔
        ∃ a ∈ c.ids, ∃ b ∈ c.ids, a.Clash b) ∧
      (∀ first second, m.serviceClosure service = .error (.conflictingNames first second) ↔
        FirstClash c.ids first second) ∧
      (m.serviceClosure service = .ok c ↔ ¬ ∃ a ∈ c.ids, ∃ b ∈ c.ids, a.Clash b) := by
  have expected : m.expectService service = .ok shape := by
    rw [expectService_of_get? found, if_pos isService]
  obtain ⟨c, walked, _⟩ := walk_ok ⟨shape, found⟩
  refine ⟨c, walked, ?_⟩
  rcases serviceClosure_verdict expected walked with ⟨first, second, refused, clash⟩ | ⟨ok, clear⟩
  · have some_clash : ∃ a ∈ c.ids, ∃ b ∈ c.ids, a.Clash b := clash.exists_clash
    rw [refused]
    refine ⟨by simp [some_clash], fun first' second' => ?_, by simp [some_clash]⟩
    constructor
    · intro same
      cases same
      exact clash
    · intro clash'
      obtain ⟨rfl, rfl⟩ := clash.unique clash'
      rfl
  · have no_clash : ¬ ∃ a ∈ c.ids, ∃ b ∈ c.ids, a.Clash b := by
      rintro ⟨a, memA, b, memB, clash⟩
      exact clear a memA b memB clash
    rw [ok]
    refine ⟨by simp [no_clash], fun first second => ?_, by simp [no_clash]⟩
    simp only [reduceCtorEq, false_iff]
    exact fun clash => no_clash clash.exists_clash

/-- A service with one operation. -/
def harbour : Shape :=
  ⟨⟨"test", "Harbour"⟩, .service [⟨"test", "Berth"⟩] [], []⟩

/-- Three structures with one name but for separators and letter case. -/
def ports : Model where
  shapes := Shape.prelude ++ [harbour,
    ⟨⟨"test", "Berth"⟩, .operation (some ⟨"test", "HTTP-Port"⟩) (some ⟨"atlas", "HttpPort"⟩)
      [⟨"test", "h.t_tPPort"⟩], []⟩,
    ⟨⟨"test", "HTTP-Port"⟩, .struct [], []⟩, ⟨⟨"atlas", "HttpPort"⟩, .struct [], []⟩,
    ⟨⟨"test", "h.t_tPPort"⟩, .struct [], []⟩]
  prelude_first := List.prefix_append _ _
  nodup := by decide +kernel
  closed := by decide +kernel
  unnested := by cbv

/-- All three clash. The pair that is reported is that of the first two. -/
theorem serviceClosure_conflict_ports :
    ports.get? harbour.id = some harbour ∧ harbour.type = .service ∧
      ports.serviceClosure harbour.id =
        .error (.conflictingNames ⟨"test", "HTTP-Port"⟩ ⟨"atlas", "HttpPort"⟩) ∧
      ∃ c, ports.walk harbour.id = .ok c ∧
        FirstClash c.ids ⟨"test", "HTTP-Port"⟩ ⟨"atlas", "HttpPort"⟩ := by
  have found : ports.get? harbour.id = some harbour :=
    get?_of_mem (List.mem_append_right Shape.prelude List.mem_cons_self)
  have refused : ports.serviceClosure harbour.id =
      .error (.conflictingNames ⟨"test", "HTTP-Port"⟩ ⟨"atlas", "HttpPort"⟩) := by
    cbv
  obtain ⟨c, walked, _, earliest, _⟩ := serviceClosure_conflict ports harbour.id harbour found rfl
  exact ⟨found, rfl, refused, c, walked, (earliest _ _).mp refused⟩

end Model

end ServerSymbols
