import Reindex.Registry
import Mathlib.Data.List.Nodup
import Mathlib.Data.List.Pairwise

/-!
# Registries that were accepted

Acceptance is read off the checks once, as facts about the declarations: names
are given once, and so are entity names and indices, and all that a declaration refers
to is declared. With distinct names a declaration is found under its name and no
other declaration is; with distinct indices no two of them share one.
-/

namespace Reindex.Registry

/-- The names are accepted when they are distinct and none was given before. -/
theorem checkNames_eq_ok_iff {types names : List String} {declarations : List MappedType} :
    checkNames types names declarations = .ok () ↔
      ((declarations.map MappedType.name).Nodup ∧ ∀ type ∈ declarations, type.name ∉ types) ∧
      ((declarations.map MappedType.entityName).Nodup ∧
        ∀ type ∈ declarations, type.entityName ∉ names) := by
  induction declarations generalizing types names with
  | nil => simp [checkNames]
  | cons declaration rest inductionHypothesis =>
    rw [checkNames]
    split
    · rename_i given
      simp [given]
    · rename_i unused
      split
      · rename_i given
        simp [given]
      · rename_i free
        rw [inductionHypothesis]
        simp only [List.map_cons, List.nodup_cons, List.mem_map, List.mem_cons]
        constructor
        · rintro ⟨⟨distinct, apart⟩, distinctNames, apartNames⟩
          grind
        · rintro ⟨⟨distinct, apart⟩, distinctNames, apartNames⟩
          grind

/-- The embeddings of a type are accepted when all their targets are declared. -/
theorem checkEmbeddings_eq_ok_iff {declared : List String} {type : TypeName}
    {embeddings : List Embedding} :
    checkEmbeddings declared type embeddings = .ok () ↔
      ∀ embedding ∈ embeddings, embedding.target ∈ declared := by
  induction embeddings with
  | nil => simp [checkEmbeddings]
  | cons embedding rest inductionHypothesis =>
    rw [checkEmbeddings]
    split
    · rename_i given
      simp [given, inductionHypothesis]
    · rename_i missing
      simp [missing]

/-- All that a declaration refers to is declared. -/
structure Resolved (declared : List String) (type : MappedType) : Prop where
  above : ∀ supertype ∈ type.supertype, supertype ∈ declared
  targets : ∀ embedding ∈ type.embeddings, embedding.target ∈ declared

/-- The references are accepted when those of the first declaration are, its index was not
used before, and those of the others are accepted after it. -/
theorem checkReferences_cons_eq_ok_iff {declared indices : List String}
    {declaration : MappedType} {rest : List MappedType} :
    checkReferences declared indices (declaration :: rest) = .ok () ↔
      (∀ index ∈ declaration.index, index ∉ indices) ∧ Resolved declared declaration ∧
        checkReferences declared (declaration.index.toList ++ indices) rest = .ok () := by
  have fresh : declaration.index.filter (· ∈ indices) = none ↔
      ∀ index ∈ declaration.index, index ∉ indices := by
    simp [Option.filter_eq_none_iff]
  have above : declaration.supertype.filter (· ∉ declared) = none ↔
      ∀ supertype ∈ declaration.supertype, supertype ∈ declared := by
    simp [Option.filter_eq_none_iff]
  have resolved : Resolved declared declaration ↔
      declaration.supertype.filter (· ∉ declared) = none ∧
        checkEmbeddings declared declaration.name declaration.embeddings = .ok () := by
    rw [above, checkEmbeddings_eq_ok_iff]
    exact ⟨fun given => ⟨given.above, given.targets⟩, fun given => ⟨given.1, given.2⟩⟩
  rw [checkReferences, resolved, ← fresh]
  cases declaration.index.filter (· ∈ indices) with
  | some index => simp [bind, Except.bind]
  | none =>
    cases declaration.supertype.filter (· ∉ declared) with
    | some supertype => simp [bind, Except.bind]
    | none =>
      cases checkEmbeddings declared declaration.name declaration.embeddings with
      | error problem => simp [bind, Except.bind]
      | ok _ => simp [bind, Except.bind]

/-- The references are accepted when the indices are distinct, none was used before, and
all supertypes and all targets of embeddings are declared. -/
theorem checkReferences_eq_ok_iff {declared indices : List String}
    {declarations : List MappedType} :
    checkReferences declared indices declarations = .ok () ↔
      ((declarations.filterMap MappedType.index).Nodup ∧
        ∀ index ∈ declarations.filterMap MappedType.index, index ∉ indices) ∧
      ∀ type ∈ declarations, Resolved declared type := by
  induction declarations generalizing indices with
  | nil => simp [checkReferences]
  | cons declaration rest inductionHypothesis =>
    rw [checkReferences_cons_eq_ok_iff, inductionHypothesis]
    cases indexed : declaration.index with
    | none => grind
    | some index => grind

/-- Declarations are accepted when their names and their references are. -/
theorem ofDeclarations_eq_ok_iff {types : List MappedType} {registry : Registry} :
    ofDeclarations types = .ok registry ↔ registry = ⟨types⟩ ∧ checkNames [] [] types = .ok () ∧
      checkReferences (types.map MappedType.name) [] types = .ok () := by
  rw [ofDeclarations]
  cases checkNames [] [] types with
  | error problem => simp [bind, Except.bind]
  | ok _ =>
    cases checkReferences (types.map MappedType.name) [] types with
    | error problem => simp [bind, Except.bind]
    | ok _ => simp [bind, Except.bind, pure, Except.pure, eq_comm]

/-- A registry lists the declarations that it was made from, with distinct names
and distinct entity names. -/
theorem of_accepted {types : List MappedType} {registry : Registry}
    (accepted : ofDeclarations types = .ok registry) :
    registry.types = types ∧ (registry.types.map MappedType.name).Nodup ∧
      (registry.types.map MappedType.entityName).Nodup := by
  obtain ⟨rfl, names, _⟩ := ofDeclarations_eq_ok_iff.1 accepted
  have distinct := checkNames_eq_ok_iff.1 names
  exact ⟨rfl, distinct.1.1, distinct.2.1⟩

/-- No two declarations share an index. -/
theorem eq_of_index {types : List MappedType} {registry : Registry} {index : String}
    (accepted : ofDeclarations types = .ok registry) {first second : MappedType}
    (declared : first ∈ registry.types) (declared' : second ∈ registry.types)
    (indexed : first.index = some index) (indexed' : second.index = some index) :
    first = second := by
  obtain ⟨rfl, _, references⟩ := ofDeclarations_eq_ok_iff.1 accepted
  have distinct := (checkReferences_eq_ok_iff.1 references).1.1
  rw [List.Nodup, List.pairwise_filterMap] at distinct
  by_contra apart
  have symmetric : Std.Symm fun a b : MappedType =>
      ∀ place, a.index = some place → ∀ place', b.index = some place' → place ≠ place' := by
    constructor
    intro a b apart place indexed place' indexed' same
    exact apart place' indexed' place indexed same.symm
  exact distinct.forall declared declared' apart index indexed index indexed' rfl

/-- Where names of a kind are distinct, a declaration is found under its name and no other one
is. -/
theorem find?_eq_some_iff {label : MappedType → String} {types : List MappedType}
    (distinct : (types.map label).Nodup) {name : String} {type : MappedType} :
    types.find? (label · == name) = some type ↔ type ∈ types ∧ label type = name := by
  constructor
  · intro found
    exact ⟨List.mem_of_find?_eq_some found, by simpa using List.find?_some found⟩
  · rintro ⟨member, rfl⟩
    obtain ⟨first, lookup⟩ : ∃ first, types.find? (label · == label type) = some first := by
      rw [← Option.isSome_iff_exists, List.find?_isSome]
      exact ⟨type, member, by simp⟩
    have named : label first = label type := by simpa using List.find?_some lookup
    rw [lookup, List.inj_on_of_nodup_map distinct (List.mem_of_find?_eq_some lookup) member named]

/-- What is found under a name is a declaration with that name. -/
theorem of_get? {registry : Registry} {name : TypeName} {type : MappedType}
    (found : registry.get? name = some type) : type ∈ registry.types ∧ type.name = name :=
  ⟨List.mem_of_find?_eq_some found, by simpa using List.find?_some found⟩

/-- A declaration is found under its name. -/
theorem get?_of_mem {registry : Registry} (distinct : (registry.types.map MappedType.name).Nodup)
    {type : MappedType} (member : type ∈ registry.types) :
    registry.get? type.name = some type :=
  (find?_eq_some_iff distinct).2 ⟨member, rfl⟩

end Reindex.Registry
