import Reindex.Proofs.Library
import Reindex.Proofs.Registry.Catalogue

/-!
# Declarations as they are written

A type is declared with or without an index, and then described by settings, one after
another. A setting that is made again takes the place of the one made before; only
embeddings are collected. What is never set has its default, and the default of the
entity name is the name of the type, so a name that nobody wrote can be the one that is
given twice.

Acceptance is said of what was written. Declarations are accepted exactly when they fit
together, and a registry of them answers to every name with the one declaration that
bears it.
-/

namespace Reindex

/-- What can be set of a type that is declared. -/
inductive Setting where
  | entityName (name : String)
  | identifier (rule : IdentifierRule)
  | dirtyPaths (paths : List Path)
  | supertype (name : TypeName)
  | embed (embedding : Embedding)

namespace Setting

/-- Make a setting. -/
def apply (type : MappedType) : Setting → MappedType
  | .entityName name => { type with entityName := name }
  | .identifier rule => { type with identifier := rule }
  | .dirtyPaths paths => { type with dirtyPaths := .paths (.ofList paths) }
  | .supertype name => { type with supertype := some name }
  | .embed embedding => { type with embeddings := type.embeddings ++ [embedding] }

/-- The entity name that is set, if it is. -/
def entityName? : Setting → Option String
  | .entityName name => some name
  | _ => none

/-- The supertype that is set, if it is. -/
def supertype? : Setting → Option TypeName
  | .supertype name => some name
  | _ => none

/-- The embedding that is added, if one is. -/
def embedding? : Setting → Option Embedding
  | .embed embedding => some embedding
  | _ => none

/-- What every setting either takes the place of or leaves alone is in the end as it was
set last, and as it was in the beginning if it never was. -/
theorem foldl_apply {Field : Type} (field : MappedType → Field) (said : Setting → Option Field)
    (replaces : ∀ type setting, field (apply type setting) = (said setting).getD (field type))
    (type : MappedType) (settings : List Setting) :
    field (settings.foldl apply type) = (settings.filterMap said).getLast?.getD (field type) := by
  induction settings generalizing type with
  | nil => rfl
  | cons setting rest inductionHypothesis =>
    rw [List.foldl_cons, inductionHypothesis, replaces, List.filterMap_cons]
    cases said setting with
    | none => rfl
    | some value => rw [List.getLast?_cons]; rfl

/-- Embeddings are collected in order. -/
theorem embeddings_foldl_apply (type : MappedType) (settings : List Setting) :
    (settings.foldl apply type).embeddings = type.embeddings ++ settings.filterMap embedding? := by
  induction settings generalizing type with
  | nil => simp
  | cons setting rest inductionHypothesis =>
    rw [List.foldl_cons, inductionHypothesis]
    cases setting with
    | embed embedding => simp [apply, embedding?]
    | _ => rfl

end Setting

/-- The declaration of a type as it is written. -/
structure Declaration where
  name : TypeName
  index : Option String := none
  settings : List Setting := []

namespace Declaration

/-- The mapped type that is declared. -/
def type (declaration : Declaration) : MappedType :=
  declaration.settings.foldl Setting.apply
    { name := declaration.name, entityName := declaration.name, index := declaration.index }

/-- The entity name that was set last, or else the name of the type. -/
def entityName (declaration : Declaration) : String :=
  (declaration.settings.filterMap Setting.entityName?).getLast?.getD declaration.name

/-- The supertype that was set last, if one was. -/
def supertype? (declaration : Declaration) : Option TypeName :=
  (declaration.settings.filterMap Setting.supertype?).getLast?

/-- The embeddings, in order. -/
def embeddings (declaration : Declaration) : List Embedding :=
  declaration.settings.filterMap Setting.embedding?

variable (declaration : Declaration)

/-- No setting changes the name of a type -/
@[simp] theorem type_name : declaration.type.name = declaration.name := by
  have kept := Setting.foldl_apply MappedType.name (fun _ => none)
    (fun _ setting => by cases setting <;> rfl)
  rw [type, kept]
  simp

/-- or its index. -/
@[simp] theorem type_index : declaration.type.index = declaration.index := by
  have kept := Setting.foldl_apply MappedType.index (fun _ => none)
    (fun _ setting => by cases setting <;> rfl)
  rw [type, kept]
  simp

/-- The entity name is the one that was set last, or the name of the type, -/
@[simp] theorem type_entityName : declaration.type.entityName = declaration.entityName :=
  Setting.foldl_apply MappedType.entityName Setting.entityName?
    (fun _ setting => by cases setting <;> rfl) _ _

/-- the supertype is the one that was set last, -/
@[simp] theorem type_supertype : declaration.type.supertype = declaration.supertype? := by
  have last := Setting.foldl_apply MappedType.supertype (fun setting => setting.supertype?.map some)
    (fun _ setting => by cases setting <;> rfl)
  rw [type, last, ← List.map_filterMap, List.getLast?_map]
  cases lastSet : (declaration.settings.filterMap Setting.supertype?).getLast? with
  | none => simp [supertype?, lastSet]
  | some name => simp [supertype?, lastSet]

/-- and the embeddings are those that were added. -/
@[simp] theorem type_embeddings : declaration.type.embeddings = declaration.embeddings := by
  rw [type, Setting.embeddings_foldl_apply]
  rfl

end Declaration

/-- The registry of declarations as they were written, or the first problem found. -/
def Registry.build (declarations : List Declaration) : Except MappingProblem Registry :=
  ofDeclarations (declarations.map Declaration.type)

/-- A type is declared, before or behind those that refer to it. -/
def Declares (declarations : List Declaration) (name : TypeName) : Prop :=
  ∃ declaration ∈ declarations, declaration.name = name

/-- Declarations fit together: no type, entity name or index is given twice, and nothing
refers to a type that is not declared. -/
structure FitTogether (declarations : List Declaration) : Prop where
  types : (declarations.map Declaration.name).Nodup
  entityNames : (declarations.map Declaration.entityName).Nodup
  indices : (declarations.filterMap Declaration.index).Nodup
  supertypes : ∀ declaration ∈ declarations, ∀ supertype ∈ declaration.supertype?,
    Declares declarations supertype
  targets : ∀ declaration ∈ declarations, ∀ embedding ∈ declaration.embeddings,
    Declares declarations embedding.target

variable {declarations : List Declaration}

/-- Declarations as they were written are accepted when they fit together. -/
theorem Registry.build_eq_ok_iff {registry : Registry} :
    build declarations = .ok registry ↔
      registry = ⟨declarations.map Declaration.type⟩ ∧ FitTogether declarations := by
  have names : (declarations.map Declaration.type).map MappedType.name =
      declarations.map Declaration.name := by simp
  have entityNames : (declarations.map Declaration.type).map MappedType.entityName =
      declarations.map Declaration.entityName := by simp
  have indices : (declarations.map Declaration.type).filterMap MappedType.index =
      declarations.filterMap Declaration.index := by simp [List.filterMap_map]
  have declared (name : TypeName) :
      name ∈ declarations.map Declaration.name ↔ Declares declarations name := by
    simp [Declares]
  have resolved (declaration : Declaration) :
      Resolved (declarations.map Declaration.name) declaration.type ↔
        (∀ supertype ∈ declaration.supertype?, Declares declarations supertype) ∧
          ∀ embedding ∈ declaration.embeddings, Declares declarations embedding.target := by
    refine ⟨fun given => ?_, fun given => ⟨?_, ?_⟩⟩
    · exact ⟨by simpa [declared] using given.above, by simpa [declared] using given.targets⟩
    · simpa [declared] using given.1
    · simpa [declared] using given.2
  rw [build, ofDeclarations_eq_ok_iff, checkNames_eq_ok_iff, checkReferences_eq_ok_iff, names,
    entityNames, indices]
  simp only [List.not_mem_nil, not_false_eq_true, implies_true, and_true, List.forall_mem_map,
    resolved]
  refine and_congr_right fun _ => ⟨?_, ?_⟩
  · rintro ⟨⟨types, entityNames⟩, indices, references⟩
    exact ⟨types, entityNames, indices, fun declaration member => (references declaration member).1,
      fun declaration member => (references declaration member).2⟩
  · rintro ⟨types, entityNames, indices, supertypes, targets⟩
    exact ⟨⟨types, entityNames⟩, indices, fun declaration member =>
      ⟨supertypes declaration member, targets declaration member⟩⟩

/-- A registry answers for declarations. To every name it gives the one declaration that
bears it, if one does, and else the reason that none does; the targets of all embeddings
are found, and what is listed is listed in the order in which it was declared. -/
structure AnswersFor (declarations : List Declaration) (registry : Registry) : Prop where
  get : ∀ name type, registry.get? name = some type ↔
    ∃ declaration ∈ declarations, declaration.name = name ∧ declaration.type = type
  contains : ∀ name, registry.contains name = true ↔ Declares declarations name
  resolve : ∀ name type, registry.resolve name = .ok type ↔
    ∃ declaration ∈ declarations, declaration.name = name ∧ declaration.type = type
  unknownType : ∀ name error, registry.resolve name = .error error ↔
    ¬ Declares declarations name ∧ error = .unknownType name
  entityName : ∀ name type, registry.resolveEntityName name = .ok type ↔
    ∃ declaration ∈ declarations, declaration.entityName = name ∧ declaration.type = type
  unknownEntityName : ∀ name error, registry.resolveEntityName name = .error error ↔
    (∀ declaration ∈ declarations, declaration.entityName ≠ name) ∧
      error = .unknownEntityName name (declarations.map Declaration.entityName)
  /-- No name is borne in two places. -/
  alone : ∀ (place other : Nat) (first second : Declaration),
    declarations[place]? = some first → declarations[other]? = some second →
      first.name = second.name ∨ first.entityName = second.entityName → place = other
  target : ∀ type ∈ registry.types, ∀ embedding ∈ type.embeddings,
    ∃ target, registry.resolve embedding.target = .ok target ∧ target.name = embedding.target
  listed : registry.types = declarations.map Declaration.type
  indexed : registry.indexed =
    (declarations.filter fun declaration => declaration.index.isSome).map Declaration.type

/-- Where the names of a kind are distinct, the first declaration with a name is the one that
was written with it. -/
theorem find?_declared {label : MappedType → String} {written : Declaration → String}
    (same : ∀ declaration, label declaration.type = written declaration)
    (distinct : (declarations.map written).Nodup) {name : String} {type : MappedType} :
    (declarations.map Declaration.type).find? (label · == name) = some type ↔
      ∃ declaration ∈ declarations, written declaration = name ∧ declaration.type = type := by
  have labelled : ((declarations.map Declaration.type).map label).Nodup := by
    rwa [List.map_map, show label ∘ Declaration.type = written from funext same]
  rw [Registry.find?_eq_some_iff labelled, List.mem_map]
  constructor
  · rintro ⟨⟨declaration, member, rfl⟩, rfl⟩
    exact ⟨declaration, member, (same declaration).symm, rfl⟩
  · rintro ⟨declaration, member, rfl, rfl⟩
    exact ⟨⟨declaration, member, rfl⟩, same declaration⟩

/-- Where no declaration was written with a name, none is found. -/
theorem find?_undeclared {label : MappedType → String} {written : Declaration → String}
    (same : ∀ declaration, label declaration.type = written declaration) {name : String} :
    (declarations.map Declaration.type).find? (label · == name) = none ↔
      ∀ declaration ∈ declarations, written declaration ≠ name := by
  simp [same]

/-- Where the names of a kind are distinct, no two places bear the same one. -/
theorem place_unique {written : Declaration → String}
    (distinct : (declarations.map written).Nodup) {place other : Nat} {first second : Declaration}
    (here : declarations[place]? = some first) (there : declarations[other]? = some second)
    (same : written first = written second) : place = other := by
  obtain ⟨bounded, _⟩ := List.getElem?_eq_some_iff.1 here
  refine (List.getElem?_inj (by simpa using bounded) distinct).1 ?_
  rw [List.getElem?_map, List.getElem?_map, here, there, Option.map_some, Option.map_some, same]

namespace Registry

/-- A type is resolved to the declaration that is found, -/
theorem resolve_eq_ok_iff {registry : Registry} {name : TypeName} {type : MappedType} :
    registry.resolve name = .ok type ↔ registry.get? name = some type := by
  rw [resolve]
  cases registry.get? name with
  | none => simp
  | some found => simp

/-- and refused when there is none; -/
theorem resolve_eq_error_iff {registry : Registry} {name : TypeName} {error : IndexingError} :
    registry.resolve name = .error error ↔
      registry.get? name = none ∧ error = .unknownType name := by
  rw [resolve]
  cases registry.get? name with
  | none => simp [eq_comm]
  | some found => simp

/-- an entity name likewise, -/
theorem resolveEntityName_eq_ok_iff {registry : Registry} {name : String} {type : MappedType} :
    registry.resolveEntityName name = .ok type ↔
      registry.types.find? (·.entityName == name) = some type := by
  rw [resolveEntityName]
  cases registry.types.find? (·.entityName == name) with
  | none => simp
  | some found => simp

/-- with all entity names in the refusal. -/
theorem resolveEntityName_eq_error_iff {registry : Registry} {name : String}
    {error : IndexingError} :
    registry.resolveEntityName name = .error error ↔
      registry.types.find? (·.entityName == name) = none ∧
        error = .unknownEntityName name (registry.types.map MappedType.entityName) := by
  rw [resolveEntityName]
  cases registry.types.find? (·.entityName == name) with
  | none => simp [eq_comm]
  | some found => simp

end Registry

/-- Where declarations fit together, their registry answers for them. -/
theorem FitTogether.answersFor (fit : FitTogether declarations) :
    AnswersFor declarations ⟨declarations.map Declaration.type⟩ := by
  have get (name : TypeName) (type : MappedType) :
      Registry.get? ⟨declarations.map Declaration.type⟩ name = some type ↔
        ∃ declaration ∈ declarations, declaration.name = name ∧ declaration.type = type :=
    find?_declared Declaration.type_name fit.types
  have missing (name : TypeName) :
      Registry.get? ⟨declarations.map Declaration.type⟩ name = none ↔
        ¬ Declares declarations name := by
    refine (find?_undeclared Declaration.type_name).trans ?_
    simp [Declares]
  have known : (declarations.map Declaration.type).map MappedType.entityName =
      declarations.map Declaration.entityName := by simp
  refine {
    get
    contains := fun name => ?_
    resolve := fun name type => Registry.resolve_eq_ok_iff.trans (get name type)
    unknownType := fun name error => Registry.resolve_eq_error_iff.trans
      (and_congr_left fun _ => missing name)
    entityName := fun name type => Registry.resolveEntityName_eq_ok_iff.trans
      (find?_declared Declaration.type_entityName fit.entityNames)
    unknownEntityName := fun name error => ?_
    alone := ?_
    target := ?_
    listed := rfl
    indexed := ?_ }
  · rw [Registry.contains, ← Option.ne_none_iff_isSome, ne_eq, missing, not_not]
  · rw [Registry.resolveEntityName_eq_error_iff, known,
      find?_undeclared Declaration.type_entityName]
  · rintro place other first second here there (same | same)
    · exact place_unique fit.types here there same
    · exact place_unique fit.entityNames here there same
  · rintro type declared embedding embeds
    obtain ⟨declaration, member, rfl⟩ := List.mem_map.1 declared
    rw [Declaration.type_embeddings] at embeds
    obtain ⟨target, declaredTarget, named⟩ := fit.targets declaration member embedding embeds
    have found := (get _ _).2 ⟨target, declaredTarget, named, rfl⟩
    exact ⟨target.type, Registry.resolve_eq_ok_iff.2 found, target.type_name.trans named⟩
  · simp only [Registry.indexed, List.filter_map]
    congr 2
    funext declaration
    simp [MappedType.isIndexed]

/-- Declarations are accepted exactly when they fit together, whatever was set for them and
in whichever order they refer to each other, and the registry of accepted declarations
answers for them and for nothing else. Kept in memory, with tables that are filled while the
declarations are checked, it is refused for the same reasons and answers in the same way. -/
theorem registration_exact (declarations : List Declaration) :
    ((∃ registry, Registry.build declarations = .ok registry) ↔ FitTogether declarations) ∧
      (∀ registry, Registry.build declarations = .ok registry →
        AnswersFor declarations registry ∧
          ∃ catalogue, Catalogue.build (declarations.map Declaration.type) = .ok catalogue ∧
            catalogue.Answers registry) ∧
      ∀ problem, Catalogue.build (declarations.map Declaration.type) = .error problem ↔
        Registry.build declarations = .error problem := by
  refine ⟨⟨?_, ?_⟩, ?_, fun problem => Catalogue.build_eq_error_iff⟩
  · rintro ⟨registry, built⟩
    exact (Registry.build_eq_ok_iff.1 built).2
  · intro fit
    exact ⟨_, Registry.build_eq_ok_iff.2 ⟨rfl, fit⟩⟩
  · intro registry built
    refine ⟨?_, Catalogue.exists_answers built⟩
    obtain ⟨rfl, fit⟩ := Registry.build_eq_ok_iff.1 built
    exact fit.answersFor

namespace Library

/-- The library as it is written down. Shelves refer to books that are only declared later,
and the entity name of authors is set twice. -/
def writtenDown : List Declaration := [
  { name := "Shelf", index := some "shelves", settings := [
    .embed { property := "books", target := "Book" }] },
  { name := "Book", index := some "books", settings := [
    .dirtyPaths ["title"], .embed { property := "author", target := "Author" }] },
  { name := "Author", settings := [.entityName "writer", .entityName "author"] }]

/-- It is accepted; the authors are found under the name that was set last, and no longer
under the name of their type, which is not theirs any more. -/
theorem authors_answer_by_name :
    ∃ registry, Registry.build writtenDown = .ok registry ∧
      (registry.resolve "Author").toOption.map MappedType.entityName = some "author" ∧
      (∃ type, registry.resolveEntityName "author" = .ok type ∧ type.name = "Author") ∧
      registry.resolveEntityName "Author" =
        .error (.unknownEntityName "Author" ["Shelf", "Book", "author"]) := by
  have built : Registry.build writtenDown =
      .ok ⟨writtenDown.map Declaration.type⟩ := rfl
  obtain ⟨-, accepted, -⟩ := registration_exact writtenDown
  obtain ⟨answers, -⟩ := accepted _ built
  have author : ∃ declaration ∈ writtenDown,
      declaration.entityName = "author" ∧ declaration.type = writtenDown[2].type :=
    ⟨writtenDown[2], by simp, rfl, rfl⟩
  refine ⟨_, built, rfl, ⟨_, (answers.entityName "author" _).2 author, rfl⟩, ?_⟩
  exact (answers.unknownEntityName "Author" _).2 ⟨by decide, rfl⟩

end Library

end Reindex
