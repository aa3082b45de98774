import Reindex.Proofs.Registry
import Reindex.Proofs.Table

/-!
# Registries with tables of places

Declarations are asked for at every registration. Whoever keeps them in memory fills
two tables beside them while they are checked: one leads from the name of a type to
the place of its declaration, the other from its entity name. A catalogue is a
registry that is kept in this way.

A name that is entered is refused if the table held it before. Tables that lead to what
was entered so far refuse what the registry refuses, in the same place and for the same
reason, and in the end they lead to all declarations: with distinct names, the one at
the place of a name is the first with this name, which a registry looks for.
-/

namespace Reindex

/-- The places of names in a list. -/
abbrev NameTable := Std.HashMap String Nat

/-- A registry in memory: the declarations, and a table of places for each kind of name. -/
structure Catalogue where
  contexts : List MappedType
  byType : NameTable
  byName : NameTable

namespace Catalogue

/-- Enter the names of the declarations from a place on. -/
def enterNames (place : Nat) (byType byName : NameTable) :
    List MappedType → Except MappingProblem (NameTable × NameTable)
  | [] => .ok (byType, byName)
  | type :: rest =>
    let (given, byType) := byType.containsThenInsert type.name place
    if given then .error (.typeTwice type.name)
    else
      let (given, byName) := byName.containsThenInsert type.entityName place
      if given then .error (.entityNameTwice type.entityName)
      else enterNames (place + 1) byType byName rest

/-- Enter the index of a declaration, if it has one. -/
def enterIndex (indices : Std.HashSet String) :
    Option String → Except MappingProblem (Std.HashSet String)
  | none => .ok indices
  | some index =>
    let (shared, indices) := indices.containsThenInsert index
    if shared then .error (.indexShared index) else .ok indices

/-- Look for the supertype of a declaration, if it has one. -/
def checkSupertype (byType : NameTable) (type : TypeName) :
    Option TypeName → Except MappingProblem Unit
  | none => .ok ()
  | some supertype =>
    if byType.contains supertype then .ok () else .error (.unknownSupertype type supertype)

/-- Look for the targets of embeddings. -/
def checkTargets (byType : NameTable) (type : TypeName) :
    List Embedding → Except MappingProblem Unit
  | [] => .ok ()
  | embedding :: rest =>
    if byType.contains embedding.target then checkTargets byType type rest
    else .error (.unknownTarget type embedding.property embedding.target)

/-- Enter the indices of the declarations, and look for what they refer to. -/
def checkReferences (byType : NameTable) (indices : Std.HashSet String) :
    List MappedType → Except MappingProblem Unit
  | [] => .ok ()
  | type :: rest => do
    let indices ← enterIndex indices type.index
    checkSupertype byType type.name type.supertype
    checkTargets byType type.name type.embeddings
    checkReferences byType indices rest

/-- The catalogue of declarations that fit together, or the first problem found. -/
def build (types : List MappedType) : Except MappingProblem Catalogue := do
  let (byType, byName) ← enterNames 0 ∅ ∅ types
  checkReferences byType ∅ types
  pure ⟨types, byType, byName⟩

/-- The declaration at the place of a type. -/
def get? (catalogue : Catalogue) (name : TypeName) : Option MappedType :=
  catalogue.byType[name]?.bind (catalogue.contexts[·]?)

/-- Whether a type has a place. -/
def contains (catalogue : Catalogue) (name : TypeName) : Bool := catalogue.byType.contains name

/-- The declaration at the place of a type, or the reason that there is none. -/
def resolve (catalogue : Catalogue) (name : TypeName) : Except IndexingError MappedType :=
  match catalogue.get? name with
  | some type => .ok type
  | none => .error (.unknownType name)

/-- The declaration at the place of an entity name. -/
def resolveEntityName (catalogue : Catalogue) (name : String) :
    Except IndexingError MappedType :=
  match catalogue.byName[name]?.bind (catalogue.contexts[·]?) with
  | some type => .ok type
  | none => .error (.unknownEntityName name (catalogue.contexts.map MappedType.entityName))

/-- A catalogue keeps a registry: the declarations are the same, and the tables are exact. -/
structure Keeps (catalogue : Catalogue) (registry : Registry) : Prop where
  contexts : catalogue.contexts = registry.types
  byType : Table.Locates catalogue.byType (registry.types.map MappedType.name)
  byName : Table.Locates catalogue.byName (registry.types.map MappedType.entityName)

variable {done rest types : List MappedType} {byType byName : NameTable}

/-- A name is refused when it was entered before, and otherwise it is entered behind the
others. -/
theorem enter_eq (table : NameTable) (name : String) (place : Nat) :
    table.containsThenInsert name place = (table.contains name, table.insert name place) :=
  Prod.ext Std.HashMap.containsThenInsert_fst Std.HashMap.containsThenInsert_snd

/-- With tables of the declarations done so far, the names of the others are refused where
the registry refuses them, and otherwise the tables come to lead to all of them. -/
theorem enterNames_spec (exactTypes : Table.Locates byType (done.map MappedType.name))
    (exactNames : Table.Locates byName (done.map MappedType.entityName)) :
    match Registry.checkNames (done.map MappedType.name).reverse
        (done.map MappedType.entityName).reverse rest with
    | .error problem => enterNames done.length byType byName rest = .error problem
    | .ok () => ∃ byType' byName', enterNames done.length byType byName rest =
        .ok (byType', byName') ∧
          Table.Locates byType' ((done ++ rest).map MappedType.name) ∧
          Table.Locates byName' ((done ++ rest).map MappedType.entityName) := by
  induction rest generalizing done byType byName with
  | nil => exact ⟨byType, byName, rfl, by simpa using exactTypes, by simpa using exactNames⟩
  | cons type rest inductionHypothesis =>
    simp only [Registry.checkNames, enterNames, enter_eq, exactTypes.contains_iff,
      exactNames.contains_iff, List.mem_reverse]
    by_cases given : type.name ∈ done.map MappedType.name
    · rw [if_pos given, if_pos given]
    · rw [if_neg given, if_neg given]
      by_cases taken : type.entityName ∈ done.map MappedType.entityName
      · rw [if_pos taken, if_pos taken]
      · rw [if_neg taken, if_neg taken]
        have types := exactTypes.concat given
        have names := exactNames.concat taken
        rw [List.length_map] at types names
        have later := @inductionHypothesis (done ++ [type]) _ _ (by simpa using types)
          (by simpa using names)
        simpa using later

/-- The targets are looked for as by the registry. -/
theorem checkTargets_eq {declared : List String} (exact : Table.Locates byType declared)
    (type : TypeName) (embeddings : List Embedding) :
    checkTargets byType type embeddings = Registry.checkEmbeddings declared type embeddings := by
  induction embeddings with
  | nil => rfl
  | cons embedding rest inductionHypothesis =>
    rw [checkTargets, Registry.checkEmbeddings, inductionHypothesis]
    exact if_congr exact.contains_iff rfl rfl

/-- The supertype is looked for as by the registry. -/
theorem checkSupertype_eq {declared : List String} (exact : Table.Locates byType declared)
    (type : TypeName) (supertype : Option TypeName) :
    checkSupertype byType type supertype =
      match supertype.filter (· ∉ declared) with
      | some supertype => .error (.unknownSupertype type supertype)
      | none => .ok () := by
  cases supertype with
  | none => rfl
  | some supertype =>
    rw [checkSupertype]
    by_cases known : supertype ∈ declared
    · rw [if_pos (exact.contains_iff.2 known), Option.filter_some, if_neg (by simpa using known)]
    · rw [if_neg (mt exact.contains_iff.1 known), Option.filter_some, if_pos (by simpa using known)]

/-- The index is entered as by the registry. -/
theorem enterIndex_eq {indices : List String} {entered : Std.HashSet String}
    (same : ∀ index, index ∈ entered ↔ index ∈ indices) (index : Option String) :
    match index.filter (· ∈ indices) with
    | some index' => enterIndex entered index = .error (.indexShared index')
    | none => ∃ entered', enterIndex entered index = .ok entered' ∧
        ∀ tested, tested ∈ entered' ↔ tested ∈ index.toList ++ indices := by
  cases index with
  | none => exact ⟨entered, rfl, same⟩
  | some index =>
    have tested : entered.containsThenInsert index =
        (entered.contains index, entered.insert index) :=
      Prod.ext Std.HashSet.containsThenInsert_fst Std.HashSet.containsThenInsert_snd
    have held : entered.contains index = true ↔ index ∈ indices :=
      Std.HashSet.contains_iff_mem.trans (same index)
    rw [Option.filter_some]
    simp only [enterIndex, tested]
    by_cases shared : index ∈ indices
    · rw [if_pos (by simpa using shared), if_pos (held.2 shared)]
    · rw [if_neg (by simpa using shared), if_neg (mt held.1 shared)]
      refine ⟨_, rfl, fun tested => ?_⟩
      rw [Std.HashSet.mem_insert, same, beq_iff_eq]
      simp [eq_comm]

/-- The references of the first declaration are checked before those of the others. -/
theorem registry_checkReferences_cons (declared indices : List String) (type : MappedType)
    (rest : List MappedType) :
    Registry.checkReferences declared indices (type :: rest) =
      match type.index.filter (· ∈ indices) with
      | some index => .error (.indexShared index)
      | none =>
        (match type.supertype.filter (· ∉ declared) with
          | some supertype => .error (.unknownSupertype type.name supertype)
          | none => .ok ()) >>= fun _ =>
        Registry.checkEmbeddings declared type.name type.embeddings >>= fun _ =>
        Registry.checkReferences declared (type.index.toList ++ indices) rest := by
  rw [Registry.checkReferences]
  cases type.index.filter (· ∈ indices) with
  | some index => rfl
  | none =>
    cases type.supertype.filter (· ∉ declared) with
    | some supertype => rfl
    | none => rfl

/-- With a set of the indices entered so far, references are refused where the registry
refuses them. -/
theorem checkReferences_eq {declared indices : List String} {entered : Std.HashSet String}
    (exact : Table.Locates byType declared) (same : ∀ index, index ∈ entered ↔ index ∈ indices) :
    checkReferences byType entered rest = Registry.checkReferences declared indices rest := by
  induction rest generalizing indices entered with
  | nil => rfl
  | cons type rest inductionHypothesis =>
    rw [checkReferences, registry_checkReferences_cons]
    have index := enterIndex_eq same type.index
    cases shared : type.index.filter (· ∈ indices) with
    | some index' =>
      rw [shared] at index
      rw [index]
      rfl
    | none =>
      rw [shared] at index
      obtain ⟨entered', entry, same'⟩ := index
      rw [entry, checkTargets_eq exact, ← inductionHypothesis same']
      show (checkSupertype byType type.name type.supertype >>= _) = _
      rw [checkSupertype_eq exact]

/-- A catalogue is refused exactly where the registry is, for the same reason, and keeps
the registry where it is built. -/
theorem build_spec (types : List MappedType) :
    match Registry.ofDeclarations types with
    | .error problem => build types = .error problem
    | .ok registry => ∃ catalogue, build types = .ok catalogue ∧ catalogue.Keeps registry := by
  have names := @enterNames_spec [] types ∅ ∅ Table.locates_nil Table.locates_nil
  rw [Registry.ofDeclarations]
  simp only [List.map_nil, List.reverse_nil, List.length_nil, List.nil_append] at names
  cases checked : Registry.checkNames [] [] types with
  | error problem =>
    rw [checked] at names
    show build types = .error problem
    rw [build, names]
    rfl
  | ok _ =>
    rw [checked] at names
    obtain ⟨byType, byName, entered, exactTypes, exactNames⟩ := names
    have references := @checkReferences_eq types byType _ [] ∅ exactTypes (by simp)
    cases resolved : Registry.checkReferences (types.map MappedType.name) [] types with
    | error problem =>
      show build types = .error problem
      rw [build, entered]
      show (checkReferences byType ∅ types >>= _) = _
      rw [references, resolved]
      rfl
    | ok _ =>
      refine ⟨⟨types, byType, byName⟩, ?_, rfl, exactTypes, exactNames⟩
      rw [build, entered]
      show (checkReferences byType ∅ types >>= _) = _
      rw [references, resolved]
      rfl

section Lookups

variable {catalogue : Catalogue} {registry : Registry}

/-- Where names are distinct, the declaration at the place of a name is the first one with
this name. -/
theorem bind_place_eq_find? {label : MappedType → String} {table : NameTable}
    (exact : Table.Locates table (types.map label)) (name : String) :
    table[name]?.bind (types[·]?) = types.find? (label · == name) := by
  cases located : table[name]? with
  | none =>
    have absent := exact.eq_none_iff.1 located
    refine (List.find?_eq_none.2 fun type member => ?_).symm
    rw [beq_iff_eq]
    exact fun named => absent (named ▸ List.mem_map_of_mem member)
  | some place =>
    have listed := (exact name place).1 located
    rw [List.getElem?_map, Option.map_eq_some_iff] at listed
    obtain ⟨type, found, rfl⟩ := listed
    rw [Option.bind_some, found]
    exact ((Registry.find?_eq_some_iff exact.nodup).2 ⟨List.mem_of_getElem? found, rfl⟩).symm

/-- Types are found as in the registry, -/
theorem Keeps.get?_eq (keeps : catalogue.Keeps registry) (name : TypeName) :
    catalogue.get? name = registry.get? name := by
  rw [get?, keeps.contexts, bind_place_eq_find? keeps.byType]
  rfl

/-- and so is whether there are any; -/
theorem Keeps.contains_eq (keeps : catalogue.Keeps registry) (name : TypeName) :
    catalogue.contains name = registry.contains name := by
  rw [Bool.eq_iff_iff, contains, keeps.byType.contains_iff, Registry.contains, Registry.get?,
    List.find?_isSome]
  simp

/-- what is not found is refused as by the registry, -/
theorem Keeps.resolve_eq (keeps : catalogue.Keeps registry) (name : TypeName) :
    catalogue.resolve name = registry.resolve name := by
  cases found : registry.get? name with
  | none => simp only [resolve, Registry.resolve, keeps.get?_eq, found]
  | some type => simp only [resolve, Registry.resolve, keeps.get?_eq, found]

/-- also under an entity name. -/
theorem Keeps.resolveEntityName_eq (keeps : catalogue.Keeps registry) (name : String) :
    catalogue.resolveEntityName name = registry.resolveEntityName name := by
  have place := bind_place_eq_find? keeps.byName name
  cases found : registry.types.find? (·.entityName == name) with
  | none =>
    simp only [resolveEntityName, Registry.resolveEntityName, keeps.contexts, place, found]
  | some type =>
    simp only [resolveEntityName, Registry.resolveEntityName, keeps.contexts, place, found]

/-- A catalogue answers as a registry does. -/
structure Answers (catalogue : Catalogue) (registry : Registry) : Prop where
  get : ∀ name, catalogue.get? name = registry.get? name
  contains : ∀ name, catalogue.contains name = registry.contains name
  resolve : ∀ name, catalogue.resolve name = registry.resolve name
  entityName : ∀ name, catalogue.resolveEntityName name = registry.resolveEntityName name
  listed : catalogue.contexts = registry.types

/-- A catalogue that keeps a registry answers as it does. -/
theorem Keeps.answers (keeps : catalogue.Keeps registry) : catalogue.Answers registry where
  get := keeps.get?_eq
  contains := keeps.contains_eq
  resolve := keeps.resolve_eq
  entityName := keeps.resolveEntityName_eq
  listed := keeps.contexts

/-- Where there is a registry, there is a catalogue that answers as it does, -/
theorem exists_answers (made : Registry.ofDeclarations types = .ok registry) :
    ∃ catalogue, build types = .ok catalogue ∧ catalogue.Answers registry := by
  have spec := build_spec types
  rw [made] at spec
  obtain ⟨catalogue, built, keeps⟩ := spec
  exact ⟨catalogue, built, keeps.answers⟩

/-- and where there is none, there is no catalogue, for the same reason. -/
theorem build_eq_error_iff {problem : MappingProblem} :
    build types = .error problem ↔ Registry.ofDeclarations types = .error problem := by
  have spec := build_spec types
  cases made : Registry.ofDeclarations types with
  | error found =>
    rw [made] at spec
    rw [spec, Except.error.injEq, Except.error.injEq]
  | ok registry =>
    rw [made] at spec
    obtain ⟨catalogue, built, -⟩ := spec
    rw [built]
    exact iff_of_false nofun nofun

end Lookups

end Catalogue

end Reindex
