import Reindex.Proofs.EntityId.Extraction
import Reindex.Proofs.Library
import Reindex.Proofs.Resolver.Walk
import Mathlib.Data.List.Dedup

/-!
# What a resolver was asked before

A resolver remembers the answer of every class that it was asked for, under the full name
of the class. What it remembers is what it would find anew, so its answers do not show what
it was asked before, and each class is entered once, however often it comes up and by
whichever question.

The key of an entity follows from the mapped type of its class and from what the rule of
this type finds in it. Where the rule finds nothing there is no key. The class has no further
part in it, unless the rule is a function that looks at it.
-/

namespace Reindex

/-- A rule that goes by the properties of an entity: one that names them, or a function that
finds the same in entities with the same properties. -/
def IdentifierRule.ByProperties : IdentifierRule → Prop
  | .property _ | .composite _ => True
  | .custom identify => ∀ entity other : Instance, entity.properties = other.properties →
      identify entity = identify other

/-- Such a rule extracts the same identifier, or fails in the same way. -/
theorem MappedType.extractId_congr {declaration : MappedType} {entity other : Instance}
    (rule : declaration.identifier.ByProperties) (same : entity.properties = other.properties) :
    declaration.extractId entity = declaration.extractId other := by
  have properties : declaration.idOfProperty entity = declaration.idOfProperty other := by
    funext name
    rw [idOfProperty, idOfProperty, Instance.property?, Instance.property?, same]
  rw [extractId, extractId]
  cases kind : declaration.identifier with
  | property name => exact congrFun properties name
  | composite names => simp only [properties]
  | custom identify =>
    rw [kind] at rule
    simp only [rule entity other same]

namespace Resolver

/-- A question to a resolver. -/
inductive Query where
  | tryResolve (className : String)
  | resolve (className : String)
  | identify (entity : Instance)

/-- The class that a question is about. -/
def Query.className : Query → String
  | .tryResolve className | .resolve className => className
  | .identify entity => entity.className

/-- What a resolver says to a question. -/
inductive Reply where
  | found (type : Option TypeName)
  | resolved (type : Except IndexingError TypeName)
  | identified (key : Except IndexingError EntityKey)

/-- Put a question. -/
def ask (resolver : Resolver) : Query → Reply × Resolver
  | .tryResolve className =>
    let (type, resolver) := resolver.tryResolve className
    (.found type, resolver)
  | .resolve className =>
    let (type, resolver) := resolver.resolve className
    (.resolved type, resolver)
  | .identify entity =>
    let (key, resolver) := resolver.identify entity
    (.identified key, resolver)

/-- The resolver after some questions. -/
def after (resolver : Resolver) (queries : List Query) : Resolver :=
  queries.foldl (fun resolver query => (resolver.ask query).2) resolver

/-- A resolver that was asked for some classes: it still resolves as at first, and remembers
for exactly these classes, once for each, what is found for them. -/
structure Remembers (first : Resolver) (classes : List String) (resolver : Resolver) : Prop where
  same : resolver = { first with memo := resolver.memo }
  truthful : ∀ entry ∈ resolver.memo, entry.2 = first.find? entry.1
  distinct : (resolver.memo.map Prod.fst).Nodup
  complete : ∀ className, className ∈ resolver.memo.map Prod.fst ↔ className ∈ classes

variable {first resolver : Resolver} {classes : List String} {className : String}

/-- At first there is nothing to remember. -/
theorem Remembers.start {registry : Registry} {hierarchy : Hierarchy} {marker : String} :
    Remembers ⟨registry, hierarchy, marker, []⟩ [] ⟨registry, hierarchy, marker, []⟩ where
  same := rfl
  truthful := fun _ none => nomatch none
  distinct := List.nodup_nil
  complete := fun _ => Iff.rfl

/-- The type of a class is what is found for it, and the class is remembered from then on. -/
theorem Remembers.tryResolve (remembers : Remembers first classes resolver)
    (className : String) :
    (resolver.tryResolve className).1 = first.find? className ∧
      Remembers first (classes ++ [className]) (resolver.tryResolve className).2 := by
  rw [Resolver.tryResolve]
  cases looked : resolver.memo.lookup className with
  | some known =>
    obtain ⟨before, after, split, -⟩ := List.lookup_eq_some_iff.1 looked
    have entry : (className, known) ∈ resolver.memo := by
      rw [split]
      exact List.mem_append_right _ List.mem_cons_self
    refine ⟨remembers.truthful _ entry, { remembers with complete := ?_ }⟩
    -- a remembered class was asked for before, so it is no new one
    intro other
    have listed : className ∈ classes :=
      (remembers.complete className).1 (List.mem_map_of_mem entry)
    rw [remembers.complete, List.mem_append, List.mem_singleton]
    exact ⟨.inl, fun known => known.elim id fun same => same ▸ listed⟩
  | none =>
    have finds : resolver.find? className = first.find? className := by
      rw [remembers.same]
      rfl
    have unknown : className ∉ resolver.memo.map Prod.fst := by
      intro listed
      obtain ⟨entry, member, rfl⟩ := List.mem_map.1 listed
      simpa using List.lookup_eq_none_iff.1 looked entry member
    refine ⟨finds, ?_, ?_, ?_, ?_⟩
    · rw [remembers.same]
    · exact List.forall_mem_cons.2 ⟨finds, remembers.truthful⟩
    · exact List.nodup_cons.2 ⟨unknown, remembers.distinct⟩
    · intro other
      rw [List.map_cons, List.mem_cons, remembers.complete, List.mem_append, List.mem_singleton]
      exact or_comm

/-- Every question asks for the class that it is about and for nothing else. -/
theorem ask_snd (resolver : Resolver) (query : Query) :
    (resolver.ask query).2 = (resolver.tryResolve query.className).2 := by
  cases query with
  | tryResolve className => rfl
  | resolve className =>
    rw [ask, Resolver.resolve]
    simp only [Query.className]
    split <;> rfl
  | identify entity =>
    rw [ask, Resolver.identify, Resolver.resolve]
    simp only [Query.className]
    split <;> rfl

/-- A question leaves the class remembered, -/
theorem Remembers.ask (remembers : Remembers first classes resolver) (query : Query) :
    Remembers first (classes ++ [query.className]) (resolver.ask query).2 := by
  rw [ask_snd]
  exact (remembers.tryResolve query.className).2

/-- and any number of questions the classes of all of them. -/
theorem Remembers.after (remembers : Remembers first classes resolver) (queries : List Query) :
    Remembers first (classes ++ queries.map Query.className) (resolver.after queries) := by
  induction queries generalizing classes resolver with
  | nil =>
    rw [List.map_nil, List.append_nil]
    exact remembers
  | cons query rest inductionHypothesis =>
    rw [List.map_cons, List.append_cons]
    exact inductionHypothesis (remembers.ask query)

/-- To require the mapped type of a class is to have it found. -/
theorem resolve_fst (resolver : Resolver) (className : String) :
    (resolver.resolve className).1 = match (resolver.tryResolve className).1 with
      | some type => .ok type
      | none => .error (.unindexedType className) := by
  rw [Resolver.resolve]
  obtain ⟨found, later⟩ := resolver.tryResolve className
  cases found <;> rfl

/-- To identify an entity is to have the type of its class found, and to extract what the
rule of this type finds in the entity. -/
theorem identify_fst (resolver : Resolver) (entity : Instance) :
    (resolver.identify entity).1 = match (resolver.tryResolve entity.className).1 with
      | some type => (resolver.registry.resolve type).bind fun declaration =>
          (declaration.extractId entity).map (⟨type, ·⟩)
      | none => .error (.unindexedType entity.className) := by
  have registry : (resolver.tryResolve entity.className).2.registry = resolver.registry := by
    rw [Resolver.tryResolve]
    split <;> rfl
  rw [Resolver.identify, Resolver.resolve, ← registry]
  obtain ⟨found, later⟩ := resolver.tryResolve entity.className
  cases found <;> rfl

/-- What is said to a question depends on the declarations and on the type of the class. -/
theorem ask_congr {other : Resolver} {query : Query}
    (declarations : resolver.registry = other.registry)
    (answers : (resolver.tryResolve query.className).1 = (other.tryResolve query.className).1) :
    (resolver.ask query).1 = (other.ask query).1 := by
  cases query with
  | tryResolve className => exact congrArg Reply.found answers
  | resolve className =>
    have resolved : (resolver.resolve className).1 = (other.resolve className).1 := by
      rw [Query.className] at answers
      rw [resolve_fst, resolve_fst, answers]
    exact congrArg Reply.resolved resolved
  | identify entity =>
    have identified : (resolver.identify entity).1 = (other.identify entity).1 := by
      rw [Query.className] at answers
      rw [identify_fst, identify_fst, declarations, answers]
    exact congrArg Reply.identified identified

/-- What a resolver of some registry, superclass table and marker says. -/
structure Exact (registry : Registry) (hierarchy : Hierarchy) (marker : String)
    (resolver : Resolver) : Prop where
  /-- A class is looked for without the marker and what follows it. -/
  cut : ∀ className,
    CutAt marker.toList className.toList (resolver.start className).toList
  /-- The walk upward from there ends, and what it ends with is the answer: -/
  ends : ∀ className ending,
    Walks registry hierarchy [] (resolver.start className) ending ↔
      (resolver.tryResolve className).1 = ending
  /-- the first mapped name, -/
  nearest : ∀ className type, (resolver.tryResolve className).1 = some type ↔
    registry.Nearest hierarchy (resolver.start className) type
  /-- and none exactly when no name is mapped. -/
  unmapped : ∀ className, (resolver.tryResolve className).1 = none ↔
    registry.Unmapped hierarchy (resolver.start className)
  /-- A type that is required is this type, or the class is refused. -/
  resolves : ∀ className, (resolver.resolve className).1 =
    match (resolver.tryResolve className).1 with
    | some type => .ok type
    | none => .error (.unindexedType className)
  /-- Entities of a refused class have no key. -/
  refuses : ∀ entity, (resolver.tryResolve entity.className).1 = none →
    (resolver.identify entity).1 = .error (.unindexedType entity.className)
  /-- The key of any other has this type and the identifier that the rule of the type finds,
  and where the rule finds nothing there is no key. -/
  identifies : ∀ entity type, (resolver.tryResolve entity.className).1 = some type →
    ∃ declaration, registry.get? type = some declaration ∧ declaration.name = type ∧
      (∀ key, (resolver.identify entity).1 = .ok key ↔
        key.type = type ∧ declaration.identifier.Finds entity key.id) ∧
      ∀ error, (resolver.identify entity).1 = .error error ↔
        ∃ problem, declaration.identifier.Misses entity problem ∧
          error = .identifierExtraction type problem

variable {registry : Registry} {hierarchy : Hierarchy} {marker : String}

/-- The key of an entity whose class resolves has what is extracted by its type. -/
theorem Remembers.identify
    (remembers : Remembers ⟨registry, hierarchy, marker, []⟩ classes resolver)
    {entity : Instance} {type : TypeName}
    (found : (resolver.tryResolve entity.className).1 = some type) :
    ∃ declaration, registry.get? type = some declaration ∧ declaration.name = type ∧
      (resolver.identify entity).1 = (declaration.extractId entity).map (⟨type, ·⟩) := by
  have mapping : resolver.registry = registry := by rw [remembers.same]
  -- only a mapped name is answered, so the declaration of the type is there
  obtain ⟨-, -, mapped, -⟩ :=
    find?_eq_some_iff.1 ((remembers.tryResolve entity.className).1.symm.trans found)
  obtain ⟨declaration, declared⟩ := Option.isSome_iff_exists.1 mapped
  have named : declaration.name = type := by simpa using List.find?_some declared
  refine ⟨declaration, declared, named, ?_⟩
  rw [identify_fst, found]
  simp only [mapping, Registry.resolve, declared]
  rfl

/-- Whatever a resolver was asked for, it is exact. -/
theorem Remembers.exact
    (remembers : Remembers ⟨registry, hierarchy, marker, []⟩ classes resolver) :
    Exact registry hierarchy marker resolver := by
  have answers := fun className => (remembers.tryResolve className).1
  have starts : resolver.start = Resolver.start ⟨registry, hierarchy, marker, []⟩ := by
    rw [remembers.same]
    rfl
  constructor
  case cut =>
    intro className
    rw [starts, Resolver.start, String.toList_ofList]
    exact cutAt_beforeMarker _ _
  case ends =>
    intro className ending
    rw [answers, starts, eq_comm]
    exact @walks_iff ⟨registry, hierarchy, marker, []⟩ className ending
  case nearest =>
    intro className type
    rw [answers, starts]
    exact find?_eq_some_iff
  case unmapped =>
    intro className
    rw [answers, starts]
    exact find?_eq_none_iff
  case resolves => exact resolver.resolve_fst
  case refuses =>
    intro entity refused
    rw [identify_fst, refused]
  case identifies =>
    intro entity type found
    obtain ⟨declaration, declared, rfl, made⟩ := remembers.identify found
    refine ⟨declaration, declared, rfl, fun key => ?_, fun error => ?_⟩
    · rw [made, Except.map_eq_ok_iff]
      simp only [MappedType.extractId_eq_ok_iff]
      constructor
      · rintro ⟨id, finds, rfl⟩
        exact ⟨rfl, finds⟩
      · rintro ⟨same, finds⟩
        exact ⟨key.id, finds, by rw [← same]⟩
    · rw [made, Except.map_eq_error_iff, MappedType.extractId_eq_error_iff]

end Resolver

/-- Type resolution finds the nearest mapped class, and nothing of its memory shows, for every
registry, superclass table and marker and after any questions. The memory has one entry for
each class asked for. An entity has the key of the type of its class with the identifier that
the rule of this type finds, or no key if it finds none; and entities with the same properties
whose classes resolve to the same type are identified alike, as long as the rule of this type
goes by properties. -/
theorem resolution_exact (registry : Registry) (hierarchy : Hierarchy) (marker : String)
    (queries : List Resolver.Query) :
    let fresh : Resolver := ⟨registry, hierarchy, marker, []⟩
    let later := fresh.after queries
    later.Exact registry hierarchy marker ∧
      (∀ query, (later.ask query).1 = (fresh.ask query).1) ∧
      (later.memo.map Prod.fst).Perm (queries.map Resolver.Query.className).dedup ∧
      later.memoized = (queries.map Resolver.Query.className).dedup.length ∧
      ∀ entity other type, entity.properties = other.properties →
        (later.tryResolve entity.className).1 = some type →
        (later.tryResolve other.className).1 = some type →
        (∀ declaration, registry.get? type = some declaration →
          declaration.identifier.ByProperties) →
        (later.identify entity).1 = (later.identify other).1 := by
  intro fresh later
  have start : fresh.Remembers [] fresh := .start
  have remembers : fresh.Remembers (queries.map Resolver.Query.className) later :=
    start.after queries
  have keys : (later.memo.map Prod.fst).Perm (queries.map Resolver.Query.className).dedup :=
    (List.perm_ext_iff_of_nodup remembers.distinct (List.nodup_dedup _)).2 fun className =>
      (remembers.complete className).trans List.mem_dedup.symm
  have exact : later.Exact registry hierarchy marker := remembers.exact
  refine ⟨exact, ?_, keys, ?_, ?_⟩
  · intro query
    refine Resolver.ask_congr (by rw [remembers.same]) ?_
    rw [(remembers.tryResolve _).1, (start.tryResolve _).1]
  · rw [Resolver.memoized, ← keys.length_eq, List.length_map]
  · intro entity other type same found found' rule
    obtain ⟨declaration, declared, -, key⟩ := remembers.identify found
    obtain ⟨declaration', declared', -, key'⟩ := remembers.identify found'
    cases declared.symm.trans declared'
    rw [key, key', declaration.extractId_congr (rule declaration declared) same]

namespace Library

/-- A table with two kinds of books and with two classes that are above each other. -/
def hierarchy : Hierarchy :=
  [("Paperback", "Book"), ("SignedPaperback", "Paperback"), ("Draft", "Outline"),
    ("Outline", "Draft")]

/-- A resolver that was asked for two classes, for one of them twice. -/
def asked : Resolver :=
  Resolver.after ⟨registry, hierarchy, "$$Proxy", []⟩
    [.tryResolve "Draft", .resolve "Paperback", .resolve "Draft"]

/-- Nothing above drafts is mapped, and to ask for them again enters them only once; a proxy
of a signed paperback has the key of the book. -/
theorem proxy_identified :
    (asked.tryResolve "Draft").1 = none ∧ asked.memoized = 2 ∧
      (asked.identify ⟨"SignedPaperback$$Proxy7", [("id", .text "1")]⟩).1 =
        (asked.identify ⟨"Book", [("id", .text "1")]⟩).1 := by
  obtain ⟨-, -, -, count, same⟩ := resolution_exact registry hierarchy "$$Proxy"
    [.tryResolve "Draft", .resolve "Paperback", .resolve "Draft"]
  have cyclic : (asked.tryResolve "Draft").1 = none := by decide +kernel
  have proxied : (asked.tryResolve "SignedPaperback$$Proxy7").1 = some "Book" := by
    decide +kernel
  have mapped : (asked.tryResolve "Book").1 = some "Book" := by decide +kernel
  refine ⟨cyclic, count, same _ _ "Book" rfl proxied mapped ?_⟩
  intro declaration declared
  cases declared
  trivial

/-- Books that are known by their class. -/
def classed : Registry :=
  ⟨[{ book with identifier := .custom fun entity => some (.text entity.className) }]⟩

/-- A book and a proxy of it have the same properties, and both classes resolve to books. Their
keys differ when the rule looks at the class, and they have no key at all when it asks for a
property that holds no identifier. -/
theorem proxy_apart :
    let entity : Instance := ⟨"Book", [("id", .null)]⟩
    let proxy : Instance := ⟨"Book$$Proxy", [("id", .null)]⟩
    let resolver : Resolver := ⟨classed, [], "$$Proxy", []⟩
    let plain : Resolver := ⟨registry, [], "$$Proxy", []⟩
    (resolver.tryResolve entity.className).1 = some "Book" ∧
      (resolver.tryResolve proxy.className).1 = some "Book" ∧
      (resolver.identify entity).1 = .ok ⟨"Book", .text "Book"⟩ ∧
      (resolver.identify proxy).1 = .ok ⟨"Book", .text "Book$$Proxy"⟩ ∧
      (plain.tryResolve entity.className).1 = some "Book" ∧
      (plain.tryResolve proxy.className).1 = some "Book" ∧
      (plain.identify entity).1 = .error (.identifierExtraction "Book" (.property "id")) ∧
      (plain.identify proxy).1 = .error (.identifierExtraction "Book" (.property "id")) := by
  decide +kernel

end Library

end Reindex
