import Reindex.Proofs.Containment.Soundness

/-!
# What a type embeds directly

An indexed type reads what it embeds, without anything in between, through a route of
one edge. The search tells such edges apart by owner and property, and the routes are
listed for each target by itself, so a type may embed any number of targets through one
property, next to anything that other types declare. Only a second embedding of the same
target through the same property is taken for the first one: no route is made of it, and
a change that it alone includes reaches no document through it.
-/

namespace Reindex

/-- The first embedding of a target that a type declares through a property. -/
def MappedType.embeddingOf? (type : MappedType) (property : String) (target : TypeName) :
    Option Embedding :=
  type.embeddings.find? fun embedding => embedding.property = property ∧ embedding.target = target

namespace Registry

/-- When only one element of a list has an answer, it is the answer of the list. -/
theorem findSome?_of_only {answer : MappedType → Option Edge} {types : List MappedType}
    {type : MappedType} (member : type ∈ types)
    (only : ∀ other ∈ types, other ≠ type → answer other = none) :
    types.findSome? answer = answer type := by
  induction types with
  | nil => cases member
  | cons head rest inductionHypothesis =>
    have onlyRest : ∀ other ∈ rest, other ≠ type → answer other = none :=
      fun other later => only other (List.mem_cons_of_mem _ later)
    rw [List.findSome?_cons]
    cases answered : answer head with
    | some edge =>
      have same : head = type := by
        by_contra other
        simp [only head List.mem_cons_self other] at answered
      rw [← same, answered]
    | none =>
      rcases List.mem_cons.1 member with rfl | later
      · rw [answered, List.findSome?_eq_none_iff]
        intro other later
        by_cases same : other = type
        · rw [same, answered]
        · exact onlyRest other later same
      · exact inductionHypothesis later onlyRest

/-- Among the edges into a type, the first one with a given owner and property is the
first embedding that the owner declares. -/
theorem find?_edgesInto {registry : Registry}
    (distinct : (registry.types.map MappedType.name).Nodup) {type : MappedType}
    (member : type ∈ registry.types) (property : String) (target : TypeName) :
    (Closure.edgesInto registry.edges target).find? (fun edge =>
        edge.owner = type.name ∧ edge.embedding.property = property) =
      (type.embeddingOf? property target).map (Edge.mk type.name) := by
  rw [Closure.edgesInto, List.find?_filter, edges, List.find?_flatMap, findSome?_of_only member]
  · rw [List.find?_map, MappedType.embeddingOf?]
    congr 2
    funext embedding
    simp [and_comm]
  · intro other member' differs
    have named : other.name ≠ type.name := fun same =>
      differs (List.inj_on_of_nodup_map distinct member' member same)
    simp [named]

end Registry

/-- An edge out of an indexed type that bears its own level counts as a chain. -/
theorem ContainmentPath.ofChain?_singleton {registry : Registry} {type : MappedType}
    (found : registry.get? type.name = some type) (indexed : type.isIndexed = true)
    {embedding : Embedding} (deep : embedding.maxDepth ≠ some 0) :
    ofChain? registry embedding.target [⟨type.name, embedding⟩] =
      some ⟨type.name, embedding.target, [⟨type.name, embedding⟩], embedding.includes⟩ := by
  refine ofChain?_eq_some found indexed ?_ (.root (.here _))
  rw [Chain.depthAllowed, Chain.depthAllowed, Bool.and_true]
  cases bound : embedding.maxDepth with
  | none => rfl
  | some limit =>
    have positive : limit ≠ 0 := fun zero => deep (zero ▸ bound)
    simpa using Nat.pos_of_ne_zero positive

/-- No first embedding is lost. For an indexed type, an embedding that may have a level is
a route of its own exactly when it is the first one that the type declares through its
property to its target. Every change that such an embedding includes then triggers a route
from the type to the target, whatever else is declared. -/
theorem direct_read_listed {types : List MappedType} {registry : Registry} {type : MappedType}
    {embedding : Embedding} (accepted : Registry.ofDeclarations types = .ok registry)
    (member : type ∈ registry.types) (indexed : type.isIndexed = true)
    (deep : embedding.maxDepth ≠ some 0) (depth : Nat) :
    let routes := (ContainmentGraph.build registry depth).pathsFor embedding.target
    ((∃ path ∈ routes, path.chain = [⟨type.name, embedding⟩]) ↔
      type.embeddingOf? embedding.property embedding.target = some embedding) ∧
      (type.embeddingOf? embedding.property embedding.target = some embedding →
        ∀ changed : PathSet, embedding.includes.isTriggeredBy (some changed) = true →
          ∃ path ∈ routes, path.containing = type.name ∧
            path.reads.isTriggeredBy (some changed) = true) := by
  obtain ⟨-, distinct, -⟩ := Registry.of_accepted accepted
  have counts := ContainmentPath.ofChain?_singleton (Registry.get?_of_mem distinct member)
    indexed deep
  have listed : [⟨type.name, embedding⟩] ∈
      Closure.chains registry.edges depth embedding.target ↔
        type.embeddingOf? embedding.property embedding.target = some embedding := by
    rw [Closure.singleton_mem_chains, Registry.find?_edgesInto distinct member,
      Option.map_eq_some_iff]
    simp
  refine ⟨?_, ?_⟩
  · rw [← listed]
    constructor
    · rintro ⟨path, route, single⟩
      obtain ⟨chain, found, made⟩ := ContainmentGraph.mem_pathsFor_build.1 route
      obtain ⟨rfl, -⟩ := ContainmentPath.of_ofChain? made
      exact single ▸ found
    · intro found
      exact ⟨_, ContainmentGraph.mem_pathsFor_build.2 ⟨_, found, counts⟩, rfl⟩
  · intro first changed triggered
    exact ⟨_, ContainmentGraph.mem_pathsFor_build.2 ⟨_, listed.2 first, counts⟩, rfl, triggered⟩

namespace Library

/-- What a leaflet prints of its author. -/
def printedName : Embedding where
  property := "author"
  target := "Author"
  includes := .paths (.ofList ["name"])

/-- What a leaflet says of how to reach its author. -/
def printedEmail : Embedding where
  property := "author"
  target := "Author"
  includes := .paths (.ofList ["email"])

/-- Leaflets, which embed their author twice through one property. -/
def leaflet : MappedType where
  name := "Leaflet"
  entityName := "Leaflet"
  index := some "leaflets"
  embeddings := [printedName, printedEmail]

/-- The types of a library of leaflets. -/
def leaflets : Registry := ⟨[leaflet, loneAuthor]⟩

/-- Changes of the name reach the leaflets, for the first embedding has a route; the second
one has none. -/
theorem printed_name_listed :
    (∃ path ∈ (ContainmentGraph.build leaflets 8).pathsFor "Author",
      path.containing = "Leaflet" ∧ path.reads.isTriggeredBy (some (.ofList ["name"])) = true) ∧
    ¬ ∃ path ∈ (ContainmentGraph.build leaflets 8).pathsFor "Author",
      path.chain = [⟨"Leaflet", printedEmail⟩] := by
  have accepted : Registry.ofDeclarations [leaflet, loneAuthor] = .ok leaflets := rfl
  have first : leaflet.embeddingOf? "author" "Author" = some printedName := rfl
  have member : leaflet ∈ leaflets.types := .head _
  obtain ⟨-, reaches⟩ :=
    @direct_read_listed _ _ leaflet printedName accepted member rfl (by decide) 8
  obtain ⟨routed, -⟩ :=
    @direct_read_listed _ _ leaflet printedEmail accepted member rfl (by decide) 8
  constructor
  · exact reaches first (.ofList ["name"]) rfl
  · intro listed
    have same : printedName = printedEmail := Option.some.inj (first.symm.trans (routed.1 listed))
    exact absurd (congrArg (fun embedding => embedding.includes.render) same) (by decide)

/-- A declared read is lost: the second embedding includes the address, and no route from
the leaflets to their author is triggered by a change of it. -/
theorem printed_email_lost :
    Registry.ofDeclarations [leaflet, loneAuthor] = .ok leaflets ∧ leaflet ∈ leaflets.types ∧
      leaflet.isIndexed = true ∧ printedEmail ∈ leaflet.embeddings ∧
      printedEmail.maxDepth = none ∧
      printedEmail.includes.isTriggeredBy (some (.ofList ["email"])) = true ∧
      ¬ ∃ path ∈ (ContainmentGraph.build leaflets 8).pathsFor printedEmail.target,
        path.containing = leaflet.name ∧
          path.reads.isTriggeredBy (some (.ofList ["email"])) = true := by
  refine ⟨rfl, .head _, rfl, .tail _ (.head _), rfl, rfl, ?_⟩
  rintro ⟨path, listed, -, triggered⟩
  have routes : (ContainmentGraph.build leaflets 8).pathsFor "Author" =
      [⟨"Leaflet", "Author", [⟨"Leaflet", printedName⟩], printedName.includes⟩] := rfl
  rw [show printedEmail.target = "Author" from rfl, routes] at listed
  cases List.mem_singleton.1 listed
  exact absurd triggered (by decide)

end Library

end Reindex
