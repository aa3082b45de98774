import Reindex.Proofs.Containment.Roots
import Reindex.Proofs.Containment.Soundness
import Reindex.Proofs.ReadSet

/-!
# Routes that read nothing

Narrowing never leaves the empty set of paths, and restricting leaves it only where a set
is restricted that was empty before or by one that is. Along a chain that means: if
anything is recorded for it, the record is empty exactly when the includes of its last
edge are. So as long as no embedding of a type includes nothing, every route to it reads
something, some known change triggers it, and the persistence layer is never asked for a
route that reads nothing. An embedding that includes nothing becomes such a route.
-/

namespace Reindex

namespace ReadSet

/-- The set of paths without a path. -/
def nothing : ReadSet := .paths .empty

variable {reads other both : ReadSet}

/-- A set of paths is nothing when it lists none. -/
theorem paths_eq_nothing_iff {set : PathSet} : paths set = nothing ↔ set.paths = [] := by
  constructor
  · intro same
    cases same
    rfl
  · intro none
    obtain ⟨listed, increasing⟩ := set
    cases none
    rfl

/-- Something is read exactly when some path is covered. -/
theorem ne_nothing_iff : reads ≠ nothing ↔ ∃ path, reads.Covers path := by
  cases reads with
  | all => exact iff_of_true nofun ⟨"", trivial⟩
  | paths set =>
    rw [ne_eq, paths_eq_nothing_iff]
    constructor
    · intro listed
      obtain ⟨path, member⟩ := List.exists_mem_of_ne_nil _ listed
      exact ⟨path, path, member, Path.Within.refl path⟩
    · rintro ⟨path, listed, member, -⟩ unlisted
      rw [unlisted] at member
      cases member

/-- A set of paths that is left out when it is empty is not nothing. -/
theorem ne_nothing_of_ofPaths? {set : PathSet} (made : ofPaths? set = some reads) :
    reads ≠ nothing := by
  unfold ofPaths? at made
  split at made
  · cases made
  · rename_i listed
    cases made
    rw [ne_eq, paths_eq_nothing_iff, ← List.isEmpty_iff]
    exact listed

/-- What is left by narrowing is not nothing, -/
theorem ne_nothing_of_narrow {property : Path} (made : reads.narrow property = some other) :
    other ≠ nothing := by
  cases reads with
  | all =>
    cases made
    exact nofun
  | paths set =>
    rw [narrow] at made
    split at made
    · cases made
      exact nofun
    · exact ne_nothing_of_ofPaths? made

/-- and a restriction of something is nothing only when it is restricted to nothing. -/
theorem restrict_eq_nothing_iff (something : reads ≠ nothing)
    (made : reads.restrict other = some both) : both = nothing ↔ other = nothing := by
  cases reads with
  | all =>
    cases made
    rfl
  | paths set =>
    cases other with
    | all =>
      cases made
      exact iff_of_false something nofun
    | paths included =>
      have kept : both ≠ nothing := ne_nothing_of_ofPaths? made
      obtain ⟨path, covers⟩ := ne_nothing_iff.1 kept
      obtain ⟨-, includedToo⟩ := covers_restrict.1 ⟨both, made, covers⟩
      exact iff_of_false kept (ne_nothing_iff.2 ⟨path, includedToo⟩)

/-- Something is read exactly when a change of some path concerns it. -/
theorem ne_nothing_iff_triggered :
    reads ≠ nothing ↔ ∃ changed : Path, reads.isTriggeredBy (some (.ofList [changed])) = true := by
  simp only [ne_nothing_iff, isTriggeredBy_some_iff, PathSet.mem_ofList, List.mem_singleton,
    exists_eq_left]
  constructor
  · rintro ⟨path, covers⟩
    exact ⟨path, path, .refl path, covers⟩
  · rintro ⟨-, path, -, covers⟩
    exact ⟨path, covers⟩

end ReadSet

namespace Chain

/-- A chain that leads to a type has a last edge, and that edge ends there. -/
theorem LeadsTo.exists_last {edges : List Edge} {leaf : TypeName} {chain : Chain}
    (leads : chain.LeadsTo edges leaf) :
    ∃ above last, chain = above ++ [last] ∧ last ∈ edges ∧ last.embedding.target = leaf := by
  induction leads with
  | @last edge declared ends => exact ⟨[], edge, rfl, declared, ends⟩
  | @above edge next rest declared joins below inductionHypothesis =>
    obtain ⟨above, last, split, lastDeclared, ends⟩ := inductionHypothesis
    exact ⟨edge :: above, last, by rw [split, List.cons_append], lastDeclared, ends⟩

/-- Of a chain with a read set, nothing is read exactly when its last edge includes
nothing. What is recorded for the root is what it includes; further down, the includes
are met by what is left of narrowing. -/
theorem reads_eq_nothing_iff {above : Chain} {last : Edge} {reads : ReadSet}
    (narrowed : Chain.reads? (above ++ [last]) = some reads) :
    reads = .nothing ↔ last.embedding.includes = .nothing := by
  cases above with
  | nil =>
    cases narrowed
    rfl
  | cons root below =>
    rw [List.cons_append, reads?, List.foldlM_append] at narrowed
    obtain ⟨inner, -, through⟩ := Option.bind_eq_some_iff.1 narrowed
    rw [List.foldlM_cons] at through
    obtain ⟨found, through, same⟩ := Option.bind_eq_some_iff.1 through
    cases same
    obtain ⟨left, below, restricted⟩ := Option.bind_eq_some_iff.1 through
    exact ReadSet.restrict_eq_nothing_iff (ReadSet.ne_nothing_of_narrow below) restricted

end Chain

/-- When routes read nothing. A route reads nothing exactly when its last embedding includes
nothing. So let no embedding of a type include nothing: then every route to it reads
something, a change of some path triggers one of them if there are any, and whatever is known
of a change, the persistence layer is only asked for routes that read something. -/
theorem unread_iff (registry : Registry) (depth : Nat) (leaf : TypeName) :
    let graph := ContainmentGraph.build registry depth
    (∀ path ∈ graph.pathsFor leaf, ∀ last, path.chain.getLast? = some last →
      (path.reads = .nothing ↔ last.embedding.includes = .nothing)) ∧
    ((∀ edge ∈ registry.edges, edge.embedding.target = leaf →
        edge.embedding.includes ≠ .nothing) →
      (∀ path ∈ graph.pathsFor leaf, path.reads ≠ .nothing) ∧
      (graph.isContained leaf = true → ∃ changed : Path, ∃ path ∈ graph.pathsFor leaf,
        path.reads.isTriggeredBy (some (.ofList [changed])) = true) ∧
      ∀ (loader : RootLoader) (key : EntityKey) (paths : Option PathSet), key.type = leaf →
        ∀ request ∈ (graph.requiredRoots loader key paths).2,
          ∃ path, request = .roots key path ∧ path.reads ≠ .nothing) := by
  intro graph
  have lastly : ∀ path ∈ graph.pathsFor leaf, ∀ last, path.chain.getLast? = some last →
      (path.reads = .nothing ↔ last.embedding.includes = .nothing) := by
    intro path listed last ends
    obtain ⟨above, split⟩ := List.getLast?_eq_some_iff.1 ends
    have narrowed := Chain.reads?_eq_some_iff.2 (ContainmentPath.sound_of_mem_pathsFor listed).reads
    rw [split] at narrowed
    exact Chain.reads_eq_nothing_iff narrowed
  refine ⟨lastly, fun stated => ?_⟩
  have something : ∀ path ∈ graph.pathsFor leaf, path.reads ≠ .nothing := by
    intro path listed unread
    have leads := (ContainmentPath.sound_of_mem_pathsFor listed).leads
    obtain ⟨above, last, split, declared, ends⟩ := leads.exists_last
    have isLast : path.chain.getLast? = some last := List.getLast?_eq_some_iff.2 ⟨above, split⟩
    exact stated last declared ends ((lastly path listed last isLast).1 unread)
  refine ⟨something, fun contained => ?_, ?_⟩
  · obtain ⟨path, listed⟩ :=
      List.exists_mem_of_ne_nil _ (ContainmentGraph.isContained_iff.1 contained)
    obtain ⟨changed, triggered⟩ := ReadSet.ne_nothing_iff_triggered.1 (something path listed)
    exact ⟨changed, path, listed, triggered⟩
  · rintro loader key paths rfl request asked
    obtain ⟨path, triggered, rfl⟩ := ContainmentGraph.mem_gather asked
    exact ⟨path, rfl, something path (List.mem_filter.1 triggered).1⟩

namespace Library

/-- No embedding of an author includes nothing, so changes of some path of authors reach the
books, and with unknown changes only routes that read something are asked for. -/
theorem authors_are_read :
    (∃ changed : Path, ∃ path ∈ (ContainmentGraph.build registry 2).pathsFor "Author",
      path.reads.isTriggeredBy (some (.ofList [changed])) = true) ∧
    ∀ loader : RootLoader, ∀ request ∈
      ((ContainmentGraph.build registry 2).requiredRoots loader ⟨"Author", .text "1"⟩ none).2,
        ∃ path, request = .roots ⟨"Author", .text "1"⟩ path ∧ path.reads ≠ .nothing := by
  have stated : ∀ edge ∈ registry.edges, edge.embedding.target = "Author" →
      edge.embedding.includes ≠ .nothing := by
    intro edge declared ends
    obtain ⟨type, member, embedding, embedded, rfl⟩ := Registry.mem_edges.1 declared
    simp only [registry, List.mem_cons, List.not_mem_nil, or_false] at member
    rcases member with rfl | rfl | rfl <;> cases List.mem_singleton.1 embedded
    · exact absurd ends (by decide)
    · exact nofun
    · exact nofun
  obtain ⟨-, reads⟩ := unread_iff registry 2 "Author"
  obtain ⟨-, triggered, asked⟩ := reads stated
  have contained : (ContainmentGraph.build registry 2).isContained "Author" = true := rfl
  exact ⟨triggered contained, fun loader => asked loader _ none rfl⟩

/-- Calendars, which name their author without reading anything of him. -/
def calendar : MappedType where
  name := "Calendar"
  entityName := "Calendar"
  index := some "calendars"
  embeddings := [{ property := "author", target := "Author", includes := .nothing }]

/-- Stands, which embed their calendars with everything. -/
def stand : MappedType where
  name := "Stand"
  entityName := "Stand"
  index := some "stands"
  embeddings := [{ property := "calendars", target := "Calendar" }]

/-- The types of a library of calendars. -/
def calendars : Registry := ⟨[stand, calendar, loneAuthor]⟩

/-- Chains that read nothing are kept: authors count as contained, all routes to them read
nothing and no known change triggers one, and yet with unknown changes the persistence layer
is asked for both. -/
theorem unread_author_listed :
    let graph := ContainmentGraph.build calendars 8
    let one : EntityKey := ⟨"Author", .text "1"⟩
    Registry.ofDeclarations [stand, calendar, loneAuthor] = .ok calendars ∧
      graph.isContained "Author" = true ∧
      (graph.pathsFor "Author").map ContainmentPath.descriptor =
        ["Calendar.author", "Stand.calendars.author"] ∧
      (∀ path ∈ graph.pathsFor "Author", path.reads = .nothing) ∧
      (¬ ∃ changed : Path, ∃ path ∈ graph.pathsFor "Author",
        path.reads.isTriggeredBy (some (.ofList [changed])) = true) ∧
      (graph.requiredRoots (fun _ _ => []) one none).2 =
        (graph.pathsFor "Author").map (.roots one) := by
  intro graph one
  have unread : ∀ path ∈ graph.pathsFor "Author", path.reads = .nothing := by
    have reads : (graph.pathsFor "Author").map ContainmentPath.reads =
        [.nothing, .nothing] := rfl
    intro path listed
    have member : path.reads ∈ [ReadSet.nothing, .nothing] :=
      reads ▸ List.mem_map_of_mem listed
    simpa using member
  refine ⟨rfl, rfl, rfl, unread, ?_, rfl⟩
  rintro ⟨changed, path, listed, triggered⟩
  exact ReadSet.ne_nothing_iff_triggered.2 ⟨changed, triggered⟩ (unread path listed)

end Library

end Reindex
