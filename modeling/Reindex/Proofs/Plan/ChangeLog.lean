import Reindex.Proofs.Containment.Roots
import Reindex.Proofs.Plan.PendingOperation
import Reindex.Proofs.ReadSet

/-!
# One record for each changed entity

The log of a plan keeps one record for each entity that was registered, however often,
in the order in which the entities came first. The record merges what the registrations
have told of changed paths: nothing is known any more once one of them did not know, and
otherwise every path is listed that one of them has listed.

Merging forgets who has told what, and nothing depends on it. A record triggers a read
set exactly if one of the registrations does so by itself, also where everything is read
or where a registration has listed no path. So the documents that a record makes stale
are those that the registrations make stale, taken together.
-/

namespace Reindex

/-- The merged paths of changes stand for what was told of them. -/
structure Merges (told : List (Option PathSet)) (merged : Option PathSet) : Prop where
  /-- They are unknown exactly if those of one change are, -/
  unknown : merged = none ↔ none ∈ told
  /-- and otherwise they are the paths of all changes. -/
  known : ∀ paths, merged = some paths →
    ∀ path, path ∈ paths.paths ↔ ∃ listed, some listed ∈ told ∧ path ∈ listed.paths

namespace Merges

variable {told : List (Option PathSet)} {merged : Option PathSet} {graph : ContainmentGraph}
  {loader : RootLoader} {key root : EntityKey}

/-- A single change is told of as it is. -/
theorem single (changed : Option PathSet) : Merges [changed] changed where
  unknown := by simp [eq_comm]
  known paths known path := by simp [known]

/-- One more change is merged into the others. -/
theorem append (merges : Merges told merged) (changed : Option PathSet) :
    Merges (told ++ [changed]) (Plan.mergePaths merged changed) := by
  cases merged with
  | none =>
    have unknown : none ∈ told := merges.unknown.1 rfl
    exact ⟨by simp [Plan.mergePaths, unknown], by rintro _ ⟨⟩⟩
  | some earlier =>
    have known : none ∉ told := mt merges.unknown.2 (by simp)
    cases changed with
    | none => exact ⟨by simp [Plan.mergePaths], by rintro _ ⟨⟩⟩
    | some later =>
      refine ⟨by simp [Plan.mergePaths, known], ?_⟩
      rintro _ ⟨⟩ path
      have both : path ∈ (earlier.union later).paths ↔
          path ∈ earlier.paths ∨ path ∈ later.paths := PathSet.mem_union
      rw [both, merges.known earlier rfl path]
      simp [or_and_right, exists_or]

/-- Merged paths trigger a read set exactly if the paths of one change do. -/
theorem isTriggeredBy_iff (merges : Merges told merged) (reads : ReadSet) :
    reads.isTriggeredBy merged = true ↔ ∃ changed ∈ told, reads.isTriggeredBy changed = true := by
  cases merged with
  | none =>
    have always : reads.isTriggeredBy none = true := by cases reads <;> rfl
    exact iff_of_true always ⟨none, merges.unknown.1 rfl, always⟩
  | some paths =>
    have known : none ∉ told := mt merges.unknown.2 (by simp)
    simp only [ReadSet.isTriggeredBy_some_iff, merges.known paths rfl]
    constructor
    · rintro ⟨path, ⟨listed, ⟨set, member, lists⟩, inside⟩, covered⟩
      exact ⟨some set, member, ReadSet.isTriggeredBy_some_iff.2
        ⟨path, ⟨listed, lists, inside⟩, covered⟩⟩
    · rintro ⟨changed, member, triggered⟩
      cases changed with
      | none => exact absurd member known
      | some set =>
        obtain ⟨path, ⟨listed, lists, inside⟩, covered⟩ :=
          ReadSet.isTriggeredBy_some_iff.1 triggered
        exact ⟨path, ⟨listed, ⟨set, member, lists⟩, inside⟩, covered⟩

/-- Merged paths trigger the routes that the paths of one change trigger. -/
theorem mem_triggered (merges : Merges told merged) {type : TypeName} {path : ContainmentPath} :
    path ∈ graph.triggered type merged ↔ ∃ changed ∈ told, path ∈ graph.triggered type changed := by
  simp only [ContainmentGraph.triggered, List.mem_filter, merges.isTriggeredBy_iff]
  constructor
  · rintro ⟨listed, changed, member, triggered⟩
    exact ⟨changed, member, listed, triggered⟩
  · rintro ⟨changed, member, listed, triggered⟩
    exact ⟨listed, changed, member, triggered⟩

/-- Merged paths reach the roots that the paths of one change reach. -/
theorem reaches_iff (merges : Merges told merged) :
    graph.Reaches loader key merged root ↔
      ∃ changed ∈ told, graph.Reaches loader key changed root := by
  simp only [ContainmentGraph.Reaches, merges.mem_triggered]
  constructor
  · rintro ⟨path, ⟨changed, member, triggered⟩, streamed⟩
    exact ⟨changed, member, path, triggered, streamed⟩
  · rintro ⟨changed, member, path, triggered, streamed⟩
    exact ⟨path, ⟨changed, member, triggered⟩, streamed⟩

/-- When no stream breaks off for merged paths, none does for those of one change. -/
theorem unbroken (merges : Merges told merged) (unbroken : graph.Unbroken loader key merged)
    {changed : Option PathSet} (member : changed ∈ told) : graph.Unbroken loader key changed :=
  fun path triggered => unbroken path (merges.mem_triggered.2 ⟨changed, member, triggered⟩)

end Merges

/-- An expansion of merged paths finds what the changes would find one by one. -/
structure Unites (graph : ContainmentGraph) (loader : RootLoader) (key : EntityKey)
    (told : List (Option PathSet)) (roots : List EntityKey) : Prop where
  /-- Each change has its roots, -/
  each : ∀ changed ∈ told, ∃ own, (graph.requiredRoots loader key changed).1 = .ok own
  /-- which are all that is found, -/
  members : ∀ root, root ∈ roots ↔ ∃ changed ∈ told, ∃ own,
    (graph.requiredRoots loader key changed).1 = .ok own ∧ root ∈ own
  /-- each once and in the order of keys. -/
  increasing : Ordered.Increasing roots

/-- The roots of merged paths are those of the changes, taken together. -/
theorem Merges.unites {told : List (Option PathSet)} {merged : Option PathSet}
    {graph : ContainmentGraph} {loader : RootLoader} {key : EntityKey}
    (merges : Merges told merged) (unbroken : graph.Unbroken loader key merged) :
    ∃ roots, (graph.requiredRoots loader key merged).1 = .ok roots ∧
      Unites graph loader key told roots := by
  have found {changed : Option PathSet} (kept : graph.Unbroken loader key changed) :=
    congrArg Prod.fst (ContainmentGraph.requiredRoots_of_unbroken kept)
  refine ⟨_, found unbroken, ?_, ?_, Ordered.increasing_ofList⟩
  · intro changed member
    exact ⟨_, found (merges.unbroken unbroken member)⟩
  · intro root
    rw [ContainmentGraph.mem_required, merges.reaches_iff]
    refine exists_congr fun changed => and_congr_right fun member => ?_
    simp [found (merges.unbroken unbroken member), ContainmentGraph.mem_required]

namespace Plan

/-- The registration that a call makes, if it is not refused. -/
def accepted? (plan : Plan) : PlanCall → Option Registration
  | .register registration => if (plan.apply registration).isOk then some registration else none
  | .reindex _ => none

/-- The registrations of a history that are not refused, in order. -/
def accepted (plan : Plan) : List PlanCall → List Registration
  | [] => []
  | call :: rest => (plan.accepted? call).toList ++ (plan.call call).accepted rest

/-- A log with registrations added to it. -/
def logAll (changes : List Change) (registrations : List Registration) : List Change :=
  registrations.foldl
    (fun log registration => logChange registration.key registration.changed log) changes

/-- The log of registrations. -/
def logOf (registrations : List Registration) : List Change := logAll [] registrations

/-- A call logs the registration that it makes, and nothing else. -/
theorem changes_call (plan : Plan) (call : PlanCall) :
    (plan.call call).changes = logAll plan.changes (plan.accepted? call).toList := by
  cases call with
  | register registration =>
    rw [accepted?]
    cases applied : plan.apply registration with
    | error error => simp [Plan.call, applied, Except.isOk, Except.toBool, logAll]
    | ok next =>
      obtain ⟨_, _, rfl⟩ := apply_eq_ok applied
      simp [Plan.call, applied, Except.isOk, Except.toBool, logAll]
  | reindex key =>
    simp only [Plan.call]
    split
    · rename_i scheduled next reindexed
      obtain ⟨_, ⟨_, rfl⟩ | ⟨_, rfl⟩⟩ := reindex_eq_ok reindexed <;> rfl
    · rfl

/-- The log of a plan is that of the registrations that it has accepted. -/
theorem changes_calls (mapping : Mapping) (calls : List PlanCall) :
    (calls.foldl Plan.call (.empty mapping)).changes =
      logOf ((Plan.empty mapping).accepted calls) := by
  suffices follows : ∀ plan : Plan, (calls.foldl Plan.call plan).changes =
      logAll plan.changes (plan.accepted calls) from follows (.empty mapping)
  induction calls with
  | nil => exact fun _ => rfl
  | cons call rest inductionHypothesis =>
    intro plan
    rw [List.foldl_cons, inductionHypothesis, accepted, changes_call]
    exact List.foldl_append.symm

/-- What a log holds after one more change: the records of other entities as they were,
and the record of its own with the paths merged in, or a new one. -/
theorem mem_logChange {key : EntityKey} {paths : Option PathSet} {changes : List Change}
    (distinct : (changes.map Change.key).Nodup) {change : Change}
    (member : change ∈ logChange key paths changes) :
    (change.key ≠ key ∧ change ∈ changes) ∨
      (∃ before ∈ changes, before.key = key ∧
        change = ⟨key, mergePaths before.paths paths⟩) ∨
      (key ∉ changes.map Change.key ∧ change = ⟨key, paths⟩) := by
  induction changes with
  | nil => exact .inr (.inr ⟨by simp, by simpa [logChange] using member⟩)
  | cons head rest inductionHypothesis =>
    obtain ⟨absent, distinctRest⟩ := List.nodup_cons.1 distinct
    rw [logChange] at member
    by_cases here : head.key = key
    · rw [if_pos here] at member
      rcases List.mem_cons.1 member with rfl | later
      · exact .inr (.inl ⟨head, List.mem_cons_self, here, rfl⟩)
      · refine .inl ⟨?_, List.mem_cons_of_mem _ later⟩
        rintro same
        exact absent (here.trans same.symm ▸ List.mem_map_of_mem later)
    · rw [if_neg here] at member
      rcases List.mem_cons.1 member with rfl | later
      · exact .inl ⟨here, List.mem_cons_self⟩
      · rcases inductionHypothesis distinctRest later with
          ⟨apart, kept⟩ | ⟨before, kept, own, same⟩ | ⟨fresh, same⟩
        · exact .inl ⟨apart, List.mem_cons_of_mem _ kept⟩
        · exact .inr (.inl ⟨before, List.mem_cons_of_mem _ kept, own, same⟩)
        · exact .inr (.inr ⟨by simp [Ne.symm here, fresh], same⟩)

/-- One more registration follows the others. -/
theorem logOf_append (registrations : List Registration) (registration : Registration) :
    logOf (registrations ++ [registration]) =
      logChange registration.key registration.changed (logOf registrations) := by
  simp [logOf, logAll]

/-- A log lists each entity once, where it came first. -/
theorem keys_logOf (registrations : List Registration) :
    (logOf registrations).map Change.key = (registrations.map Registration.key).eraseDups := by
  induction registrations using List.reverseRecOn with
  | nil => rfl
  | append_singleton earlier registration inductionHypothesis =>
    rw [logOf_append, keys_logChange, inductionHypothesis, List.map_append, List.map_singleton,
      eraseDups_concat]

/-- What registrations have told of the changed paths of an entity, in order. -/
def told (registrations : List Registration) (key : EntityKey) : List (Option PathSet) :=
  (registrations.filter (·.key == key)).map Registration.changed

/-- A registration of the entity tells of its paths. -/
theorem told_append_own (registrations : List Registration) (registration : Registration) :
    told (registrations ++ [registration]) registration.key =
      told registrations registration.key ++ [registration.changed] := by
  simp [told, List.filter_append]

/-- A registration of another entity tells nothing of it. -/
theorem told_append_other (registrations : List Registration) {registration : Registration}
    {key : EntityKey} (other : registration.key ≠ key) :
    told (registrations ++ [registration]) key = told registrations key := by
  simp [told, List.filter_append, other]

/-- Nothing is told of an entity that is not registered. -/
theorem told_eq_nil {registrations : List Registration} {key : EntityKey}
    (absent : key ∉ registrations.map Registration.key) : told registrations key = [] := by
  have none : registrations.filter (·.key == key) = [] := by
    rw [List.filter_eq_nil_iff]
    intro registration member same
    exact absent (List.mem_map.2 ⟨registration, member, by simpa using same⟩)
  rw [told, none, List.map_nil]

/-- Every record merges what the registrations have told of its entity. The induction is
on the registrations from the last one back: it is merged into the record of its entity,
or makes it, and the other records have been told of before. -/
theorem merges_logOf (registrations : List Registration) :
    ∀ change ∈ logOf registrations, Merges (told registrations change.key) change.paths := by
  induction registrations using List.reverseRecOn with
  | nil =>
    rintro _ ⟨⟩
  | append_singleton earlier registration inductionHypothesis =>
    intro change member
    have distinct : ((logOf earlier).map Change.key).Nodup := by
      rw [keys_logOf]
      exact nodup_eraseDups _
    rw [logOf_append] at member
    rcases mem_logChange distinct member with
      ⟨other, kept⟩ | ⟨before, kept, own, rfl⟩ | ⟨fresh, rfl⟩
    · rw [told_append_other earlier (Ne.symm other)]
      exact inductionHypothesis change kept
    · rw [told_append_own, ← own]
      exact (inductionHypothesis before kept).append _
    · rw [keys_logOf, List.mem_eraseDups] at fresh
      rw [told_append_own, told_eq_nil fresh]
      exact .single _

end Plan

/-- Merging records loses and invents no reindexing. After any calls on a new plan the log
holds one record for each entity with an accepted registration, in the order in which they
came first. A record merges what these registrations have told of the entity: it triggers
a read set exactly if one of them does, and as long as no stream of the persistence layer
breaks off, its expansion finds the roots that each of them requires on its own, taken
together. -/
theorem changes_merged (mapping : Mapping) (calls : List PlanCall) :
    let plan := calls.foldl Plan.call (Plan.empty mapping)
    let accepted := (Plan.empty mapping).accepted calls
    plan.changes.map Change.key = (accepted.map Registration.key).eraseDups ∧
      ∀ change ∈ plan.changes,
        Merges (Plan.told accepted change.key) change.paths ∧
        (∀ reads : ReadSet, reads.isTriggeredBy change.paths = true ↔
          ∃ changed ∈ Plan.told accepted change.key, reads.isTriggeredBy changed = true) ∧
        ∀ loader, mapping.containment.Unbroken loader change.key change.paths →
          ∃ roots,
            (mapping.containment.requiredRoots loader change.key change.paths).1 = .ok roots ∧
              Unites mapping.containment loader change.key (Plan.told accepted change.key)
                roots := by
  intro plan accepted
  have logged : plan.changes = Plan.logOf accepted := Plan.changes_calls mapping calls
  rw [logged]
  refine ⟨Plan.keys_logOf accepted, fun change member => ?_⟩
  have merges := Plan.merges_logOf accepted change member
  exact ⟨merges, merges.isTriggeredBy_iff, fun loader unbroken => merges.unites unbroken⟩

namespace Library

/-- An author is renamed, moves, and is reported once more without a changed path; in
between a book arrives, a pamphlet is refused, and another book is scheduled. -/
def relocation : List PlanCall :=
  [.register (.updatePaths ⟨"Author", .text "Austen"⟩ none (.ofList ["name"])),
    .register (.create (bookKey "1") (some (titled "Emma"))),
    .register (.updatePaths ⟨"Author", .text "Austen"⟩ none (.ofList ["address.street", "name"])),
    .register (.create ⟨"Pamphlet", .text "1"⟩ none), .reindex (bookKey "2"),
    .register (.updatePaths ⟨"Author", .text "Austen"⟩ none .empty)]

/-- One book and one shelf are found, whoever changes. -/
def oneEach : RootLoader := fun _ path =>
  if path.containing = "Shelf" then [.ok ⟨"Shelf", .text "A"⟩] else [.ok (bookKey "4")]

/-- The author has one record with both paths. It finds the book and the shelf, as the three
registrations do among them: the first two find both, and the last one nothing. -/
theorem relocation_merged :
    ∃ change ∈ (relocation.foldl Plan.call (Plan.empty (mapping {}))).changes,
      change = ⟨⟨"Author", .text "Austen"⟩, some (.ofList ["address.street", "name"])⟩ ∧
      Merges [some (.ofList ["name"]), some (.ofList ["address.street", "name"]), some .empty]
        change.paths ∧
      Unites (mapping {}).containment oneEach change.key
        [some (.ofList ["name"]), some (.ofList ["address.street", "name"]), some .empty]
        [bookKey "4", ⟨"Shelf", .text "A"⟩] := by
  obtain ⟨_, records⟩ := changes_merged (mapping {}) relocation
  have logged : ⟨⟨"Author", .text "Austen"⟩, some (.ofList ["address.street", "name"])⟩ ∈
      (relocation.foldl Plan.call (Plan.empty (mapping {}))).changes := List.mem_cons_self
  obtain ⟨merges, _, expands⟩ := records _ logged
  have unbroken : (mapping {}).containment.Unbroken oneEach ⟨"Author", .text "Austen"⟩
      (some (.ofList ["address.street", "name"])) := by
    intro path _ text
    unfold oneEach
    split <;> simp
  obtain ⟨roots, found, unites⟩ := expands oneEach unbroken
  have both : ((mapping {}).containment.requiredRoots oneEach ⟨"Author", .text "Austen"⟩
      (some (.ofList ["address.street", "name"]))).1 =
        .ok [bookKey "4", ⟨"Shelf", .text "A"⟩] := rfl
  rw [both, Except.ok.injEq] at found
  subst found
  exact ⟨_, logged, rfl, merges, unites⟩

end Library

end Reindex
