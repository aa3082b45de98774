import Reindex.Proofs.Flush.Scheduled
import Reindex.Proofs.Plan.Standing

/-!
# Why an expansion ends

The expansion goes through the logged changes in order, and through the triggered routes of
each. It ends with the first change that stumbles: one for which the persistence layer
answers with an error or with a root that has no documents. All streams of a change are
read before its first root is scheduled, so of one change an error of a stream comes before
any misplaced root, wherever the two stand.

The error names the change and says what was wrong. Until then only roots were asked for.
-/

namespace Reindex

namespace Mapping

/-- An answer of the persistence layer that ends an expansion. -/
inductive Refuses (mapping : Mapping) : Except String EntityKey → Prop
  /-- The stream breaks off. -/
  | broken (text : String) : Refuses mapping (.error text)
  /-- The type of the root is not mapped or has no documents of its own. -/
  | misplaced {root : EntityKey} (unindexed : ¬ mapping.Indexes root.type) :
      Refuses mapping (.ok root)

/-- A change stumbles over such an answer for a route that it triggers. -/
def Stumbles (mapping : Mapping) (loader : RootLoader) (change : Change) : Prop :=
  ∃ path ∈ mapping.containment.triggered change.key.type change.paths,
    ∃ answer ∈ loader change.key path, mapping.Refuses answer

/-- What is said of a change that stumbles, and what was asked about it. -/
inductive Complaint (mapping : Mapping) (loader : RootLoader) (change : Change) :
    String → List Request → Prop
  /-- The first error of the first stream that breaks off. No later route is asked for. -/
  | broken {earlier later : List ContainmentPath} {path : ContainmentPath}
      {before after : List (Except String EntityKey)} {text : String}
      (routes : mapping.containment.triggered change.key.type change.paths =
        earlier ++ path :: later)
      (unbroken : ∀ other ∈ earlier, ∀ text, .error text ∉ loader change.key other)
      (stream : loader change.key path = before ++ .error text :: after)
      (first : ∀ text, .error text ∉ before) :
      Complaint mapping loader change (path.descriptor ++ ": " ++ text)
        ((earlier ++ [path]).map (.roots change.key))
  /-- If none does, the first root in key order that cannot be scheduled. -/
  | misplaced {root : EntityKey}
      (unbroken : mapping.containment.Unbroken loader change.key change.paths)
      (reached : mapping.containment.Reaches loader change.key change.paths root)
      (unindexed : ¬ mapping.Indexes root.type)
      (first : ∀ other, mapping.containment.Reaches loader change.key change.paths other →
        compare other root = .lt → mapping.Indexes other.type) :
      Complaint mapping loader change
        ("invalid containing entity " ++ root.render ++ ": " ++
          (mapping.refusal root.type).message)
        ((mapping.containment.triggered change.key.type change.paths).map (.roots change.key))

variable {mapping : Mapping} {loader : RootLoader} {change : Change}

/-- A change that does not stumble has unbroken streams of indexed roots. -/
theorem not_stumbles_iff :
    ¬ mapping.Stumbles loader change ↔
      mapping.containment.Unbroken loader change.key change.paths ∧
        ∀ root, mapping.containment.Reaches loader change.key change.paths root →
          mapping.Indexes root.type := by
  constructor
  · intro passes
    refine ⟨fun path triggers text broken => passes ⟨path, triggers, _, broken, .broken text⟩, ?_⟩
    rintro root ⟨path, triggers, listed⟩
    by_contra unindexed
    exact passes ⟨path, triggers, _, listed, .misplaced unindexed⟩
  · rintro ⟨unbroken, indexed⟩ ⟨path, triggers, answer, listed, refuses⟩
    cases refuses with
    | broken text => exact unbroken path triggers text listed
    | misplaced unindexed => exact unindexed (indexed _ ⟨path, triggers, listed⟩)

/-- Of the roots that a stumbling change reaches by unbroken streams there is a first one
without documents. -/
theorem Stumbles.first_misplaced (stumbles : mapping.Stumbles loader change)
    (unbroken : mapping.containment.Unbroken loader change.key change.paths)
    {roots : List EntityKey} (members : ∀ root, root ∈ roots ↔
      mapping.containment.Reaches loader change.key change.paths root) :
    ∃ before root after, roots = before ++ root :: after ∧
      ¬ mapping.Indexes root.type ∧ ∀ other ∈ before, mapping.Indexes other.type := by
  have some : ∃ root ∈ roots, ¬ mapping.Indexes root.type := by
    by_contra none
    refine not_stumbles_iff.2 ⟨unbroken, fun root reached => ?_⟩ stumbles
    by_contra unindexed
    exact none ⟨root, (members root).2 reached, unindexed⟩
  obtain ⟨before, root, after, split, unindexed, indexed⟩ := exists_first _ some
  exact ⟨before, root, after, split, unindexed,
    fun other member => not_not.1 (indexed other member)⟩

end Mapping

namespace Expansion

variable {mapping : Mapping} {loader : RootLoader} {plan next : Plan} {changed : EntityKey}

/-- Roots are scheduled up to the first one that cannot be. -/
theorem scheduleRoots_of_misplaced {before after : List EntityKey} {root : EntityKey}
    (indexed : ∀ other ∈ before, plan.mapping.Indexes other.type)
    (unindexed : ¬ plan.mapping.Indexes root.type) :
    scheduleRoots changed plan (before ++ root :: after) =
      .error (.loaderFailure changed ("invalid containing entity " ++ root.render ++ ": " ++
        (plan.mapping.refusal root.type).message)) := by
  induction before generalizing plan with
  | nil =>
    rw [List.nil_append, scheduleRoots, Plan.reindex_of_unindexed unindexed]
  | cons other rest inductionHypothesis =>
    obtain ⟨here, indexedRest⟩ := List.forall_mem_cons.1 indexed
    rw [List.cons_append, scheduleRoots, Plan.reindex_eq here]
    cases plan.hasEntry other with
    | true => exact inductionHypothesis indexedRest unindexed
    | false =>
      -- an entry more leaves the mapping
      exact @inductionHypothesis (plan.schedule [other]) indexedRest unindexed

/-- Changes that could be expanded are followed by the others, from where they have led. -/
theorem expandChanges_append {graph : ContainmentGraph} {earlier later : List Change}
    {asked : List Request}
    (expanded : expandChanges graph loader plan earlier = (.ok next, asked)) :
    expandChanges graph loader plan (earlier ++ later) =
      ((expandChanges graph loader next later).1,
        asked ++ (expandChanges graph loader next later).2) := by
  induction earlier generalizing plan asked with
  | nil =>
    cases expanded
    rfl
  | cons change rest inductionHypothesis =>
    rw [List.cons_append, expandChanges]
    rw [expandChanges] at expanded
    generalize graph.requiredRoots loader change.key change.paths = required at expanded ⊢
    obtain ⟨roots, first⟩ := required
    dsimp only at expanded ⊢
    cases scheduled : roots.bind (scheduleRoots change.key plan) with
    | error error => simp [scheduled] at expanded
    | ok middle =>
      simp only [scheduled, Prod.mk.injEq] at expanded
      obtain ⟨rest, rfl⟩ := expanded
      simp only [inductionHypothesis (Prod.ext rest rfl), List.append_assoc]

/-- An expansion ends with a change of which a stream breaks off, -/
theorem expandChanges_of_broken {change : Change}
    (broken : ¬ mapping.containment.Unbroken loader change.key change.paths)
    (later : List Change) :
    ∃ detail asked, mapping.Complaint loader change detail asked ∧
      expandChanges mapping.containment loader plan (change :: later) =
        (.error (.loaderFailure change.key detail), asked) := by
  obtain ⟨earlier, path, rest, routes, unbroken, before, text, after, stream, first⟩ :=
    ContainmentGraph.first_broken broken
  have required := ContainmentGraph.requiredRoots_of_broken routes unbroken stream first
  refine ⟨_, _, .broken routes unbroken stream first, ?_⟩
  rw [expandChanges, required]
  rfl

/-- or of which all streams are read and a root is misplaced. -/
theorem expandChanges_of_misplaced (agreed : plan.mapping = mapping) {change : Change}
    (unbroken : mapping.containment.Unbroken loader change.key change.paths)
    (stumbles : mapping.Stumbles loader change) (later : List Change) :
    ∃ detail asked, mapping.Complaint loader change detail asked ∧
      expandChanges mapping.containment loader plan (change :: later) =
        (.error (.loaderFailure change.key detail), asked) := by
  obtain ⟨roots, required, increasing, members⟩ :=
    ContainmentGraph.exists_roots_of_unbroken unbroken
  obtain ⟨before, root, after, rfl, unindexed, indexed⟩ := stumbles.first_misplaced unbroken members
  have reached := (members root).1 (List.mem_append_right _ List.mem_cons_self)
  refine ⟨_, _, .misplaced unbroken reached unindexed fun other reached below => ?_, ?_⟩
  · exact indexed other (increasing.mem_front ((members other).2 reached) below)
  · subst agreed
    rw [expandChanges, required]
    dsimp only [Except.bind]
    rw [scheduleRoots_of_misplaced indexed unindexed]

/-- So it ends with every change that stumbles. -/
theorem expandChanges_of_stumbles (agreed : plan.mapping = mapping) {change : Change}
    (stumbles : mapping.Stumbles loader change) (later : List Change) :
    ∃ detail asked, mapping.Complaint loader change detail asked ∧
      expandChanges mapping.containment loader plan (change :: later) =
        (.error (.loaderFailure change.key detail), asked) := by
  by_cases unbroken : mapping.containment.Unbroken loader change.key change.paths
  · exact expandChanges_of_misplaced agreed unbroken stumbles later
  · exact expandChanges_of_broken unbroken later

/-- Changes that do not stumble are expanded, and the roots that they reach are scheduled. -/
theorem expandChanges_of_passed (agreed : plan.mapping = mapping) {changes : List Change}
    (passed : ∀ change ∈ changes, ¬ mapping.Stumbles loader change) :
    ∃ scheduled, expandChanges mapping.containment loader plan changes =
        (.ok (plan.schedule scheduled), questions mapping.containment changes) ∧
      Schedules mapping.containment loader plan changes scheduled := by
  subst agreed
  have meets (change : Change) (member : change ∈ changes) :=
    Mapping.not_stumbles_iff.1 (passed change member)
  exact expandChanges_eq (fun change member => (meets change member).1)
    (fun change member => (meets change member).2)

/-- The changes in front of one that stumbles are expanded as if it was not there. -/
theorem expandChanges_of_first (agreed : plan.mapping = mapping) {earlier later : List Change}
    {change : Change} (passed : ∀ other ∈ earlier, ¬ mapping.Stumbles loader other)
    (stumbles : mapping.Stumbles loader change) :
    ∃ detail asked, mapping.Complaint loader change detail asked ∧
      expandChanges mapping.containment loader plan (earlier ++ change :: later) =
        (.error (.loaderFailure change.key detail),
          questions mapping.containment earlier ++ asked) := by
  obtain ⟨scheduled, expanded, -⟩ := expandChanges_of_passed agreed passed
  have still : (plan.schedule scheduled).mapping = mapping := agreed
  obtain ⟨detail, asked, complaint, ended⟩ := expandChanges_of_stumbles still stumbles later
  refine ⟨detail, asked, complaint, ?_⟩
  rw [expandChanges_append expanded, ended]

/-- So no change stumbles of what could be expanded, -/
theorem not_stumbles_of_expand (agreed : plan.mapping = mapping)
    (expanded : (expand mapping.containment loader plan).1 = .ok next) :
    ∀ change ∈ plan.changes, ¬ mapping.Stumbles loader change := by
  intro change member stumbles
  obtain ⟨earlier, first, later, logged, stumbles, passed⟩ :=
    exists_first (mapping.Stumbles loader) ⟨change, member, stumbles⟩
  obtain ⟨detail, asked, -, ended⟩ := expandChanges_of_first agreed passed stumbles
  rw [expand, logged, ended] at expanded
  cases expanded

/-- and the roots that the logged changes reach were scheduled. -/
theorem schedules_of_expand (agreed : plan.mapping = mapping)
    (expanded : (expand mapping.containment loader plan).1 = .ok next) :
    ∃ scheduled, next = plan.schedule scheduled ∧
      Schedules mapping.containment loader plan plan.changes scheduled := by
  obtain ⟨scheduled, found, schedules⟩ :=
    expandChanges_of_passed agreed (not_stumbles_of_expand agreed expanded)
  rw [expand, found] at expanded
  exact ⟨scheduled, (Except.ok.inj expanded).symm, schedules⟩

end Expansion

namespace Mapping

variable {mapping : Mapping} {services : Services} {plan : Plan}

/-- The first change that stumbles decides the error of a preparation, which has asked for
roots and for nothing else. -/
theorem prepare_of_first (agreed : plan.mapping = mapping) {earlier later : List Change}
    {change : Change} (logged : plan.changes = earlier ++ change :: later)
    (passed : ∀ other ∈ earlier, ¬ mapping.Stumbles services.rootLoader other)
    (stumbles : mapping.Stumbles services.rootLoader change) :
    ∃ detail asked, mapping.Complaint services.rootLoader change detail asked ∧
      mapping.prepare services plan = (.error (.loaderFailure change.key detail),
        Expansion.questions mapping.containment earlier ++ asked) := by
  obtain ⟨detail, asked, complaint, ended⟩ :=
    Expansion.expandChanges_of_first agreed passed stumbles
  refine ⟨detail, asked, complaint, ?_⟩
  rw [prepare, Expansion.expand, logged, ended]

/-- A plan can be prepared exactly if none of its changes stumbles. -/
theorem prepare_error_iff (agreed : plan.mapping = mapping) :
    (∃ error, (mapping.prepare services plan).1 = .error error) ↔
      ∃ change ∈ plan.changes, mapping.Stumbles services.rootLoader change := by
  constructor
  · rintro ⟨error, refused⟩
    by_contra none
    obtain ⟨scheduled, expanded, -⟩ := Expansion.expandChanges_of_passed agreed
      fun change member stumbles => none ⟨change, member, stumbles⟩
    have ready := PreparedFlush.prepare_of_expand (congrArg Prod.fst expanded)
    rw [ready] at refused
    cases refused
  · rintro ⟨change, member, stumbles⟩
    cases ended : (mapping.prepare services plan).1 with
    | error error => exact ⟨error, rfl⟩
    | ok prepared =>
      obtain ⟨next, expanded, -⟩ := PreparedFlush.expand_of_prepare ended
      exact absurd stumbles (Expansion.not_stumbles_of_expand agreed expanded change member)

end Mapping

end Reindex
