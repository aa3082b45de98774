import Reindex.Proofs.Containment.Roots
import Reindex.Proofs.Flush.Prepared
import Reindex.Proofs.Library

/-!
# What expansion schedules

Expansion adds to a plan and changes nothing of it. Every root that a logged change
reaches, and that has no entry, is scheduled once, to be written anew from what the
persistence layer holds; a root with an entry keeps it, whatever the entry says. The
changes come in the order of the log and the roots of a change in key order, so a root
stands where the first change that reaches it has put it. What is scheduled is no change:
nobody is asked for the documents that embed it.
-/

namespace Reindex

namespace Plan

/-- The entry with which a root is scheduled. -/
def scheduledEntry (root : EntityKey) : PlanEntry := ⟨root, .addOrUpdate none⟩

/-- The plan with roots scheduled behind its entries. -/
def schedule (plan : Plan) (roots : List EntityKey) : Plan :=
  { plan with entries := plan.entries ++ roots.map scheduledEntry }

variable {plan next : Plan} {roots : List EntityKey} {key : EntityKey}

@[simp] theorem schedule_nil (plan : Plan) : plan.schedule [] = plan := by
  simp [schedule]

/-- Roots that are scheduled later stand behind. -/
@[simp] theorem schedule_append (plan : Plan) (roots more : List EntityKey) :
    (plan.schedule roots).schedule more = plan.schedule (roots ++ more) := by
  simp [schedule]

/-- An operation that is pending stays; otherwise a scheduled root is written anew. -/
theorem get?_schedule (plan : Plan) (roots : List EntityKey) (key : EntityKey) :
    (plan.schedule roots).get? key =
      (plan.get? key).or (if key ∈ roots then some (.addOrUpdate none) else none) := by
  have found : pendingIn (roots.map scheduledEntry) key =
      if key ∈ roots then some (.addOrUpdate none) else none := by
    induction roots with
    | nil => rfl
    | cons root rest inductionHypothesis =>
      rw [List.map_cons, pendingIn_cons, inductionHypothesis]
      by_cases here : root = key
      · simp [scheduledEntry, here]
      · simp [scheduledEntry, here, Ne.symm here]
  rw [get?_eq, get?_eq, ← found]
  simp [schedule, pendingIn, List.find?_append, Option.map_or]

/-- The keys with an entry are then those that had one and those that were scheduled. -/
@[simp] theorem keys_schedule (plan : Plan) (roots : List EntityKey) :
    (plan.schedule roots).entries.map PlanEntry.key = plan.entries.map PlanEntry.key ++ roots := by
  simp [schedule, Function.comp_def, scheduledEntry]

/-- What was to be carried out still is, in its order, and then the scheduled roots. -/
theorem liveEntries_schedule (plan : Plan) (roots : List EntityKey) :
    (plan.schedule roots).liveEntries = plan.liveEntries ++ roots.map scheduledEntry := by
  have live : (roots.map scheduledEntry).filter (fun entry => entry.operation.kind ≠ .noop) =
      roots.map scheduledEntry := by
    rw [List.filter_eq_self]
    intro entry scheduled
    obtain ⟨root, _, rfl⟩ := List.mem_map.1 scheduled
    rfl
  rw [liveEntries, schedule, List.filter_append, live]
  rfl

/-- The roots can be told from the plan that they are scheduled in. -/
theorem schedule_injective : Function.Injective plan.schedule := by
  intro roots others same
  have keys := congrArg (fun plan => plan.entries.map PlanEntry.key) same
  rw [keys_schedule, keys_schedule] at keys
  exact List.append_cancel_left keys

/-- Reindexing an entity of an indexed type schedules it, unless it has an entry. -/
theorem reindex_eq (indexes : plan.mapping.Indexes key.type) :
    plan.reindex key =
      .ok (if plan.hasEntry key then (false, plan) else (true, plan.schedule [key])) := by
  cases listed : plan.hasEntry key with
  | true => exact reindex_of_hasEntry indexes listed
  | false => exact reindex_of_not_hasEntry indexes listed

/-- Whatever reindexing accepts, it schedules at most. -/
theorem schedule_of_reindex {scheduled : Bool}
    (reindexed : plan.reindex key = .ok (scheduled, next)) :
    ∃ roots, next = plan.schedule roots := by
  obtain ⟨_, ⟨_, same⟩ | ⟨_, added⟩⟩ := reindex_eq_ok reindexed
  · exact ⟨[], by rw [same, schedule_nil]⟩
  · exact ⟨[key], added⟩

end Plan

namespace Expansion

open ContainmentGraph (Reaches Unbroken)

variable {graph : ContainmentGraph} {loader : RootLoader} {plan next : Plan}
  {changed : EntityKey} {roots : List EntityKey} {changes : List Change}

/-- Scheduling roots without repetition schedules those that have no entry, in order. -/
theorem scheduleRoots_eq (distinct : roots.Nodup)
    (indexed : ∀ root ∈ roots, plan.mapping.Indexes root.type) :
    scheduleRoots changed plan roots =
      .ok (plan.schedule (roots.filter fun root => !plan.hasEntry root)) := by
  induction roots generalizing plan with
  | nil => simp [scheduleRoots]
  | cons root rest inductionHypothesis =>
    obtain ⟨fresh, distinctRest⟩ := List.nodup_cons.1 distinct
    have indexedRest : ∀ root ∈ rest, plan.mapping.Indexes root.type :=
      fun root member => indexed root (List.mem_cons_of_mem _ member)
    rw [scheduleRoots, Plan.reindex_eq (indexed root List.mem_cons_self)]
    cases entered : plan.hasEntry root with
    | true => simpa [entered] using inductionHypothesis distinctRest indexedRest
    | false =>
      have scheduled : scheduleRoots changed (plan.schedule [root]) rest =
          .ok ((plan.schedule [root]).schedule
            (rest.filter fun other => !(plan.schedule [root]).hasEntry other)) :=
        inductionHypothesis distinctRest indexedRest
      -- the root just scheduled is none of the others, so these have an entry as before
      have same : (rest.filter fun other => !(plan.schedule [root]).hasEntry other) =
          rest.filter fun other => !plan.hasEntry other := by
        refine List.filter_congr fun other member => ?_
        have apart : other ≠ root := by
          rintro rfl
          exact fresh member
        simp only [Plan.hasEntry, Plan.get?_schedule, List.mem_singleton, apart, ↓reduceIte,
          Option.or_none]
      simpa [entered, same] using scheduled

/-- Whatever roots are accepted, they are scheduled at most. -/
theorem schedule_of_scheduleRoots (scheduled : scheduleRoots changed plan roots = .ok next) :
    ∃ roots, next = plan.schedule roots := by
  induction roots generalizing plan with
  | nil =>
    rw [scheduleRoots, Except.ok.injEq] at scheduled
    exact ⟨[], by rw [Plan.schedule_nil, scheduled]⟩
  | cons root rest inductionHypothesis =>
    rw [scheduleRoots] at scheduled
    split at scheduled
    · rename_i reindexed
      obtain ⟨first, rfl⟩ := Plan.schedule_of_reindex reindexed
      obtain ⟨others, rfl⟩ := inductionHypothesis scheduled
      exact ⟨first ++ others, Plan.schedule_append plan first others⟩
    · cases scheduled

/-- An expansion that succeeds has scheduled roots and done nothing else. -/
theorem schedule_of_expandChanges
    (expanded : (expandChanges graph loader plan changes).1 = .ok next) :
    ∃ roots, next = plan.schedule roots := by
  induction changes generalizing plan with
  | nil =>
    rw [expandChanges, Except.ok.injEq] at expanded
    exact ⟨[], by rw [Plan.schedule_nil, expanded]⟩
  | cons change rest inductionHypothesis =>
    obtain ⟨_, middle, _, scheduled, later⟩ := expandChanges_cons_eq_ok expanded
    obtain ⟨first, rfl⟩ := schedule_of_scheduleRoots scheduled
    obtain ⟨others, rfl⟩ := inductionHypothesis later
    exact ⟨first ++ others, Plan.schedule_append plan first others⟩

/-- Of two roots the first one is reached by an earlier change than the second, or the same
change is the first to reach them and it comes first in key order. -/
def Precedes (graph : ContainmentGraph) (loader : RootLoader) (changes : List Change)
    (first second : EntityKey) : Prop :=
  ∃ earlier change later, changes = earlier ++ change :: later ∧
    (∀ other ∈ earlier, ¬ graph.Reaches loader other.key other.paths first ∧
      ¬ graph.Reaches loader other.key other.paths second) ∧
    graph.Reaches loader change.key change.paths first ∧
      (graph.Reaches loader change.key change.paths second → compare first second = .lt)

/-- The roots that changes schedule behind the entries of a plan. -/
structure Schedules (graph : ContainmentGraph) (loader : RootLoader) (plan : Plan)
    (changes : List Change) (scheduled : List EntityKey) : Prop where
  /-- They are those without an entry that a change reaches, -/
  members : ∀ root, root ∈ scheduled ↔ root ∉ plan.entries.map PlanEntry.key ∧
    ∃ change ∈ changes, graph.Reaches loader change.key change.paths root
  /-- each once, -/
  distinct : scheduled.Nodup
  /-- by the first change that reaches them, and then by key. -/
  ordered : scheduled.Pairwise (Precedes graph loader changes)

/-- The questions that expanding changes asks: each triggered route of each change. -/
def questions (graph : ContainmentGraph) (changes : List Change) : List Request :=
  changes.flatMap fun change =>
    (graph.triggered change.key.type change.paths).map (.roots change.key)

/-- Roots that no earlier change reaches keep their order when one is put in front. -/
theorem Precedes.cons {change : Change} {first second : EntityKey}
    (precedes : Precedes graph loader changes first second)
    (missesFirst : ¬ graph.Reaches loader change.key change.paths first)
    (missesSecond : ¬ graph.Reaches loader change.key change.paths second) :
    Precedes graph loader (change :: changes) first second := by
  obtain ⟨earlier, deciding, later, rfl, missed, reached, decides⟩ := precedes
  refine ⟨change :: earlier, deciding, later, rfl, ?_, reached, decides⟩
  intro other member
  rcases List.mem_cons.1 member with rfl | member
  · exact ⟨missesFirst, missesSecond⟩
  · exact missed other member

/-- One more change in front schedules the roots that it reaches before those that the
others still have to schedule. -/
theorem Schedules.cons {change : Change} {later : List EntityKey}
    (schedules : Schedules graph loader (plan.schedule roots) changes later)
    (members : ∀ root, root ∈ roots ↔ root ∉ plan.entries.map PlanEntry.key ∧
      graph.Reaches loader change.key change.paths root)
    (increasing : Ordered.Increasing roots) :
    Schedules graph loader plan (change :: changes) (roots ++ later) := by
  -- what is scheduled later has no entry yet, so the change in front cannot reach it
  have missed : ∀ root ∈ later, ¬ graph.Reaches loader change.key change.paths root := by
    intro root listed reached
    obtain ⟨absent, _⟩ := (schedules.members root).1 listed
    rw [Plan.keys_schedule, List.mem_append, not_or] at absent
    exact absent.2 ((members root).2 ⟨absent.1, reached⟩)
  constructor
  · intro root
    rw [List.mem_append, members, schedules.members, Plan.keys_schedule, List.mem_append, not_or,
      members]
    constructor
    · rintro (⟨free, reached⟩ | ⟨⟨free, _⟩, other, member, reached⟩)
      · exact ⟨free, change, List.mem_cons_self, reached⟩
      · exact ⟨free, other, List.mem_cons_of_mem _ member, reached⟩
    · rintro ⟨free, other, member, reached⟩
      by_cases first : graph.Reaches loader change.key change.paths root
      · exact .inl ⟨free, first⟩
      · rcases List.mem_cons.1 member with rfl | member
        · exact absurd reached first
        · exact .inr ⟨⟨free, fun both => first both.2⟩, other, member, reached⟩
  · refine List.nodup_append.2 ⟨increasing.nodup, schedules.distinct, ?_⟩
    rintro root listed _ listedLater rfl
    exact missed root listedLater ((members root).1 listed).2
  · refine List.pairwise_append.2 ⟨?_, ?_, ?_⟩
    · refine List.Pairwise.imp_of_mem ?_ increasing
      intro first second listed _ below
      exact ⟨[], change, changes, rfl, by simp, ((members first).1 listed).2, fun _ => below⟩
    · refine List.Pairwise.imp_of_mem ?_ schedules.ordered
      intro first second listed listedSecond precedes
      exact precedes.cons (missed first listed) (missed second listedSecond)
    · intro first listed second listedLater
      exact ⟨[], change, changes, rfl, by simp, ((members first).1 listed).2,
        fun reached => absurd reached (missed second listedLater)⟩

/-- Expanding changes whose streams do not break off, with roots of indexed types. The
induction is on the changes; the plan grows by what each of them schedules. -/
theorem expandChanges_eq
    (unbroken : ∀ change ∈ changes, graph.Unbroken loader change.key change.paths)
    (indexed : ∀ change ∈ changes, ∀ root, graph.Reaches loader change.key change.paths root →
      plan.mapping.Indexes root.type) :
    ∃ scheduled, expandChanges graph loader plan changes =
        (.ok (plan.schedule scheduled), questions graph changes) ∧
      Schedules graph loader plan changes scheduled := by
  induction changes generalizing plan with
  | nil => exact ⟨[], by simp [expandChanges, questions], by simp, .nil, .nil⟩
  | cons change rest inductionHypothesis =>
    obtain ⟨reached, required, increasing, members⟩ :=
      ContainmentGraph.exists_roots_of_unbroken (unbroken change List.mem_cons_self)
    have indexedHere : ∀ root ∈ reached, plan.mapping.Indexes root.type :=
      fun root listed => indexed change List.mem_cons_self root ((members root).1 listed)
    have scheduledHere : scheduleRoots change.key plan reached =
        .ok (plan.schedule (reached.filter fun root => !plan.hasEntry root)) :=
      scheduleRoots_eq increasing.nodup indexedHere
    generalize made : (reached.filter fun root => !plan.hasEntry root) = fresh at scheduledHere
    have freshMembers : ∀ root, root ∈ fresh ↔ root ∉ plan.entries.map PlanEntry.key ∧
        graph.Reaches loader change.key change.paths root := by
      intro root
      rw [← made, List.mem_filter, members, and_comm, Plan.hasEntry_eq, Bool.not_eq_true',
        decide_eq_false_iff_not]
    have freshIncreasing : Ordered.Increasing fresh := made ▸ List.Pairwise.filter _ increasing
    have indexedLater : ∀ other ∈ rest, ∀ root,
        graph.Reaches loader other.key other.paths root →
          (plan.schedule fresh).mapping.Indexes root.type :=
      fun other member => indexed other (List.mem_cons_of_mem _ member)
    obtain ⟨later, expanded, schedules⟩ := inductionHypothesis
      (fun other member => unbroken other (List.mem_cons_of_mem _ member)) indexedLater
    refine ⟨fresh ++ later, ?_, schedules.cons freshMembers freshIncreasing⟩
    simp [expandChanges, required, scheduledHere, expanded, questions, Except.bind]

end Expansion

/-- Expansion is exact and never disturbs registered work. Take any plan and any persistence
layer whose streams for the triggered routes of the logged changes do not break off and list
entities of indexed types only. Then the plan can be prepared. What is carried out are the
entries of the plan, in their order and as they were pending, without those that came to
nothing, and behind them the scheduled roots. Every operation that was pending still is, also
one after which nothing is to be done, and nobody is asked for roots of anything but the
logged changes. -/
theorem expansion_exact {mapping : Mapping} {services : Services} {plan : Plan}
    (unbroken : ∀ change ∈ plan.changes,
      mapping.containment.Unbroken services.rootLoader change.key change.paths)
    (indexed : ∀ change ∈ plan.changes, ∀ root,
      mapping.containment.Reaches services.rootLoader change.key change.paths root →
        plan.mapping.Indexes root.type) :
    ∃ scheduled loaded,
      Expansion.Schedules mapping.containment services.rootLoader plan plan.changes scheduled ∧
      (Expansion.expand mapping.containment services.rootLoader plan).1 =
        .ok (plan.schedule scheduled) ∧
      mapping.prepare services plan =
        (.ok (.ofOperations mapping services
            (plan.liveEntries ++ scheduled.map Plan.scheduledEntry)),
          Expansion.questions mapping.containment plan.changes ++ loaded) ∧
      (∀ key operation, plan.get? key = some operation →
        (plan.schedule scheduled).get? key = some operation) ∧
      ∀ leaf path, .roots leaf path ∉ loaded := by
  obtain ⟨scheduled, expanded, schedules⟩ := Expansion.expandChanges_eq unbroken indexed
  refine ⟨scheduled,
    (Items.itemsOf services mapping.registry (plan.schedule scheduled).liveEntries).2, schedules,
    congrArg Prod.fst expanded, ?_, ?_, ?_⟩
  · rw [← Plan.liveEntries_schedule]
    simp [Mapping.prepare, Expansion.expand, expanded, PreparedFlush.ofOperations, Plan.resolve_eq]
  · intro key operation pending
    rw [Plan.get?_schedule, pending]
    rfl
  · intro leaf path
    exact Items.roots_notMem_itemsOf

namespace Library

/-- The plan of the deliveries with the book that reads the author. -/
def restocked : Plan := delivered.schedule [bookKey "4"]

/-- A shelf by its number. -/
def shelfKey (number : String) : EntityKey := ⟨"Shelf", .text number⟩

/-- Book 1 stands on shelf 9, every other book there and on shelf 1; the books of an author
are listed out of order, and book 4 twice. -/
def shelving : RootLoader := fun changed route =>
  if changed = bookKey "1" then [.ok (shelfKey "9")]
  else if route.containing = "Shelf" then [.ok (shelfKey "9"), .ok (shelfKey "1")]
  else ["5", "2", "4", "3", "4"].map fun number => .ok (bookKey number)

/-- The stockroom with these shelves. -/
def shelved : Services := { clerks with rootLoader := shelving }

/-- Book 1 is new, book 2 goes, book 3 has come and gone, and an author is renamed. -/
def rearranged : Plan where
  mapping := stockroom.mapping
  entries := [
    ⟨bookKey "1", .add (some (titled "Emma"))⟩,
    ⟨bookKey "2", .delete⟩,
    ⟨bookKey "3", .noop⟩]
  changes := [⟨bookKey "1", none⟩, ⟨bookKey "2", none⟩, ⟨bookKey "3", none⟩,
    ⟨⟨"Author", .text "Austen"⟩, none⟩]

/-- No answer about the shelves breaks off, and all of them are shelves or books. -/
theorem indexes_shelving {changed : EntityKey} {route : ContainmentPath}
    {answer : Except String EntityKey} (listed : answer ∈ shelving changed route) :
    ∃ root, answer = .ok root ∧ stockroom.mapping.Indexes root.type := by
  unfold shelving at listed
  split at listed
  · rw [List.mem_singleton] at listed
    exact ⟨_, listed, shelf, rfl, rfl⟩
  · split at listed
    · rcases List.mem_pair.1 listed with listed | listed <;> exact ⟨_, listed, shelf, rfl, rfl⟩
    · obtain ⟨number, _, rfl⟩ := List.mem_map.1 listed
      exact ⟨bookKey number, rfl, book, rfl, rfl⟩

/-- The shelves and the books of the author are scheduled behind what is pending. Neither the
deleted book nor the one that has come and gone returns, though both are listed; shelf 9 is
scheduled once and before shelf 1, for book 1 stands on it. -/
theorem rearranged_exact :
    let scheduled := [shelfKey "9", shelfKey "1", bookKey "4", bookKey "5"]
    Expansion.Schedules stockroom.mapping.containment shelved.rootLoader rearranged
      rearranged.changes scheduled ∧
    ∃ loaded, stockroom.mapping.prepare shelved rearranged =
      (.ok (.ofOperations stockroom.mapping shelved
          ([⟨bookKey "1", .add (some (titled "Emma"))⟩, ⟨bookKey "2", .delete⟩] ++
            scheduled.map fun root => ⟨root, .addOrUpdate none⟩)),
        Expansion.questions stockroom.mapping.containment rearranged.changes ++ loaded) := by
  intro scheduled
  have unbroken : ∀ change ∈ rearranged.changes, stockroom.mapping.containment.Unbroken
      shelved.rootLoader change.key change.paths := by
    intro change _ path _ text listed
    obtain ⟨_, answered, _⟩ := indexes_shelving listed
    cases answered
  have indexed : ∀ change ∈ rearranged.changes, ∀ root,
      stockroom.mapping.containment.Reaches shelved.rootLoader change.key change.paths root →
        rearranged.mapping.Indexes root.type := by
    rintro change _ root ⟨path, _, listed⟩
    obtain ⟨_, answered, indexed⟩ := indexes_shelving listed
    cases answered
    exact indexed
  obtain ⟨found, loaded, schedules, expanded, ready, -, -⟩ := expansion_exact unbroken indexed
  have computed : (Expansion.expand stockroom.mapping.containment shelved.rootLoader
      rearranged).1 = .ok (rearranged.schedule scheduled) := rfl
  obtain rfl : found = scheduled :=
    Plan.schedule_injective (Except.ok.inj (expanded.symm.trans computed))
  exact ⟨schedules, loaded, ready⟩

end Library

end Reindex
