import Reindex.Flush.Prepared
import Reindex.Proofs.Flush.Batching
import Reindex.Proofs.Flush.Becoming
import Reindex.Proofs.Mapping
import Reindex.Proofs.Plan.Order

/-!
# Plans do not depend on the settings

Registrations and containment expansion read the mapped types and the containment graph,
and the work items are made of what the other collaborators answer. How many calls of the
backend are permitted at a time, how many items make a batch and how the backend behaves
does not bear on any of it. So the same registrations lead to the same work whatever the
settings and the backend are; only where the work is cut into batches depends on the size
of a batch.
-/

namespace Reindex

/-- The mapping with changed settings. What was computed from the settings stays. -/
def Mapping.tuned (mapping : Mapping) (tune : Config → Config) : Mapping :=
  { mapping with config := tune mapping.config }

/-- Collaborators answer alike while a flush is prepared. They may differ in the backend and
in what is said of panics. -/
structure Services.PrepareAlike (services other : Services) : Prop where
  rootLoader : other.rootLoader = services.rootLoader
  entityLoader : other.entityLoader = services.entityLoader
  extractor : other.extractor = services.extractor

/-- Then they do so for every operation. -/
theorem Services.PrepareAlike.alike {services other : Services}
    (prepare : services.PrepareAlike other) (entry : PlanEntry) :
    Items.Alike services other entry where
  loads _ := congrFun prepare.entityLoader entry.key
  extracts entity type _ := congrFun (congrFun prepare.extractor entity) type

namespace Plan

/-- The plan under a mapping with changed settings. -/
def tuned (plan : Plan) (tune : Config → Config) : Plan :=
  { plan with mapping := plan.mapping.tuned tune }

variable (tune : Config → Config)

/-- A registration is refused or taken all the same. -/
theorem apply_tuned (plan : Plan) (registration : Registration) :
    (plan.tuned tune).apply registration = (plan.apply registration).map (·.tuned tune) := by
  have standing : (plan.tuned tune).classify registration.key.type =
      plan.classify registration.key.type := rfl
  rw [apply_eq, apply_eq, standing]
  cases plan.classify registration.key.type <;> rfl

/-- What a registration leaves is the same. -/
theorem register_tuned (plan : Plan) (registration : Registration) :
    (plan.tuned tune).call (.register registration) =
      (plan.call (.register registration)).tuned tune := by
  rw [call, call, apply_tuned]
  cases plan.apply registration <;> rfl

/-- What any registrations lead to is the same. -/
theorem ofRegistrations_tuned (mapping : Mapping) (history : List Registration) :
    ofRegistrations (mapping.tuned tune) history =
      (ofRegistrations mapping history).tuned tune := by
  induction history using List.reverseRecOn with
  | nil => rfl
  | append_singleton earlier registration inductionHypothesis =>
    rw [ofRegistrations_append, ofRegistrations_append, inductionHypothesis, register_tuned]

/-- A root is scheduled all the same. -/
theorem reindex_tuned (plan : Plan) (key : EntityKey) :
    (plan.tuned tune).reindex key =
      (plan.reindex key).map fun next => (next.1, next.2.tuned tune) := by
  have standing : (plan.tuned tune).classify key.type = plan.classify key.type := rfl
  have listed : (plan.tuned tune).hasEntry key = plan.hasEntry key := rfl
  unfold reindex
  rw [standing, listed]
  cases plan.classify key.type with
  | error error => rfl
  | ok found =>
    cases found with
    | contained => rfl
    | indexed => cases known : plan.hasEntry key <;> simp [bind, Except.bind, Except.map, pure,
        Except.pure, tuned]

end Plan

namespace Expansion

variable (tune : Config → Config)

/-- The roots of a change are scheduled all the same. -/
theorem scheduleRoots_tuned (changed : EntityKey) (plan : Plan) (roots : List EntityKey) :
    scheduleRoots changed (plan.tuned tune) roots =
      (scheduleRoots changed plan roots).map (·.tuned tune) := by
  induction roots generalizing plan with
  | nil => rfl
  | cons root rest inductionHypothesis =>
    rw [scheduleRoots, scheduleRoots, Plan.reindex_tuned]
    cases plan.reindex root with
    | error error => rfl
    | ok next => exact inductionHypothesis next.2

/-- The roots of all changes are scheduled, and asked for, all the same. -/
theorem expandChanges_tuned (graph : ContainmentGraph) (loader : RootLoader) (plan : Plan)
    (changes : List Change) :
    expandChanges graph loader (plan.tuned tune) changes =
      ((expandChanges graph loader plan changes).1.map (·.tuned tune),
        (expandChanges graph loader plan changes).2) := by
  induction changes generalizing plan with
  | nil => rfl
  | cons change rest inductionHypothesis =>
    have scheduled : ((graph.requiredRoots loader change.key change.paths).1.bind
        (scheduleRoots change.key (plan.tuned tune))) =
        ((graph.requiredRoots loader change.key change.paths).1.bind
          (scheduleRoots change.key plan)).map (·.tuned tune) := by
      cases (graph.requiredRoots loader change.key change.paths).1 with
      | error error => rfl
      | ok roots => exact scheduleRoots_tuned tune change.key plan roots
    simp only [expandChanges, scheduled]
    cases (graph.requiredRoots loader change.key change.paths).1.bind
        (scheduleRoots change.key plan) with
    | error error => rfl
    | ok next => simp only [Except.map, inductionHypothesis]

end Expansion

namespace PreparedFlush

/-- The same work items, cut into batches of another size. -/
def recut (prepared : PreparedFlush) (size : Nat) : PreparedFlush :=
  ⟨Batching.batches size (prepared.batches.flatMap WorkBatch.items), prepared.failures⟩

/-- The keys are the same, in the same order. -/
theorem keys_recut (prepared : PreparedFlush) (size : Nat) :
    (prepared.recut size).keys = prepared.keys := by
  have keysOf (batches : List WorkBatch) : batches.flatMap WorkBatch.keys =
      (batches.flatMap WorkBatch.items).map WorkItem.key := by
    rw [List.map_flatMap]
    rfl
  rw [keys, keys, keysOf, keysOf, recut, Batching.items_batches]

end PreparedFlush

namespace Mapping

/-- What is prepared is the same, cut into batches of the size that is set. -/
theorem prepare_tuned (mapping : Mapping) (tune : Config → Config) {services other : Services}
    (alike : services.PrepareAlike other) (plan : Plan) :
    (mapping.tuned tune).prepare other (plan.tuned tune) =
      ((mapping.prepare services plan).1.map (·.recut (tune mapping.config).batchSize),
        (mapping.prepare services plan).2) := by
  have expanded : Expansion.expand (mapping.tuned tune).containment other.rootLoader
      (plan.tuned tune) =
        ((Expansion.expand mapping.containment services.rootLoader plan).1.map (·.tuned tune),
          (Expansion.expand mapping.containment services.rootLoader plan).2) := by
    rw [alike.rootLoader]
    exact Expansion.expandChanges_tuned tune _ _ plan plan.changes
  simp only [prepare, expanded]
  cases (Expansion.expand mapping.containment services.rootLoader plan).1 with
  | error error => rfl
  | ok final =>
    have operations : (final.tuned tune).resolve = final.resolve := rfl
    have items : Items.itemsOf other mapping.registry final.resolve =
        Items.itemsOf services mapping.registry final.resolve :=
      Items.itemsOf_congr fun entry _ => alike.alike entry
    simp only [Except.map, operations, items, tuned, PreparedFlush.recut, Batching.items_batches]

/-- Mappings of the same declarations differ in the settings alone, as long as these bound the
embedding chains alike. -/
theorem tuned_of_build {config : Config} {hierarchy : Hierarchy} {types : List MappedType}
    {mapping other : Mapping} (tune : Config → Config)
    (built : build config hierarchy types = .ok mapping)
    (builtToo : build (tune config) hierarchy types = .ok other)
    (depth : (tune config).maxDepth = config.maxDepth) : other = mapping.tuned tune := by
  obtain ⟨-, accepted, rfl, rfl, graph⟩ := built_of_build built
  obtain ⟨-, acceptedToo, settings, table, otherGraph⟩ := built_of_build builtToo
  have registry : other.registry = mapping.registry :=
    Except.ok.inj (acceptedToo.symm.trans accepted)
  calc other = ⟨other.config, other.registry, other.hierarchy, other.containment⟩ := rfl
    _ = mapping.tuned tune := by
      rw [settings, table, otherGraph, registry, depth, tuned, graph]

end Mapping

end Reindex
