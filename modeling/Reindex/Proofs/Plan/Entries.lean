import Reindex.UnitOfWork
import Reindex.Proofs.Plan.Alteration
import Mathlib.Data.List.Induction

/-!
# The entries of a plan

A plan lists one entry for each entity, in the order of first registration. A
registration reaches at most the entry of its own entity; every other entity
looks up what it did before. Each kind of registration is the same step with its
own key, paths and operation, and `apply_eq` says once what that step does: which
types are refused, what is logged, and which entries come out.

A plan is reachable when it comes from the empty one by registrations and
containment expansion. No reachable plan lists an entity twice.
-/

namespace Reindex

/-- What is pending once another operation follows. -/
def Operation.after : Option Operation → Operation → Operation
  | none, incoming => incoming
  | some pending, incoming => pending.merge incoming

namespace Registration

/-- The entity that a registration is about. -/
def key : Registration → EntityKey
  | .create key _ | .update key _ | .updatePaths key _ _ | .addOrUpdate key _ | .delete key => key
  | .event reported => reported.key

/-- The paths that changed, if they are known. Only changes can tell. -/
def changed : Registration → Option PathSet
  | .updatePaths _ _ paths => some paths
  | .event reported => if reported.kind = .update then reported.paths else none
  | _ => none

/-- The operation that a registration asks for. -/
def operation : Registration → Operation
  | .create _ supplied => .add supplied
  | .update _ supplied | .updatePaths _ supplied _ => .update supplied
  | .addOrUpdate _ supplied => .addOrUpdate supplied
  | .delete _ => .delete
  | .event reported =>
    match reported.kind with
    | .create => .add reported.entity
    | .update => .update reported.entity
    | .delete => .delete

/-- The entry that a registration amounts to by itself. -/
def entry (registration : Registration) : PlanEntry := ⟨registration.key, registration.operation⟩

/-- Nobody registers that nothing is to be done. -/
theorem operation_ne_noop (registration : Registration) : registration.operation ≠ .noop := by
  cases registration with
  | event reported => cases kind : reported.kind <;> simp [operation, kind]
  | _ => simp [operation]

end Registration

section Listing

variable {α : Type} [DecidableEq α]

/-- To list an element behind the others, unless it is listed, lists nothing twice. -/
theorem nodup_listed {elements : List α} (distinct : elements.Nodup) (element : α) :
    (if element ∈ elements then elements else elements ++ [element]).Nodup := by
  split
  · exact distinct
  · rename_i absent
    refine List.nodup_append.mpr ⟨distinct, by simp, ?_⟩
    intro listed member added isElement same
    rw [List.mem_singleton] at isElement
    exact absent (isElement ▸ same ▸ member)

/-- The distinct elements of a list with one more at its end. -/
theorem eraseDups_concat (elements : List α) (element : α) :
    (elements ++ [element]).eraseDups =
      if element ∈ elements.eraseDups then elements.eraseDups
      else elements.eraseDups ++ [element] := by
  rw [List.eraseDups_append]
  split
  · rename_i listed
    simp [List.removeAll, List.mem_eraseDups.mp listed]
  · rename_i fresh
    simp [List.removeAll, mt List.mem_eraseDups.mpr fresh, List.eraseDups_cons]

/-- None of them is listed twice. -/
theorem nodup_eraseDups (elements : List α) : elements.eraseDups.Nodup := by
  induction elements using List.reverseRecOn with
  | nil => exact List.nodup_nil
  | append_singleton earlier element inductionHypothesis =>
    rw [eraseDups_concat]
    exact nodup_listed inductionHypothesis element

end Listing

/-- The type is mapped and has documents of its own. -/
def Mapping.Indexes (mapping : Mapping) (type : TypeName) : Prop :=
  ∃ declaration, mapping.registry.get? type = some declaration ∧ declaration.isIndexed = true

namespace Plan

/-- The operation that a list of entries has for a key. -/
def pendingIn (entries : List PlanEntry) (key : EntityKey) : Option Operation :=
  (entries.find? (·.key == key)).map PlanEntry.operation

@[simp] theorem get?_eq (plan : Plan) (key : EntityKey) :
    plan.get? key = pendingIn plan.entries key := rfl

@[simp] theorem pendingIn_nil (key : EntityKey) : pendingIn [] key = none := rfl

theorem pendingIn_cons (entry : PlanEntry) (rest : List PlanEntry) (key : EntityKey) :
    pendingIn (entry :: rest) key =
      if entry.key = key then some entry.operation else pendingIn rest key := by
  by_cases same : entry.key = key <;> simp [pendingIn, same]

/-- Nothing is pending exactly for the keys without an entry. -/
theorem pendingIn_eq_none_iff {entries : List PlanEntry} {key : EntityKey} :
    pendingIn entries key = none ↔ key ∉ entries.map PlanEntry.key := by
  simp [pendingIn]

/-- A key has an entry if it is among the keys of the entries. -/
theorem hasEntry_eq (plan : Plan) (key : EntityKey) :
    plan.hasEntry key = decide (key ∈ plan.entries.map PlanEntry.key) := by
  rw [hasEntry, get?_eq, Bool.eq_iff_iff, decide_eq_true_iff, Option.isSome_iff_ne_none, ne_eq,
    pendingIn_eq_none_iff, not_not]

/-- What is pending for a key is listed with it. -/
theorem mem_of_pendingIn {entries : List PlanEntry} {key : EntityKey} {operation : Operation}
    (pending : pendingIn entries key = some operation) : ⟨key, operation⟩ ∈ entries := by
  obtain ⟨⟨found, listed⟩, located, rfl⟩ := Option.map_eq_some_iff.mp pending
  have same : found = key := by simpa using List.find?_some located
  exact same ▸ List.mem_of_find?_eq_some located

/-- Where no key is listed twice, each entry is the one that its key finds. -/
theorem pendingIn_of_mem {entries : List PlanEntry} {entry : PlanEntry}
    (distinct : (entries.map PlanEntry.key).Nodup) (member : entry ∈ entries) :
    pendingIn entries entry.key = some entry.operation := by
  induction entries with
  | nil => simp at member
  | cons head rest inductionHypothesis =>
    obtain ⟨absent, distinctRest⟩ := List.nodup_cons.mp distinct
    rw [pendingIn_cons]
    rcases List.mem_cons.mp member with rfl | later
    · simp
    · have other : head.key ≠ entry.key := by
        intro same
        exact absent (same ▸ List.mem_map_of_mem later)
      rw [if_neg other]
      exact inductionHypothesis distinctRest later

/-- Merging reaches the entry of its key, or makes it, and no other. -/
theorem pendingIn_mergeEntry (key tested : EntityKey) (operation : Operation)
    (entries : List PlanEntry) :
    pendingIn (mergeEntry key operation entries) tested =
      if key = tested then some (Operation.after (pendingIn entries key) operation)
      else pendingIn entries tested := by
  induction entries with
  | nil => simp [mergeEntry, pendingIn_cons, Operation.after]
  | cons entry rest inductionHypothesis =>
    by_cases here : entry.key = key
    · by_cases same : key = tested
      · simp [mergeEntry, pendingIn_cons, here, same, Operation.after]
      · simp [mergeEntry, pendingIn_cons, here, same]
    · by_cases same : key = tested
      · subst same
        simp [mergeEntry, pendingIn_cons, here, inductionHypothesis]
      · simp [mergeEntry, pendingIn_cons, here, inductionHypothesis, same]

/-- Mapping reaches the entry of its key and no other. -/
theorem pendingIn_mapEntry (key tested : EntityKey) (f : Operation → Operation)
    (entries : List PlanEntry) :
    pendingIn (mapEntry key f entries) tested =
      if key = tested then (pendingIn entries key).map f else pendingIn entries tested := by
  induction entries with
  | nil => simp [mapEntry]
  | cons entry rest inductionHypothesis =>
    by_cases here : entry.key = key
    · by_cases same : key = tested <;> simp [mapEntry, pendingIn_cons, here, same]
    · by_cases same : key = tested
      · subst same
        simp [mapEntry, pendingIn_cons, here, inductionHypothesis]
      · simp [mapEntry, pendingIn_cons, here, inductionHypothesis, same]

/-- A new entry at the end is found by its key alone. -/
theorem pendingIn_append_singleton {entries : List PlanEntry} {entry : PlanEntry}
    (fresh : pendingIn entries entry.key = none) (tested : EntityKey) :
    pendingIn (entries ++ [entry]) tested =
      if entry.key = tested then some entry.operation else pendingIn entries tested := by
  have absent := pendingIn_eq_none_iff.mp fresh
  induction entries with
  | nil => simp [pendingIn_cons]
  | cons head rest inductionHypothesis =>
    have other : head.key ≠ entry.key := by
      intro same
      simp [same] at absent
    have absentRest : entry.key ∉ rest.map PlanEntry.key := fun later => absent (by simp [later])
    have found := inductionHypothesis (pendingIn_eq_none_iff.mpr absentRest) absentRest
    by_cases here : head.key = tested
    · have different : entry.key ≠ tested := fun same => other (here.trans same.symm)
      simp [pendingIn_cons, here, different]
    · simp [pendingIn_cons, here, found]

/-- The entries after an accepted registration: merged into when the change
concerns the document of an indexed type, and otherwise at most refreshed. -/
def entriesAfter (plan : Plan) (standing : Standing) (registration : Registration) :
    List PlanEntry :=
  if plan.isDirty registration.key registration.changed then
    match standing with
    | .indexed => mergeEntry registration.key registration.operation plan.entries
    | .contained => plan.entries
  else mapEntry registration.key (Operation.refresh registration.operation.carried?) plan.entries

/-- A change of unknown paths always concerns the document. -/
@[simp] theorem isDirty_none (plan : Plan) (key : EntityKey) : plan.isDirty key none = true := by
  unfold isDirty
  split
  · simp [MappedType.isDirty, ReadSet.isTriggeredBy]
  · rfl

/-- What registering an operation does: the standing of the type decides whether
it is refused, and otherwise whether it is merged. -/
theorem register_eq (plan : Plan) (key : EntityKey) (paths : Option PathSet)
    (operation : Operation) :
    plan.register key paths operation = (plan.classify key.type).map fun standing =>
      { plan with
        changes := logChange key paths plan.changes
        entries := match standing with
          | .indexed => mergeEntry key operation plan.entries
          | .contained => plan.entries } := by
  unfold register
  cases plan.classify key.type with
  | error error => rfl
  | ok standing => cases standing <;> rfl

/-- What registering an operation without known paths does, put like a change of
unknown paths. -/
theorem register_none_eq (plan : Plan) (key : EntityKey) (operation : Operation) :
    plan.register key none operation = (plan.classify key.type).map fun standing =>
      { plan with
        changes := logChange key none plan.changes
        entries :=
          if plan.isDirty key none then
            match standing with
            | .indexed => mergeEntry key operation plan.entries
            | .contained => plan.entries
          else mapEntry key (Operation.refresh operation.carried?) plan.entries } := by
  simp only [register_eq, isDirty_none, ↓reduceIte]

/-- What registering a change of given paths does. -/
theorem updatePaths_eq (plan : Plan) (key : EntityKey) (supplied : Option Instance)
    (paths : Option PathSet) :
    plan.updatePaths key supplied paths = (plan.classify key.type).map fun standing =>
      { plan with
        changes := logChange key paths plan.changes
        entries :=
          if plan.isDirty key paths then
            match standing with
            | .indexed => mergeEntry key (.update supplied) plan.entries
            | .contained => plan.entries
          else mapEntry key (Operation.refresh supplied) plan.entries } := by
  unfold updatePaths
  by_cases dirty : plan.isDirty key paths = true
  · simp only [dirty, ↓reduceIte, register_eq]
  · simp only [dirty]
    cases plan.classify key.type <;> rfl

/-- What any registration does: it is refused exactly when its type is, and
otherwise logged and applied to the entry of its entity. -/
theorem apply_eq (plan : Plan) (registration : Registration) :
    plan.apply registration = (plan.classify registration.key.type).map fun standing =>
      { plan with
        changes := logChange registration.key registration.changed plan.changes
        entries := plan.entriesAfter standing registration } := by
  cases registration with
  | create key supplied => exact register_none_eq plan key (.add supplied)
  | update key supplied => exact updatePaths_eq plan key supplied none
  | updatePaths key supplied paths => exact updatePaths_eq plan key supplied (some paths)
  | addOrUpdate key supplied => exact register_none_eq plan key (.addOrUpdate supplied)
  | delete key => exact register_none_eq plan key .delete
  | event reported =>
    obtain ⟨key, kind, paths, entity⟩ := reported
    cases kind with
    | create => exact register_none_eq plan key (.add entity)
    | update => exact updatePaths_eq plan key entity paths
    | delete => exact register_none_eq plan key .delete

/-- Every type with documents of its own is accepted as such. -/
theorem classify_of_indexes {plan : Plan} {type : TypeName} (indexes : plan.mapping.Indexes type) :
    plan.classify type = .ok .indexed := by
  obtain ⟨declaration, found, indexed⟩ := indexes
  simp [classify, found, indexed]

/-- A registration for an indexed type is never refused. -/
theorem apply_of_indexes {plan : Plan} {registration : Registration}
    (indexes : plan.mapping.Indexes registration.key.type) :
    plan.apply registration = .ok
      { plan with
        changes := logChange registration.key registration.changed plan.changes
        entries := plan.entriesAfter .indexed registration } := by
  rw [apply_eq, classify_of_indexes indexes]
  rfl

/-- What an accepted registration leaves. -/
theorem apply_eq_ok {plan next : Plan} {registration : Registration}
    (applied : plan.apply registration = .ok next) :
    ∃ standing, plan.classify registration.key.type = .ok standing ∧ next =
      { plan with
        changes := logChange registration.key registration.changed plan.changes
        entries := plan.entriesAfter standing registration } := by
  rw [apply_eq] at applied
  cases standing : plan.classify registration.key.type with
  | error error => simp [standing, Except.map] at applied
  | ok found =>
    refine ⟨found, rfl, ?_⟩
    simpa [standing, Except.map] using applied.symm

/-- What an accepted reindexing leaves: the plan as it was, or a new entry behind
the others. -/
theorem reindex_eq_ok {plan next : Plan} {key : EntityKey} {scheduled : Bool}
    (reindexed : plan.reindex key = .ok (scheduled, next)) :
    plan.classify key.type = .ok .indexed ∧
      ((pendingIn plan.entries key ≠ none ∧ next = plan) ∨
        (pendingIn plan.entries key = none ∧
          next = { plan with entries := plan.entries ++ [⟨key, .addOrUpdate none⟩] })) := by
  unfold reindex at reindexed
  cases standing : plan.classify key.type with
  | error error => simp [standing, bind, Except.bind] at reindexed
  | ok found =>
    cases found with
    | contained => simp [standing, bind, Except.bind, throw, throwThe, MonadExceptOf.throw]
        at reindexed
    | indexed =>
      refine ⟨rfl, ?_⟩
      cases pending : pendingIn plan.entries key with
      | none =>
        simp only [standing, bind, Except.bind, hasEntry, get?_eq, pending, Option.isSome_none,
          Bool.false_eq_true, ↓reduceIte, pure, Except.pure, Except.ok.injEq,
          Prod.mk.injEq] at reindexed
        exact Or.inr ⟨rfl, reindexed.2.symm⟩
      | some operation =>
        simp only [standing, bind, Except.bind, hasEntry, get?_eq, pending, Option.isSome_some,
          ↓reduceIte, pure, Except.pure, Except.ok.injEq, Prod.mk.injEq] at reindexed
        exact Or.inl ⟨by simp, reindexed.2.symm⟩

/-- An entity of an indexed type that has an entry is left alone, -/
theorem reindex_of_hasEntry {plan : Plan} {key : EntityKey}
    (indexes : plan.mapping.Indexes key.type) (listed : plan.hasEntry key = true) :
    plan.reindex key = .ok (false, plan) := by
  rw [reindex, classify_of_indexes indexes]
  simp [listed, bind, Except.bind, pure, Except.pure]

/-- and any other one gets an entry behind the others. -/
theorem reindex_of_not_hasEntry {plan : Plan} {key : EntityKey}
    (indexes : plan.mapping.Indexes key.type) (unlisted : plan.hasEntry key = false) :
    plan.reindex key =
      .ok (true, { plan with entries := plan.entries ++ [⟨key, .addOrUpdate none⟩] }) := by
  rw [reindex, classify_of_indexes indexes]
  simp [unlisted, bind, Except.bind, pure, Except.pure]

/-- So reindexing an entity of an indexed type is never refused. -/
theorem reindex_of_indexes {plan : Plan} {key : EntityKey}
    (indexes : plan.mapping.Indexes key.type) :
    ∃ scheduled next, plan.reindex key = .ok (scheduled, next) := by
  cases listed : plan.hasEntry key with
  | true => exact ⟨_, _, reindex_of_hasEntry indexes listed⟩
  | false => exact ⟨_, _, reindex_of_not_hasEntry indexes listed⟩

/-- The plans that registrations and containment expansion can lead to. -/
inductive Reachable (mapping : Mapping) : Plan → Prop where
  | empty : Reachable mapping (.empty mapping)
  | registered {plan next : Plan} {registration : Registration}
      (reached : Reachable mapping plan) (applied : plan.apply registration = .ok next) :
      Reachable mapping next
  | reindexed {plan next : Plan} {key : EntityKey} {scheduled : Bool}
      (reached : Reachable mapping plan) (reindexed : plan.reindex key = .ok (scheduled, next)) :
      Reachable mapping next

/-- No entity is listed twice. -/
def Distinct (plan : Plan) : Prop := (plan.entries.map PlanEntry.key).Nodup

/-- Merging lists no entity twice. -/
theorem nodup_mergeEntry {entries : List PlanEntry}
    (distinct : (entries.map PlanEntry.key).Nodup) (key : EntityKey) (operation : Operation) :
    ((mergeEntry key operation entries).map PlanEntry.key).Nodup := by
  rw [keys_mergeEntry]
  exact nodup_listed distinct key

/-- A registration lists no entity twice. -/
theorem Distinct.entriesAfter {plan : Plan} (distinct : plan.Distinct) (standing : Standing)
    (registration : Registration) :
    ((plan.entriesAfter standing registration).map PlanEntry.key).Nodup := by
  unfold Plan.entriesAfter
  split
  · cases standing with
    | indexed => exact nodup_mergeEntry distinct _ _
    | contained => exact distinct
  · rw [keys_mapEntry]
    exact distinct

/-- An accepted registration keeps the entries distinct. -/
theorem Distinct.apply {plan next : Plan} {registration : Registration} (distinct : plan.Distinct)
    (applied : plan.apply registration = .ok next) : next.Distinct := by
  obtain ⟨standing, _, rfl⟩ := apply_eq_ok applied
  exact distinct.entriesAfter standing registration

/-- Reindexing keeps the entries distinct, for it only adds what is not listed. -/
theorem Distinct.reindex {plan next : Plan} {key : EntityKey} {scheduled : Bool}
    (distinct : plan.Distinct) (reindexed : plan.reindex key = .ok (scheduled, next)) :
    next.Distinct := by
  obtain ⟨_, ⟨_, rfl⟩ | ⟨fresh, rfl⟩⟩ := reindex_eq_ok reindexed
  · exact distinct
  · have listed := nodup_listed distinct key
    rw [if_neg (pendingIn_eq_none_iff.mp fresh)] at listed
    simpa [Distinct] using listed

/-- No reachable plan lists an entity twice. -/
theorem Reachable.distinct {mapping : Mapping} {plan : Plan} (reached : Reachable mapping plan) :
    plan.Distinct := by
  induction reached with
  | empty => exact List.nodup_nil
  | registered _ applied inductionHypothesis => exact inductionHypothesis.apply applied
  | reindexed _ reindexed inductionHypothesis => exact inductionHypothesis.reindex reindexed

/-- The entries with something left to do: all but those that came to nothing. -/
def liveEntries (plan : Plan) : List PlanEntry :=
  plan.entries.filter fun entry => entry.operation.kind ≠ .noop

/-- They are what is resolved. -/
theorem resolve_eq (plan : Plan) : plan.resolve = plan.liveEntries := by
  refine List.filter_congr fun entry _ => ?_
  cases live : entry.operation.kind <;> simp [Operation.isLive, live]

/-- None of them came to nothing. -/
theorem kind_ne_noop_of_mem {plan : Plan} :
    ∀ entry ∈ plan.liveEntries, entry.operation.kind ≠ .noop :=
  fun _ member => of_decide_eq_true (List.mem_filter.1 member).2

/-- They list no entity twice either, -/
theorem Distinct.liveEntries {plan : Plan} (distinct : plan.Distinct) :
    (plan.liveEntries.map PlanEntry.key).Nodup :=
  distinct.sublist (List.filter_sublist.map PlanEntry.key)

/-- and so does what is resolved. -/
theorem Distinct.resolve {plan : Plan} (distinct : plan.Distinct) :
    (plan.resolve.map PlanEntry.key).Nodup :=
  plan.resolve_eq ▸ distinct.liveEntries

end Plan

end Reindex
