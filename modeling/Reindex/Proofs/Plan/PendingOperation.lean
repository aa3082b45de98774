import Reindex.Proofs.Library
import Mathlib.Data.List.DropRight

/-!
# What is pending, in closed form

A plan merges each call into what is pending and forgets the call. What is pending
for an entity can nevertheless be read off the calls themselves. Its kind depends
on the first and the last operation that was applied to the entity and on whether
a deletion was among them. The instance it carries is the latest one supplied
since the last deletion, either with an operation or, once an operation is there
to carry it, with a change that does not concern the document.

Calls for other entities, refused calls and reindexing of an entity that has an
entry leave no trace here.
-/

namespace Reindex

/-- A call on a plan. -/
inductive PlanCall where
  | register (registration : Registration)
  | reindex (key : EntityKey)

/-- What a call does to the pending operation of an entity. -/
inductive Touch where
  | applied (operation : Operation)
  /-- A change that does not concern the document: at most its instance is kept. -/
  | noted (supplied : Option Instance)

namespace Touch

/-- The operation that is applied. -/
def operation? : Touch → Option Operation
  | applied operation => some operation
  | noted _ => none

/-- The instance that is supplied. -/
def supplied? : Touch → Option Instance
  | applied operation => operation.carried?
  | noted supplied => supplied

/-- Whether a deletion is applied. -/
def deletes : Touch → Bool
  | applied operation => operation.kind == .delete
  | noted _ => false

/-- Whether no operation is applied. -/
def isNoted : Touch → Bool
  | applied _ => false
  | noted _ => true

/-- What is pending after a touch. -/
def act (pending : Option Operation) : Touch → Option Operation
  | applied operation => some (Operation.after pending operation)
  | noted supplied => pending.map (Operation.refresh supplied)

end Touch

namespace Plan

/-- The plan after a call. A refused call leaves it as it was. -/
def call (plan : Plan) : PlanCall → Plan
  | .register registration =>
    match plan.apply registration with
    | .ok next => next
    | .error _ => plan
  | .reindex key =>
    match plan.reindex key with
    | .ok (_, next) => next
    | .error _ => plan

/-- What a call does to an entity of an indexed type. A registration applies its
operation if it concerns the document; reindexing applies one only where there is
no entry. -/
def touch? (plan : Plan) (key : EntityKey) : PlanCall → Option Touch
  | .register registration =>
    if registration.key = key then
      if plan.isDirty key registration.changed then some (.applied registration.operation)
      else some (.noted registration.operation.carried?)
    else none
  | .reindex scheduled =>
    if scheduled = key ∧ plan.get? key = none then some (.applied (.addOrUpdate none)) else none

/-- What the calls of a history do to an entity, in order. -/
def touches (plan : Plan) (key : EntityKey) : List PlanCall → List Touch
  | [] => []
  | call :: rest => (plan.touch? key call).toList ++ (plan.call call).touches key rest

/-- A registration for one entity leaves what is pending for another. -/
theorem pendingIn_entriesAfter_of_ne (plan : Plan) (standing : Standing)
    {registration : Registration} {key : EntityKey} (other : registration.key ≠ key) :
    pendingIn (plan.entriesAfter standing registration) key = pendingIn plan.entries key := by
  unfold entriesAfter
  split
  · cases standing with
    | indexed => rw [pendingIn_mergeEntry, if_neg other]
    | contained => rfl
  · rw [pendingIn_mapEntry, if_neg other]

/-- No call changes the mapping. -/
theorem call_mapping (plan : Plan) (call : PlanCall) : (plan.call call).mapping = plan.mapping := by
  cases call with
  | register registration =>
    simp only [Plan.call]
    split
    · rename_i next applied
      obtain ⟨_, _, rfl⟩ := apply_eq_ok applied
      rfl
    · rfl
  | reindex key =>
    simp only [Plan.call]
    split
    · rename_i scheduled next reindexed
      obtain ⟨_, ⟨_, rfl⟩ | ⟨_, rfl⟩⟩ := reindex_eq_ok reindexed <;> rfl
    · rfl

/-- A registration does to an entity what its touch says. -/
theorem get?_call_register {plan : Plan} {key : EntityKey} (indexes : plan.mapping.Indexes key.type)
    (registration : Registration) :
    (plan.call (.register registration)).get? key =
      (plan.touch? key (.register registration)).elim (plan.get? key)
        (Touch.act (plan.get? key)) := by
  by_cases own : registration.key = key
  · subst own
    simp only [Plan.call, apply_of_indexes indexes, get?_eq, touch?, ↓reduceIte]
    by_cases dirty : plan.isDirty registration.key registration.changed = true
    · simp [entriesAfter, dirty, pendingIn_mergeEntry, Touch.act]
    · simp [entriesAfter, dirty, pendingIn_mapEntry, Touch.act]
  · simp only [Plan.call, touch?, own, ↓reduceIte, Option.elim_none, get?_eq]
    split
    · rename_i next applied
      obtain ⟨standing, _, rfl⟩ := apply_eq_ok applied
      exact pendingIn_entriesAfter_of_ne plan standing own
    · rfl

/-- Reindexing does to an entity what its touch says. -/
theorem get?_call_reindex {plan : Plan} {key : EntityKey} (indexes : plan.mapping.Indexes key.type)
    (scheduled : EntityKey) :
    (plan.call (.reindex scheduled)).get? key =
      (plan.touch? key (.reindex scheduled)).elim (plan.get? key) (Touch.act (plan.get? key)) := by
  cases reindexed : plan.reindex scheduled with
  | error error =>
    have other : scheduled ≠ key := by
      intro same
      obtain ⟨_, _, accepted⟩ := reindex_of_indexes (same ▸ indexes : plan.mapping.Indexes _)
      simp [reindexed] at accepted
    simp [Plan.call, touch?, reindexed, other]
  | ok result =>
    obtain ⟨wasScheduled, next⟩ := result
    obtain ⟨_, ⟨pending, same⟩ | ⟨fresh, rfl⟩⟩ := reindex_eq_ok reindexed
    · have untouched : plan.touch? key (.reindex scheduled) = none := by
        refine if_neg ?_
        rintro ⟨rfl, fresh⟩
        exact pending fresh
      simp [Plan.call, reindexed, untouched, same]
    · by_cases own : scheduled = key
      · subst own
        simp [Plan.call, touch?, reindexed, fresh, Touch.act, Operation.after,
          @pendingIn_append_singleton _ ⟨scheduled, .addOrUpdate none⟩ fresh]
      · simp [Plan.call, touch?, reindexed, own,
          @pendingIn_append_singleton _ ⟨scheduled, .addOrUpdate none⟩ fresh]

/-- What is pending for an entity after a history of calls is what their touches
make of it, one after another. -/
theorem get?_calls {plan : Plan} {key : EntityKey} (indexes : plan.mapping.Indexes key.type)
    (calls : List PlanCall) :
    (calls.foldl Plan.call plan).get? key =
      (plan.touches key calls).foldl Touch.act (plan.get? key) := by
  induction calls generalizing plan with
  | nil => rfl
  | cons call rest inductionHypothesis =>
    have step : (plan.call call).get? key =
        (plan.touch? key call).elim (plan.get? key) (Touch.act (plan.get? key)) := by
      cases call with
      | register registration => exact get?_call_register indexes registration
      | reindex scheduled => exact get?_call_reindex indexes scheduled
    have indexesAfter : (plan.call call).mapping.Indexes key.type :=
      (call_mapping plan call).symm ▸ indexes
    have later := inductionHypothesis indexesAfter
    rw [List.foldl_cons, later, step, touches]
    cases plan.touch? key call <;> rfl

end Plan

/-- The merge table, kinds alone. -/
def OperationKind.merge : OperationKind → OperationKind → OperationKind
  | pending, .noop => pending
  | .add, .delete | .noop, .delete => .noop
  | .update, .delete | .delete, .delete | .addOrUpdate, .delete => .delete
  | .add, _ | .noop, _ => .add
  | .update, _ | .delete, _ => .update
  | .addOrUpdate, _ => .addOrUpdate

/-- The kind that a history amounts to: its first and last kinds, and whether it
holds a deletion. -/
def OperationKind.summary (first last : OperationKind) (deleted : Bool) : OperationKind :=
  match first with
  | .add => if last = .delete then .noop else .add
  | .update | .delete => if last = .delete then .delete else .update
  | .addOrUpdate => if last = .delete then .delete else if deleted then .update else .addOrUpdate
  | .noop => .noop

/-- A history of one operation amounts to that operation. -/
theorem OperationKind.summary_single {kind : OperationKind} :
    summary kind kind (kind == .delete) = kind := by
  cases kind <;> rfl

/-- One more operation changes what a history amounts to by the merge table. -/
theorem OperationKind.summary_merge {first last incoming : OperationKind} {deleted : Bool}
    (real : first ≠ .noop) (realIncoming : incoming ≠ .noop) (seen : last = .delete → deleted) :
    (summary first last deleted).merge incoming =
      summary first incoming (deleted || incoming == .delete) := by
  by_cases ended : last = .delete
  · cases first <;> cases incoming <;> simp_all [summary, merge]
  · cases first <;> cases incoming <;> cases deleted <;> simp_all [summary, merge]

namespace Operation

/-- Only the deletion is of the kind of a deletion. -/
theorem kind_eq_delete_iff {operation : Operation} :
    operation.kind = .delete ↔ operation = .delete := by
  cases operation <;> simp [kind]

/-- Only the operation without effect is of its kind. -/
theorem kind_eq_noop_iff {operation : Operation} : operation.kind = .noop ↔ operation = .noop := by
  cases operation <;> simp [kind]

/-- Merging acts on the kinds by the merge table. -/
theorem kind_merge (pending incoming : Operation) :
    (pending.merge incoming).kind = pending.kind.merge incoming.kind := by
  cases pending <;> cases incoming <;> rfl

/-- Refreshing leaves the kind. -/
theorem kind_refresh (fresh : Option Instance) (pending : Operation) :
    (pending.refresh fresh).kind = pending.kind := by
  cases pending <;> rfl

/-- Whether an instance is to be stored. -/
def stores (operation : Operation) : Bool :=
  operation.kind != .delete && operation.kind != .noop

/-- Every operation but a deletion and one without effect stores an instance. -/
theorem stores_iff {operation : Operation} :
    operation.stores = true ↔ operation ≠ .delete ∧ operation ≠ .noop := by
  cases operation <;> simp [stores, kind]

/-- A deletion leaves nothing to be stored, whatever was pending. -/
theorem after_delete (pending : Option Operation) :
    (after pending .delete).stores = false ∧ (after pending .delete).carried? = none := by
  rcases pending with _ | pending
  · exact ⟨rfl, rfl⟩
  · cases pending <;> exact ⟨rfl, rfl⟩

/-- Any other operation leaves an instance to be stored: the one that it carries,
or else the one that was carried before. -/
theorem after_stores {incoming : Operation} (stored : incoming.stores = true)
    (pending : Option Operation) :
    (after pending incoming).stores = true ∧
      (after pending incoming).carried? = incoming.carried?.or (pending.bind carried?) := by
  cases incoming with
  | delete | noop => simp [stores, kind] at stored
  | add carried | update carried | addOrUpdate carried =>
    rcases pending with _ | pending
    · simp [after, stores, kind, carried?]
    · cases pending <;> simp [after, merge, stores, kind, carried?]

/-- A refresh reaches only an operation that has an instance to store. -/
theorem refresh_carried? (fresh : Option Instance) (pending : Operation) :
    (pending.refresh fresh).stores = pending.stores ∧
      (pending.refresh fresh).carried? =
        if pending.stores then fresh.or pending.carried? else none := by
  cases pending <;> simp [refresh, stores, kind, carried?]

end Operation

namespace Touch

/-- The touches from the first operation on that follows the last deletion. What
is supplied outside of them is lost. -/
def effective (touches : List Touch) : List Touch :=
  (touches.rtakeWhile fun touch => !touch.deletes).dropWhile isNoted

/-- The latest instance that was supplied and not lost. -/
def latestSupply (touches : List Touch) : Option Instance :=
  ((effective touches).filterMap supplied?).getLast?

/-- A deletion loses all that was supplied before. -/
theorem effective_append_delete (touches : List Touch) {touch : Touch}
    (deletes : touch.deletes = true) : effective (touches ++ [touch]) = [] := by
  simp [effective, deletes]

/-- Any other operation loses nothing and is effective itself. -/
theorem effective_append_operation (touches : List Touch) {operation : Operation}
    (keeps : operation ≠ .delete) :
    effective (touches ++ [applied operation]) = effective touches ++ [applied operation] := by
  have keepsKind : operation.kind ≠ .delete := mt Operation.kind_eq_delete_iff.mp keeps
  simp only [effective, List.rtakeWhile_concat, deletes, beq_eq_false_iff_ne.mpr keepsKind,
    Bool.not_false, ↓reduceIte]
  rw [List.dropWhile_append]
  split
  · rename_i noted
    simp [isNoted, List.isEmpty_iff.mp noted]
  · rfl

/-- A change that does not concern the document is effective behind an operation. -/
theorem effective_append_noted (touches : List Touch) (supplied : Option Instance) :
    effective (touches ++ [noted supplied]) =
      if (effective touches).isEmpty then [] else effective touches ++ [noted supplied] := by
  simp only [effective, List.rtakeWhile_concat, deletes, Bool.not_false, ↓reduceIte]
  rw [List.dropWhile_append]
  split <;> simp_all [isNoted]

/-- One more effective touch supplies what it brings, or else leaves what there was. -/
theorem latest_append (kept : List Touch) (touch : Touch) :
    ((kept ++ [touch]).filterMap supplied?).getLast? =
      touch.supplied?.or (kept.filterMap supplied?).getLast? := by
  cases brought : touch.supplied? <;> simp [brought]

/-- What is pending fits the touches that led to it. -/
structure Summarizes (touches : List Touch) (pending : Option Operation) : Prop where
  absent : pending = none ↔ touches.filterMap operation? = []
  kind : ∀ first last, (touches.filterMap operation?).head? = some first →
    (touches.filterMap operation?).getLast? = some last →
    pending.map Operation.kind = some (OperationKind.summary first.kind last.kind
      ((touches.filterMap operation?).any (·.kind == .delete)))
  stores : pending.any Operation.stores = !(effective touches).isEmpty
  carried : pending.bind Operation.carried? = latestSupply touches

/-- Nothing is pending before anything was done. -/
theorem Summarizes.empty : Summarizes [] none where
  absent := by simp
  kind := by simp
  stores := rfl
  carried := rfl

/-- A change that does not concern the document keeps the fit: the history of
operations is as before, and its instance counts if an instance is to be stored. -/
theorem Summarizes.note {touches : List Touch} {pending : Option Operation}
    (fits : Summarizes touches pending) (supplied : Option Instance) :
    Summarizes (touches ++ [noted supplied]) (act pending (noted supplied)) := by
  have same : (touches ++ [noted supplied]).filterMap operation? =
      touches.filterMap operation? := by simp [operation?]
  rcases pending with _ | pending
  · have unread : effective touches = [] := by simpa using fits.stores
    refine ⟨by simpa [act, same] using fits.absent, ?_, ?_, ?_⟩
    · simpa [act, same] using fits.kind
    · simp [act, effective_append_noted, unread]
    · simp [act, latestSupply, effective_append_noted, unread]
  · obtain ⟨storesSame, carriedNow⟩ := Operation.refresh_carried? supplied pending
    have storesWhen : pending.stores = !(effective touches).isEmpty := fits.stores
    refine ⟨by simpa [act, same] using fits.absent, ?_, ?_, ?_⟩
    · simpa [act, same, Operation.kind_refresh] using fits.kind
    · simp only [act, Option.map_some, Option.any_some, storesSame, storesWhen,
        effective_append_noted]
      cases effective touches <;> simp
    · have carriedBefore : pending.carried? = latestSupply touches := fits.carried
      simp only [act, Option.map_some, Option.bind_some, carriedNow, carriedBefore, storesWhen,
        latestSupply, effective_append_noted]
      cases effective touches with
      | nil => rfl
      | cons first rest => exact (latest_append (first :: rest) (noted supplied)).symm

/-- An operation keeps the fit. It is the last one now; a deletion loses every
instance, and any other operation may bring one. -/
theorem Summarizes.apply {touches : List Touch} {pending : Option Operation}
    (fits : Summarizes touches pending) {operation : Operation} (real : operation ≠ .noop)
    (realBefore : ∀ earlier ∈ touches.filterMap operation?, earlier ≠ .noop) :
    Summarizes (touches ++ [applied operation]) (act pending (applied operation)) := by
  have grown : (touches ++ [applied operation]).filterMap operation? =
      touches.filterMap operation? ++ [operation] := by simp [operation?]
  refine ⟨by simp [act, grown], ?_, ?_, ?_⟩
  · intro first last starts ends
    rw [grown] at starts ends ⊢
    obtain rfl : operation = last := by simpa using ends
    rcases pending with _ | pending
    · have noneBefore := fits.absent.mp rfl
      obtain rfl : operation = first := by simpa [noneBefore] using starts
      simp [act, Operation.after, noneBefore, OperationKind.summary_single]
    · have someBefore : touches.filterMap operation? ≠ [] := by
        intro noneBefore
        exact absurd (fits.absent.mpr noneBefore) (by simp)
      obtain ⟨earlier, endsBefore⟩ : ∃ earlier,
          (touches.filterMap operation?).getLast? = some earlier :=
        ⟨_, List.getLast?_eq_some_getLast someBefore⟩
      rw [List.head?_append_of_ne_nil _ someBefore] at starts
      have kindBefore : pending.kind = _ :=
        Option.some.inj (fits.kind first earlier starts endsBefore)
      have seen : earlier.kind = .delete →
          (touches.filterMap operation?).any (·.kind == .delete) = true := by
        intro isDelete
        exact List.any_eq_true.mpr ⟨earlier, List.mem_of_getLast? endsBefore, by simp [isDelete]⟩
      have realFirst := mt Operation.kind_eq_noop_iff.mp
        (realBefore first (List.mem_of_mem_head? starts))
      simp only [act, Operation.after, Option.map_some, Operation.kind_merge, kindBefore,
        OperationKind.summary_merge realFirst (mt Operation.kind_eq_noop_iff.mp real) seen,
        List.any_append, List.any_cons, List.any_nil, Bool.or_false]
  · by_cases deleted : operation = .delete
    · subst deleted
      have lost : effective (touches ++ [applied .delete]) = [] :=
        effective_append_delete touches rfl
      simp [act, lost, (Operation.after_delete pending).1]
    · have stored := Operation.after_stores (Operation.stores_iff.mpr ⟨deleted, real⟩) pending
      simp [act, stored.1, effective_append_operation touches deleted]
  · by_cases deleted : operation = .delete
    · subst deleted
      have lost : effective (touches ++ [applied .delete]) = [] :=
        effective_append_delete touches rfl
      simp [act, latestSupply, lost, (Operation.after_delete pending).2]
    · have stored := Operation.after_stores (Operation.stores_iff.mpr ⟨deleted, real⟩) pending
      simp only [act, Option.bind_some, stored.2, fits.carried, latestSupply,
        effective_append_operation touches deleted, latest_append, supplied?]

/-- What any touches make of nothing fits them. -/
theorem summarizes_foldl (touches : List Touch)
    (real : ∀ operation ∈ touches.filterMap operation?, operation ≠ .noop) :
    Summarizes touches (touches.foldl act none) := by
  induction touches using List.reverseRecOn with
  | nil => exact .empty
  | append_singleton earlier touch inductionHypothesis =>
    have realEarlier : ∀ operation ∈ earlier.filterMap operation?, operation ≠ .noop := by
      intro operation member
      exact real operation (by simp [List.filterMap_append, List.mem_append.mpr (Or.inl member)])
    have fits := inductionHypothesis realEarlier
    rw [List.foldl_append, List.foldl_cons, List.foldl_nil]
    cases touch with
    | noted supplied => exact fits.note supplied
    | applied operation => exact fits.apply (real operation (by simp [operation?])) realEarlier

end Touch

/-- The operations that calls apply have an effect. -/
theorem Plan.touches_real (plan : Plan) (key : EntityKey) (calls : List PlanCall) :
    ∀ operation ∈ (plan.touches key calls).filterMap Touch.operation?, operation ≠ .noop := by
  induction calls generalizing plan with
  | nil => simp [touches]
  | cons call rest inductionHypothesis =>
    intro operation member
    rw [touches, List.filterMap_append, List.mem_append] at member
    rcases member with now | later
    · cases call with
      | register registration =>
        simp only [touch?] at now
        split at now
        · split at now
          · obtain rfl : operation = registration.operation := by
              simpa [Touch.operation?] using now
            exact registration.operation_ne_noop
          · simp [Touch.operation?] at now
        · simp at now
      | reindex scheduled =>
        simp only [touch?] at now
        split at now
        · obtain rfl : operation = .addOrUpdate none := by simpa [Touch.operation?] using now
          simp
        · simp at now
    · exact inductionHypothesis (plan.call call) operation later

/-- What is pending, in closed form. After any calls on a new plan nothing is
pending for an entity of an indexed type exactly if no operation was applied to
it. Otherwise its kind is the summary of the first and the last operation and of
whether there was a deletion, and the instance carried is the latest supplied
since the last deletion. -/
theorem pending_closed_form (mapping : Mapping) (calls : List PlanCall) (key : EntityKey)
    (indexes : mapping.Indexes key.type) :
    let plan := calls.foldl Plan.call (Plan.empty mapping)
    let touches := (Plan.empty mapping).touches key calls
    let history := touches.filterMap Touch.operation?
    (plan.get? key = none ↔ history = []) ∧
      (∀ first last, history.head? = some first → history.getLast? = some last →
        (plan.get? key).map Operation.kind = some (OperationKind.summary first.kind last.kind
          (history.any (·.kind == .delete)))) ∧
      ∀ pending, plan.get? key = some pending →
        pending.carried? = Touch.latestSupply touches := by
  intro plan touches history
  have fits : Touch.Summarizes touches (plan.get? key) := by
    have reached : plan.get? key = touches.foldl Touch.act none := Plan.get?_calls indexes calls
    rw [reached]
    exact Touch.summarizes_foldl touches ((Plan.empty mapping).touches_real key calls)
  refine ⟨fits.absent, fits.kind, ?_⟩
  intro pending found
  have carried := fits.carried
  rw [found] at carried
  exact carried

namespace Library

/-- A book is scheduled, changes in what its document does not read, goes, and
comes back without an instance; then its stock changes again. -/
def handling : List PlanCall :=
  [.register (.updatePaths (bookKey "1") (some (titled "Emma")) (.ofList ["stock"])),
    .reindex (bookKey "1"),
    .register (.updatePaths (bookKey "1") (some (titled "Emma")) (.ofList ["stock"])),
    .register (.delete (bookKey "1")), .register (.create (bookKey "2") none),
    .register (.update (bookKey "1") none),
    .register (.updatePaths (bookKey "1") (some (titled "Persuasion")) (.ofList ["stock"]))]

/-- The book is to be updated, and its last change brings the instance. -/
theorem handling_closed_form :
    ((handling.foldl Plan.call (Plan.empty (mapping {}))).get? (bookKey "1")).map Operation.kind =
        some .update ∧
      ∀ pending, (handling.foldl Plan.call (Plan.empty (mapping {}))).get? (bookKey "1") =
        some pending → pending.carried? = some (titled "Persuasion") := by
  obtain ⟨_, kind, carried⟩ := pending_closed_form (mapping {}) handling (bookKey "1")
    (indexes_book {})
  exact ⟨kind (.addOrUpdate none) (.update none) rfl rfl, carried⟩

end Library

end Reindex
