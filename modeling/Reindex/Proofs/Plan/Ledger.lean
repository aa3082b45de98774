import Reindex.Proofs.Plan.Order
import Reindex.Proofs.Plan.PlaceTable
import Reindex.Proofs.Plan.Repetition

/-!
# Plans with tables of places

A plan is asked for the entry of an entity at every registration. Whoever keeps a plan in
memory keeps two tables beside it, which lead from an entity to the place of its entry and
to the place of its record, and changes what stands there. A ledger is a plan that is kept
in this way.

The steps of a ledger change it in place, and nothing is taken back when a step is refused:
a step that has changed something must not be refused any more. What carries the proofs is
that both tables are exact. Then the first entry of an entity, which a plan looks for, is
the one at its place, so each step does to the plan in the ledger what the plan would do by
itself, and every step keeps the tables exact.
-/

namespace Reindex

/-- Whether a call is admitted. Entities of indexed and of contained types can be registered,
and only those of indexed types can be scheduled. -/
def Mapping.Admits (mapping : Mapping) : PlanCall → Prop
  | .register registration => mapping.Accepts registration.key.type
  | .reindex key => mapping.Indexes key.type

/-- A plan refuses exactly the calls that are not admitted. -/
theorem Plan.answer_eq_error_iff {plan : Plan} {made : PlanCall} {error : IndexingError} :
    plan.answer made = .error error ↔
      ¬ plan.mapping.Admits made ∧ error = plan.mapping.refusal made.key.type := by
  cases made with
  | register registration => exact answer_register_eq_error_iff
  | reindex key => exact answer_reindex_eq_error_iff

/-- A plan in memory: its lists, and a table of places for each. -/
structure Ledger where
  mapping : Mapping
  entries : Array PlanEntry := #[]
  positions : PlaceTable := ∅
  changes : Array Change := #[]
  changePositions : PlaceTable := ∅

namespace Ledger

/-- A ledger without pending work. -/
def new (mapping : Mapping) : Ledger := { mapping }

/-- The plan that is kept in a ledger. -/
def plan (ledger : Ledger) : Plan := ⟨ledger.mapping, ledger.entries.toList, ledger.changes.toList⟩

/-- The operation at the place of an entity. -/
def get? (ledger : Ledger) (key : EntityKey) : Option Operation := do
  let place ← ledger.positions[key]?
  let entry ← ledger.entries[place]?
  pure entry.operation

/-- List an entity behind the others. -/
def pushEntry (ledger : Ledger) (key : EntityKey) (operation : Operation) : Ledger :=
  { ledger with
    positions := ledger.positions.insert key ledger.entries.size
    entries := ledger.entries.push ⟨key, operation⟩ }

/-- Change the operation at a place. -/
def modifyEntry (ledger : Ledger) (place : Nat) (f : Operation → Operation) : Ledger :=
  { ledger with
    entries := ledger.entries.modify place fun entry =>
      { entry with operation := f entry.operation } }

/-- Merge an operation into the entry at the place of an entity, or list the entity. -/
def mergeEntry (ledger : Ledger) (key : EntityKey) (operation : Operation) : Ledger :=
  match ledger.positions[key]? with
  | some place => ledger.modifyEntry place (·.merge operation)
  | none => ledger.pushEntry key operation

/-- Carry a fresher instance at the place of an entity, if it has one. -/
def refreshEntry (ledger : Ledger) (key : EntityKey) (fresh : Option Instance) : Ledger :=
  match ledger.positions[key]? with
  | some place => ledger.modifyEntry place (·.refresh fresh)
  | none => ledger

/-- Log a change in the record at the place of an entity, or make a record. -/
def logChange (ledger : Ledger) (key : EntityKey) (paths : Option PathSet) : Ledger :=
  match ledger.changePositions[key]? with
  | some place =>
    { ledger with
      changes := ledger.changes.modify place fun change =>
        { change with paths := Plan.mergePaths change.paths paths } }
  | none =>
    { ledger with
      changePositions := ledger.changePositions.insert key ledger.changes.size
      changes := ledger.changes.push ⟨key, paths⟩ }

/-- A step on a ledger. A refused one ends there, and the ledger stays as the step has left
it so far. -/
abbrev Step (Result : Type) := ExceptT IndexingError (StateM Ledger) Result

namespace Step

/-- The standing of a type. -/
def classify (type : TypeName) : Step Standing := do
  let ledger ← get
  ofExcept (ledger.plan.classify type)

/-- Register an operation. -/
def register (key : EntityKey) (paths : Option PathSet) (operation : Operation) : Step Unit := do
  let standing ← classify key.type
  modify fun ledger => ledger.logChange key paths
  match standing with
  | .indexed => modify fun ledger => ledger.mergeEntry key operation
  | .contained => pure ()

/-- Register a change of the given paths. -/
def updatePaths (key : EntityKey) (supplied : Option Instance) (paths : Option PathSet) :
    Step Unit := do
  let ledger ← get
  if ledger.plan.isDirty key paths then register key paths (.update supplied)
  else do
    let _ ← classify key.type
    modify fun ledger => ledger.logChange key paths
    modify fun ledger => ledger.refreshEntry key supplied

/-- Schedule the document of an entity to be written anew, unless the entity has a place. -/
def reindex (key : EntityKey) : Step Bool := do
  match ← classify key.type with
  | .contained => throw (.notIndexable key.type)
  | .indexed =>
    let ledger ← get
    if key ∈ ledger.positions then pure false
    else do
      modify fun ledger => ledger.pushEntry key (.addOrUpdate none)
      pure true

/-- Make a registration. -/
def apply : Registration → Step Unit
  | .create key supplied => register key none (.add supplied)
  | .update key supplied => updatePaths key supplied none
  | .updatePaths key supplied paths => updatePaths key supplied (some paths)
  | .addOrUpdate key supplied => register key none (.addOrUpdate supplied)
  | .delete key => register key none .delete
  | .event event =>
    match event.kind with
    | .create => register event.key none (.add event.entity)
    | .update => updatePaths event.key event.entity event.paths
    | .delete => register event.key none .delete

/-- Make a call. -/
def perform : PlanCall → Step Bool
  | .register registration => do
    apply registration
    pure true
  | .reindex key => reindex key

end Step

/-- What a step answers, and the ledger that it leaves. -/
def attempt {Result : Type} (ledger : Ledger) (step : Step Result) :
    Except IndexingError Result × Ledger :=
  (ExceptT.run step).run ledger

/-- The ledger after a call. -/
def call (ledger : Ledger) (made : PlanCall) : Ledger := (ledger.attempt (.perform made)).2

/-- A ledger keeps a plan: the lists are those of the plan, and the tables are exact. -/
structure Keeps (ledger : Ledger) (plan : Plan) : Prop where
  plan_eq : ledger.plan = plan
  entries : ledger.positions.Locates (plan.entries.map PlanEntry.key)
  changes : ledger.changePositions.Locates (plan.changes.map Change.key)

/-- What a step is to do for a plan: if the plan refuses, the step is refused and leaves the
whole ledger as it was, and otherwise it gives the same result and keeps the next plan. -/
def Implements {Result : Type} (ledger : Ledger) (step : Step Result) :
    Except IndexingError (Result × Plan) → Prop
  | .error error => ledger.attempt step = (.error error, ledger)
  | .ok (result, next) => ∃ after, ledger.attempt step = (.ok result, after) ∧ after.Keeps next

variable {ledger : Ledger} {plan : Plan} {key : EntityKey} {place : Nat}

/-- A new ledger keeps an empty plan. -/
theorem keeps_new (mapping : Mapping) : (new mapping).Keeps (.empty mapping) where
  plan_eq := rfl
  entries := PlaceTable.locates_nil
  changes := PlaceTable.locates_nil

namespace Keeps

/-- What is found at the place of an entity is what the plan finds for it. -/
theorem get?_eq (keeps : ledger.Keeps plan) (key : EntityKey) :
    ledger.get? key = plan.get? key := by
  obtain ⟨rfl, entries, _⟩ := keeps
  rw [Plan.get?_eq, Ledger.get?]
  cases located : ledger.positions[key]? with
  | none => exact (Plan.pendingIn_eq_none_iff.2 (entries.eq_none_iff.1 located)).symm
  | some place =>
    have listed := (entries key place).1 located
    rw [List.getElem?_map, Option.map_eq_some_iff] at listed
    obtain ⟨entry, found, rfl⟩ := listed
    have stands : ledger.entries[place]? = some entry := by simpa [Ledger.plan] using found
    rw [Plan.pendingIn_of_mem entries.nodup (List.mem_of_getElem? found)]
    simp [stands]

/-- An entity without a place is listed behind the others. -/
theorem pushEntry (keeps : ledger.Keeps plan) (fresh : ledger.positions[key]? = none)
    (operation : Operation) :
    (ledger.pushEntry key operation).Keeps
      { plan with entries := plan.entries ++ [⟨key, operation⟩] } := by
  obtain ⟨rfl, entries, changes⟩ := keeps
  refine ⟨by simp [Ledger.plan, Ledger.pushEntry], ?_, changes⟩
  have listed := entries.concat fresh
  simpa [Ledger.plan, Ledger.pushEntry] using listed

/-- Where an entity has a place, the entry there is the one that an alteration changes. -/
theorem modifyEntry (keeps : ledger.Keeps plan) (located : ledger.positions[key]? = some place)
    (f : Operation → Operation) (fresh : List PlanEntry) :
    (ledger.modifyEntry place f).Keeps
      { plan with
        entries := Plan.alter PlanEntry.key key
          (fun entry => { entry with operation := f entry.operation }) fresh plan.entries } := by
  obtain ⟨rfl, entries, changes⟩ := keeps
  have listed := (entries key place).1 located
  refine ⟨?_, ?_, changes⟩
  · rw [Plan.alter_of_listed entries.nodup listed]
    simp [Ledger.plan, Ledger.modifyEntry]
  · rwa [Plan.keys_alter (by simp), if_pos (List.mem_of_getElem? listed)]

/-- Merging an operation follows the plan, -/
theorem mergeEntry (keeps : ledger.Keeps plan) (key : EntityKey) (operation : Operation) :
    (ledger.mergeEntry key operation).Keeps
      { plan with entries := Plan.mergeEntry key operation plan.entries } := by
  unfold Ledger.mergeEntry
  cases located : ledger.positions[key]? with
  | none =>
    rw [Plan.mergeEntry_eq_alter, Plan.alter_of_notMem (keeps.entries.eq_none_iff.1 located)]
    exact keeps.pushEntry located operation
  | some place =>
    rw [Plan.mergeEntry_eq_alter]
    exact keeps.modifyEntry located (·.merge operation) _

/-- and so does carrying a fresher instance -/
theorem refreshEntry (keeps : ledger.Keeps plan) (key : EntityKey) (fresh : Option Instance) :
    (ledger.refreshEntry key fresh).Keeps
      { plan with entries := Plan.mapEntry key (Operation.refresh fresh) plan.entries } := by
  unfold Ledger.refreshEntry
  cases located : ledger.positions[key]? with
  | none =>
    rw [Plan.mapEntry_of_notMem (keeps.entries.eq_none_iff.1 located)]
    exact keeps
  | some place =>
    rw [Plan.mapEntry_eq_alter]
    exact keeps.modifyEntry located (·.refresh fresh) _

/-- and logging a change. -/
theorem logChange (keeps : ledger.Keeps plan) (key : EntityKey) (paths : Option PathSet) :
    (ledger.logChange key paths).Keeps
      { plan with changes := Plan.logChange key paths plan.changes } := by
  obtain ⟨rfl, entries, changes⟩ := keeps
  unfold Ledger.logChange
  cases located : ledger.changePositions[key]? with
  | none =>
    rw [Plan.logChange_eq_alter, Plan.alter_of_notMem (changes.eq_none_iff.1 located)]
    have listed := changes.concat located
    exact ⟨by simp [Ledger.plan], entries, by simpa [Ledger.plan] using listed⟩
  | some place =>
    have listed := (changes key place).1 located
    refine ⟨?_, entries, ?_⟩
    · rw [Plan.logChange_eq_alter, Plan.alter_of_listed changes.nodup listed]
      simp [Ledger.plan]
    · rwa [Plan.keys_logChange, if_pos (List.mem_of_getElem? listed)]

end Keeps

section Running

variable {Result Next : Type}

/-- A step that only answers changes nothing. -/
@[simp] theorem attempt_pure (ledger : Ledger) (result : Result) :
    ledger.attempt (pure result) = (.ok result, ledger) := rfl

/-- Nor does one that refuses. -/
@[simp] theorem attempt_throw (ledger : Ledger) (error : IndexingError) :
    ledger.attempt (throw error : Step Result) = (.error error, ledger) := rfl

/-- A step may look at the ledger. -/
@[simp] theorem attempt_get (ledger : Ledger) : ledger.attempt get = (.ok ledger, ledger) := rfl

/-- A change is made as it is given. -/
@[simp] theorem attempt_modify (ledger : Ledger) (change : Ledger → Ledger) :
    ledger.attempt (modify change) = (.ok (), change ledger) := rfl

/-- What follows a step sees the ledger that the step leaves, unless it is refused. -/
theorem attempt_bind (ledger : Ledger) (step : Step Result) (next : Result → Step Next) :
    ledger.attempt (step >>= next) =
      match ledger.attempt step with
      | (.ok result, after) => after.attempt (next result)
      | (.error error, after) => (.error error, after) := by
  simp only [attempt, ExceptT.run_bind, StateT.run_bind]
  rcases (ExceptT.run step).run ledger with ⟨_ | _, _⟩ <;> rfl

/-- To classify a type changes nothing. -/
@[simp] theorem attempt_classify (ledger : Ledger) (type : TypeName) :
    ledger.attempt (.classify type) = (ledger.plan.classify type, ledger) := by
  simp only [Step.classify, attempt_bind, attempt_get]
  cases ledger.plan.classify type <;> rfl

end Running

/-- An operation is registered as with the plan. The type is classified before anything is
changed, so what is refused has changed nothing. -/
theorem Keeps.register (keeps : ledger.Keeps plan) (key : EntityKey) (paths : Option PathSet)
    (operation : Operation) :
    ledger.Implements (.register key paths operation)
      ((plan.register key paths operation).map ((), ·)) := by
  obtain rfl := keeps.plan_eq
  rw [Plan.register_eq]
  cases classified : ledger.plan.classify key.type with
  | error error =>
    show ledger.attempt _ = _
    simp [Step.register, attempt_bind, classified]
  | ok standing =>
    have logged := keeps.logChange key paths
    cases standing with
    | indexed =>
      refine ⟨_, ?_, logged.mergeEntry key operation⟩
      simp [Step.register, attempt_bind, classified]
    | contained =>
      refine ⟨_, ?_, logged⟩
      simp [Step.register, attempt_bind, classified]

/-- A change of given paths is registered as with the plan. -/
theorem Keeps.updatePaths (keeps : ledger.Keeps plan) (key : EntityKey)
    (supplied : Option Instance) (paths : Option PathSet) :
    ledger.Implements (.updatePaths key supplied paths)
      ((plan.updatePaths key supplied paths).map ((), ·)) := by
  obtain rfl := keeps.plan_eq
  by_cases dirty : ledger.plan.isDirty key paths = true
  · have same : ledger.attempt (.updatePaths key supplied paths) =
        ledger.attempt (.register key paths (.update supplied)) := by
      simp [Step.updatePaths, attempt_bind, dirty]
    rw [Plan.updatePaths, if_pos dirty]
    have registered := keeps.register key paths (.update supplied)
    unfold Implements at registered ⊢
    rwa [same]
  · rw [Plan.updatePaths, if_neg dirty]
    cases classified : ledger.plan.classify key.type with
    | error error =>
      show ledger.attempt _ = _
      simp [Step.updatePaths, attempt_bind, dirty, classified]
    | ok standing =>
      refine ⟨_, ?_, (keeps.logChange key paths).refreshEntry key supplied⟩
      simp [Step.updatePaths, attempt_bind, dirty, classified]

/-- Every registration is made as with the plan. -/
theorem Keeps.apply (keeps : ledger.Keeps plan) (registration : Registration) :
    ledger.Implements (.apply registration) ((plan.apply registration).map ((), ·)) := by
  cases registration with
  | create key supplied => exact keeps.register key none (.add supplied)
  | update key supplied => exact keeps.updatePaths key supplied none
  | updatePaths key supplied paths => exact keeps.updatePaths key supplied (some paths)
  | addOrUpdate key supplied => exact keeps.register key none (.addOrUpdate supplied)
  | delete key => exact keeps.register key none .delete
  | event reported =>
    obtain ⟨key, kind, paths, entity⟩ := reported
    cases kind with
    | create => exact keeps.register key none (.add entity)
    | update => exact keeps.updatePaths key entity paths
    | delete => exact keeps.register key none .delete

/-- An entity has a place exactly if it has an entry. -/
theorem Keeps.mem_positions_iff (keeps : ledger.Keeps plan) (key : EntityKey) :
    key ∈ ledger.positions ↔ plan.hasEntry key = true := by
  rw [Std.HashMap.mem_iff_isSome_getElem?, Plan.hasEntry, Plan.get?_eq,
    ← Option.ne_none_iff_isSome, ← Option.ne_none_iff_isSome]
  exact not_congr (keeps.entries.eq_none_iff.trans Plan.pendingIn_eq_none_iff.symm)

/-- An entity is scheduled as with the plan. -/
theorem Keeps.reindex (keeps : ledger.Keeps plan) (key : EntityKey) :
    ledger.Implements (.reindex key) (plan.reindex key) := by
  have placed := keeps.mem_positions_iff key
  obtain rfl := keeps.plan_eq
  cases classified : ledger.plan.classify key.type with
  | error error =>
    have refused : ledger.plan.reindex key = .error error := by rw [Plan.reindex, classified]; rfl
    rw [refused]
    show ledger.attempt _ = _
    simp only [Step.reindex, attempt_bind, attempt_classify, classified]
  | ok standing =>
    cases standing with
    | contained =>
      have refused : ledger.plan.reindex key = .error (.notIndexable key.type) := by
        rw [Plan.reindex, classified]
        rfl
      rw [refused]
      show ledger.attempt _ = _
      simp only [Step.reindex, attempt_bind, attempt_classify, classified, attempt_throw]
    | indexed =>
      have indexes := Plan.classify_eq_indexed_iff.1 classified
      by_cases listed : ledger.plan.hasEntry key = true
      · rw [Plan.reindex_of_hasEntry indexes listed]
        refine ⟨_, ?_, keeps⟩
        simp only [Step.reindex, attempt_bind, attempt_classify, classified, attempt_get,
          if_pos (placed.2 listed), attempt_pure]
      · have absent := mt placed.1 listed
        rw [Plan.reindex_of_not_hasEntry indexes (Bool.not_eq_true _ ▸ listed)]
        refine ⟨_, ?_, keeps.pushEntry (Std.HashMap.getElem?_eq_none absent) _⟩
        simp only [Step.reindex, attempt_bind, attempt_classify, classified, attempt_get,
          if_neg absent, attempt_modify, attempt_pure]

/-- Every call is made as with the plan. -/
theorem Keeps.perform (keeps : ledger.Keeps plan) (made : PlanCall) :
    ledger.Implements (.perform made) ((plan.answer made).map (·, plan.call made)) := by
  cases made with
  | register registration =>
    have applied := keeps.apply registration
    rw [Plan.answer, Plan.call]
    cases outcome : plan.apply registration with
    | error error =>
      rw [outcome] at applied
      have refused : ledger.attempt (.apply registration) = (.error error, ledger) := applied
      show ledger.attempt _ = _
      simp only [Step.perform, attempt_bind, refused]
    | ok next =>
      rw [outcome] at applied
      obtain ⟨after, taken, kept⟩ := applied
      refine ⟨after, ?_, kept⟩
      simp only [Step.perform, attempt_bind, taken, attempt_pure]
  | reindex key =>
    have scheduled := keeps.reindex key
    rw [Plan.answer, Plan.call]
    cases outcome : plan.reindex key with
    | error error => rwa [outcome] at scheduled
    | ok answered => rwa [outcome] at scheduled

/-- What a call answers is what the plan answers. -/
theorem Keeps.answer_eq (keeps : ledger.Keeps plan) (made : PlanCall) :
    (ledger.attempt (.perform made)).1 = plan.answer made := by
  have performed := keeps.perform made
  cases answered : plan.answer made with
  | error error =>
    rw [answered] at performed
    exact congrArg Prod.fst performed
  | ok result =>
    rw [answered] at performed
    obtain ⟨after, taken, _⟩ := performed
    exact congrArg Prod.fst taken

/-- A refused call leaves the whole ledger as it was, -/
theorem Keeps.call_of_refused (keeps : ledger.Keeps plan) {made : PlanCall} {error : IndexingError}
    (refused : plan.answer made = .error error) : ledger.call made = ledger := by
  have performed := keeps.perform made
  rw [refused] at performed
  exact congrArg Prod.snd performed

/-- and any call leaves a ledger that keeps the plan after it. -/
theorem Keeps.call (keeps : ledger.Keeps plan) (made : PlanCall) :
    (ledger.call made).Keeps (plan.call made) := by
  cases answered : plan.answer made with
  | error error =>
    rw [keeps.call_of_refused answered, Plan.call_of_answer_error answered]
    exact keeps
  | ok result =>
    have performed := keeps.perform made
    rw [answered] at performed
    obtain ⟨after, taken, kept⟩ := performed
    rw [Ledger.call, taken]
    exact kept

/-- The ledger after calls. -/
def after (mapping : Mapping) (calls : List PlanCall) : Ledger := calls.foldl call (.new mapping)

/-- It keeps the plan after them. -/
theorem keeps_after (mapping : Mapping) (calls : List PlanCall) :
    (after mapping calls).Keeps (calls.foldl Plan.call (.empty mapping)) := by
  suffices follows : ∀ {ledger : Ledger} {plan : Plan}, ledger.Keeps plan →
      (calls.foldl call ledger).Keeps (calls.foldl Plan.call plan) from follows (keeps_new mapping)
  induction calls with
  | nil => exact id
  | cons made rest inductionHypothesis => exact fun keeps => inductionHypothesis (keeps.call made)

/-- The entities with an entry, in order. -/
def entryKeys (ledger : Ledger) : List EntityKey := ledger.entries.toList.map PlanEntry.key

/-- The entities with a record, in order. -/
def changeKeys (ledger : Ledger) : List EntityKey := ledger.changes.toList.map Change.key

/-- What calls on a new ledger have left. -/
structure Exact (mapping : Mapping) (calls : List PlanCall) (ledger : Ledger) : Prop where
  /-- The lists are those of the plan after the same calls. -/
  plan_eq : ledger.plan = calls.foldl Plan.call (.empty mapping)
  /-- A table leads from an entity to a place exactly if the entity is listed there, -/
  positions : ledger.positions.Locates ledger.entryKeys
  changePositions : ledger.changePositions.Locates ledger.changeKeys
  /-- so that what is looked up is what a search finds, -/
  found : ∀ key, ledger.get? key = ledger.plan.get? key
  /-- and nothing is listed twice. -/
  nodup_entries : ledger.entryKeys.Nodup
  nodup_changes : ledger.changeKeys.Nodup
  /-- Entries are of types with documents of their own, and records of these or of types that
  documents embed. -/
  indexes : ∀ key ∈ ledger.entryKeys, mapping.Indexes key.type
  accepts : ∀ key ∈ ledger.changeKeys, mapping.Accepts key.type
  /-- The entities that entered are listed where they came first. -/
  order : ledger.entryKeys = ((calls.filter mapping.enters).map PlanCall.key).eraseDups

/-- How a ledger takes a call. -/
structure Takes (ledger : Ledger) (made : PlanCall) : Prop where
  /-- The call is answered as the plan answers it. -/
  answered : (ledger.attempt (.perform made)).1 = ledger.plan.answer made
  /-- It is refused exactly if the mapping does not admit it, for the reason that the mapping
  gives, -/
  refused_iff : ∀ error, (ledger.attempt (.perform made)).1 = .error error ↔
    ¬ ledger.mapping.Admits made ∧ error = ledger.mapping.refusal made.key.type
  /-- and then it leaves everything as it was, lists and tables. -/
  unchanged : ∀ error, (ledger.attempt (.perform made)).1 = .error error →
    (ledger.attempt (.perform made)).2 = ledger
  /-- No call moves or removes an entry; at most it lists its own entity behind the others. -/
  grown : (ledger.call made).entryKeys = ledger.entryKeys ∨
    (ledger.call made).entryKeys = ledger.entryKeys ++ [made.key]

/-- Calls are taken as the plan takes them. -/
theorem Keeps.takes (keeps : ledger.Keeps plan) (made : PlanCall) : ledger.Takes made := by
  have answered := keeps.answer_eq made
  have next := (keeps.call made).plan_eq
  have listing (other : Ledger) : other.entryKeys = other.plan.entries.map PlanEntry.key := rfl
  obtain rfl := keeps.plan_eq
  refine ⟨answered, fun error => ?_, fun error refused => ?_, ?_⟩
  · rw [answered]
    exact Plan.answer_eq_error_iff
  · rw [answered] at refused
    exact keeps.call_of_refused refused
  · rw [listing, listing, next, Plan.keys_call]
    split
    · exact .inr rfl
    · exact .inl rfl

end Ledger

/-- A plan that is kept with tables stays exact, and what is refused leaves no trace. After
any calls on a new ledger the tables lead to the entries and records of the plan that these
calls lead to, nothing is listed twice and every entity is of a type that may be listed, in
the order in which the entities entered. A further call is refused exactly if its type is
not mapped, or mapped but neither indexed nor, for a registration, contained; it then leaves
the whole ledger as it was, and otherwise entries are only listed behind the others. -/
theorem ledger_exact (mapping : Mapping) (calls : List PlanCall) :
    (Ledger.after mapping calls).Exact mapping calls ∧
      ∀ made, (Ledger.after mapping calls).Takes made := by
  have keeps := Ledger.keeps_after mapping calls
  have reached : Plan.Reachable mapping (calls.foldl Plan.call (.empty mapping)) :=
    Plan.Reachable.empty.calls calls
  have order := Plan.keys_calls mapping calls
  refine ⟨?_, keeps.takes⟩
  have kept := keeps.plan_eq
  rw [← kept] at keeps reached order
  exact
    { plan_eq := kept
      positions := keeps.entries
      changePositions := keeps.changes
      found := keeps.get?_eq
      nodup_entries := keeps.entries.nodup
      nodup_changes := keeps.changes.nodup
      indexes := reached.indexes
      accepts := reached.accepts
      order }

namespace Library

/-- An author, who has no documents. -/
def austen : EntityKey := ⟨"Author", .text "Austen"⟩

/-- A book is scheduled and another one arrives, the author is renamed, a pamphlet is refused
and the first book is retitled. -/
def stocktaking : List PlanCall :=
  [.reindex (bookKey "1"), .register (.create (bookKey "2") none),
    .register (.updatePaths austen none (.ofList ["name"])),
    .register (.create ⟨"Pamphlet", .text "1"⟩ none), .register (.update (bookKey "1") none)]

/-- The tables lead to the second entry and to the second record. The author is not scheduled,
and nothing changes by the attempt. -/
theorem stocktaking_exact :
    (Ledger.after (mapping {}) stocktaking).positions[bookKey "2"]? = some 1 ∧
      (Ledger.after (mapping {}) stocktaking).changePositions[austen]? = some 1 ∧
      (Ledger.after (mapping {}) stocktaking).call (.reindex austen) =
        Ledger.after (mapping {}) stocktaking := by
  obtain ⟨exact, takes⟩ := ledger_exact (mapping {}) stocktaking
  have entered : (Ledger.after (mapping {}) stocktaking).entryKeys = [bookKey "1", bookKey "2"] :=
    congrArg (fun plan => plan.entries.map PlanEntry.key) exact.plan_eq
  have logged : (Ledger.after (mapping {}) stocktaking).changeKeys =
      [bookKey "2", austen, bookKey "1"] :=
    congrArg (fun plan => plan.changes.map Change.key) exact.plan_eq
  have known : (Ledger.after (mapping {}) stocktaking).mapping = mapping {} :=
    congrArg Plan.mapping exact.plan_eq
  have undocumented : ¬ (mapping {}).Indexes "Author" := by
    rintro ⟨_, declared, indexed⟩
    cases declared
    cases indexed
  have refused := ((takes (.reindex austen)).refused_iff (.notIndexable "Author")).2
    (by rw [known]; exact ⟨undocumented, rfl⟩)
  refine ⟨?_, ?_, (takes _).unchanged _ refused⟩
  · exact (exact.positions _ _).2 (by rw [entered]; rfl)
  · exact (exact.changePositions _ _).2 (by rw [logged]; rfl)

end Library

end Reindex
