import Reindex.Proofs.Plan.Standing

/-!
# The order of a plan

A plan lists the entities in the order in which they were first registered with a
change that concerns their document, or scheduled. Later registrations leave an entity its
place, and so does one after which nothing is to be done; it only is not carried out.
-/

namespace Reindex

/-- Whether a registration applies its operation: the type has documents of its own,
and the change concerns them. -/
def Mapping.applies (mapping : Mapping) (registration : Registration) : Bool :=
  match mapping.registry.get? registration.key.type with
  | some declaration => declaration.isIndexed && declaration.isDirty registration.changed
  | none => false

/-- Whether a call gives its entity an entry, unless it has one. -/
def Mapping.enters (mapping : Mapping) : PlanCall → Bool
  | .register registration => mapping.applies registration
  | .reindex key => (mapping.registry.get? key.type).any MappedType.isIndexed

/-- The entity that a call is about. -/
def PlanCall.key : PlanCall → EntityKey
  | .register registration => registration.key
  | .reindex key => key

/-- Scheduling enters the entities of types with documents of their own. -/
theorem Mapping.enters_reindex_iff {mapping : Mapping} {key : EntityKey} :
    mapping.enters (.reindex key) = true ↔ mapping.Indexes key.type := by
  simp [enters, Indexes, Option.any_eq_true]

namespace Plan

/-- A registration that applies its operation lists its entity behind the others, if it
is not listed. -/
theorem keys_call_of_applies {plan : Plan} {registration : Registration}
    (applies : plan.mapping.applies registration = true) :
    (plan.call (.register registration)).entries.map PlanEntry.key =
      if registration.key ∈ plan.entries.map PlanEntry.key then plan.entries.map PlanEntry.key
      else plan.entries.map PlanEntry.key ++ [registration.key] := by
  unfold Mapping.applies at applies
  split at applies
  · rename_i declaration declared
    obtain ⟨indexed, concerns⟩ := (Bool.and_eq_true _ _).mp applies
    have dirty : plan.isDirty registration.key registration.changed = true := by
      simpa [isDirty, declared] using concerns
    simp only [Plan.call, apply_of_indexes ⟨declaration, declared, indexed⟩, entriesAfter, dirty,
      ↓reduceIte, keys_mergeEntry]
  · cases applies

/-- Any other registration lists nothing. -/
theorem keys_call_of_not_applies {plan : Plan} {registration : Registration}
    (applies : plan.mapping.applies registration = false) :
    (plan.call (.register registration)).entries.map PlanEntry.key =
      plan.entries.map PlanEntry.key := by
  simp only [Plan.call]
  split
  · rename_i next applied
    obtain ⟨standing, classified, rfl⟩ := apply_eq_ok applied
    unfold entriesAfter
    split
    · rename_i dirty
      cases standing with
      | contained => rfl
      | indexed =>
        -- the type has documents and the change concerns them: the operation is applied
        obtain ⟨declaration, declared, indexed⟩ := classify_eq_indexed_iff.1 classified
        simp only [isDirty, declared] at dirty
        simp [Mapping.applies, declared, indexed, dirty] at applies
    · exact keys_mapEntry _ _ _
  · rfl

/-- Scheduling lists an entity likewise. -/
theorem keys_reindex_of_indexes {plan : Plan} {key : EntityKey}
    (indexes : plan.mapping.Indexes key.type) :
    (plan.call (.reindex key)).entries.map PlanEntry.key =
      if key ∈ plan.entries.map PlanEntry.key then plan.entries.map PlanEntry.key
      else plan.entries.map PlanEntry.key ++ [key] := by
  have listed_iff : plan.hasEntry key = true ↔ key ∈ plan.entries.map PlanEntry.key := by
    simp [hasEntry, get?]
  cases listed : plan.hasEntry key with
  | true => rw [call, reindex_of_hasEntry indexes listed, if_pos (listed_iff.1 listed)]
  | false =>
    have absent := mt listed_iff.2 (by simp [listed])
    rw [call, reindex_of_not_hasEntry indexes listed, if_neg absent]
    simp

/-- What a call lists: its entity behind the others, if it enters and is not listed. -/
theorem keys_call (plan : Plan) (call : PlanCall) :
    (plan.call call).entries.map PlanEntry.key =
      if plan.mapping.enters call = true ∧ call.key ∉ plan.entries.map PlanEntry.key then
        plan.entries.map PlanEntry.key ++ [call.key]
      else plan.entries.map PlanEntry.key := by
  cases enters : plan.mapping.enters call with
  | true =>
    rw [← ite_not]
    cases call with
    | register registration =>
      simpa [PlanCall.key] using keys_call_of_applies enters
    | reindex key =>
      simpa [PlanCall.key] using keys_reindex_of_indexes (Mapping.enters_reindex_iff.1 enters)
  | false =>
    rw [if_neg (by simp)]
    cases call with
    | register registration => exact keys_call_of_not_applies enters
    | reindex key =>
      have unindexed : ¬ plan.mapping.Indexes key.type :=
        mt Mapping.enters_reindex_iff.2 (by simp [enters])
      rw [call_of_answer_error (answer_reindex_eq_error_iff.2 ⟨unindexed, rfl⟩)]

/-- A plan lists the entities that entered, each where it came first. -/
theorem keys_calls (mapping : Mapping) (calls : List PlanCall) :
    (calls.foldl Plan.call (.empty mapping)).entries.map PlanEntry.key =
      ((calls.filter mapping.enters).map PlanCall.key).eraseDups := by
  induction calls using List.reverseRecOn with
  | nil => rfl
  | append_singleton earlier call inductionHypothesis =>
    have start : Reachable mapping (.empty mapping) := .empty
    have same := (start.calls earlier).mapping_eq
    rw [List.foldl_append, List.foldl_cons, List.foldl_nil, keys_call, same, inductionHypothesis,
      List.filter_append, List.map_append]
    cases enters : mapping.enters call with
    | false => simp [enters]
    | true =>
      rw [List.filter_cons_of_pos enters, List.filter_nil, List.map_singleton, eraseDups_concat]
      simp only [true_and, ite_not]

/-- The plan after registrations; a refused one leaves it as it was. -/
def ofRegistrations (mapping : Mapping) (history : List Registration) : Plan :=
  history.foldl (fun plan registration => plan.call (.register registration)) (.empty mapping)

/-- Registrations are calls. -/
theorem ofRegistrations_eq (mapping : Mapping) (history : List Registration) :
    ofRegistrations mapping history =
      (history.map PlanCall.register).foldl Plan.call (.empty mapping) :=
  List.foldl_map.symm

/-- One more registration follows the others. -/
theorem ofRegistrations_append (mapping : Mapping) (history : List Registration)
    (registration : Registration) :
    ofRegistrations mapping (history ++ [registration]) =
      (ofRegistrations mapping history).call (.register registration) := by
  simp [ofRegistrations]

/-- What registrations lead to is reachable. -/
theorem reachable_ofRegistrations (mapping : Mapping) (history : List Registration) :
    Reachable mapping (ofRegistrations mapping history) := by
  rw [ofRegistrations_eq]
  exact Reachable.empty.calls _

/-- A plan lists the entities that operations were applied to, each where it came
first. -/
theorem keys_ofRegistrations (mapping : Mapping) (history : List Registration) :
    (ofRegistrations mapping history).entries.map PlanEntry.key =
      ((history.filter mapping.applies).map Registration.key).eraseDups := by
  rw [ofRegistrations_eq, keys_calls, List.filter_map, List.map_map]
  rfl

/-- What is carried out keeps the order of the plan: it is what has an operation with
an effect. -/
theorem keys_resolve {plan : Plan} (distinct : plan.Distinct) :
    plan.resolve.map PlanEntry.key =
      (plan.entries.map PlanEntry.key).filter fun key => (plan.get? key).any Operation.isLive := by
  rw [List.filter_map]
  refine congrArg (List.map PlanEntry.key) (List.filter_congr fun entry member => ?_)
  simp [pendingIn_of_mem distinct member]

/-- The entities for which registrations leave something to do, each where it was first
registered. -/
def liveKeys (mapping : Mapping) (history : List Registration) : List EntityKey :=
  ((history.filter mapping.applies).map Registration.key).eraseDups.filter fun key =>
    ((ofRegistrations mapping history).get? key).any Operation.isLive

/-- These entities are the ones that the plan resolves to. -/
theorem keys_resolve_ofRegistrations (mapping : Mapping) (history : List Registration) :
    (ofRegistrations mapping history).resolve.map PlanEntry.key = liveKeys mapping history := by
  rw [keys_resolve (reachable_ofRegistrations mapping history).distinct, keys_ofRegistrations,
    liveKeys]

end Plan

end Reindex
