import Reindex.Proofs.Plan.ChangeLog

/-!
# Which types a plan takes

The standing of a type depends on the mapping alone. A type with documents of its own is
indexed, any other mapped type that a document embeds is contained, and every other type
is refused. Only indexed types can be reindexed. A refused call leaves the plan as it was,
so a plan only ever holds operations for entities of indexed types, and records for
entities of indexed or contained ones.
-/

namespace Reindex

namespace Mapping

/-- The type is mapped and appears inside the documents of others. -/
def Contains (mapping : Mapping) (type : TypeName) : Prop :=
  (mapping.registry.get? type).isSome = true ∧ mapping.containment.isContained type = true

/-- Entities of the type can be registered. -/
def Accepts (mapping : Mapping) (type : TypeName) : Prop :=
  mapping.Indexes type ∨ mapping.Contains type

/-- Why a type is refused that cannot be registered or reindexed for. -/
def refusal (mapping : Mapping) (type : TypeName) : IndexingError :=
  match mapping.registry.get? type with
  | none => .unindexedType type
  | some _ => .notIndexable type

variable {mapping : Mapping} {type : TypeName}

/-- A type without a declaration has no documents. -/
theorem not_indexes_of_undeclared (undeclared : mapping.registry.get? type = none) :
    ¬ mapping.Indexes type := by
  rintro ⟨declaration, declared, _⟩
  rw [undeclared] at declared
  cases declared

/-- Of a mapped type the declaration says whether it has. -/
theorem indexes_iff {declaration : MappedType}
    (declared : mapping.registry.get? type = some declaration) :
    mapping.Indexes type ↔ declaration.isIndexed = true := by
  constructor
  · rintro ⟨found, located, indexed⟩
    cases declared.symm.trans located
    exact indexed
  · intro indexed
    exact ⟨declaration, declared, indexed⟩

end Mapping

namespace Plan

variable {mapping : Mapping} {plan next : Plan} {type : TypeName} {error : IndexingError}

/-- A type is taken as indexed exactly if it has documents of its own, -/
theorem classify_eq_indexed_iff :
    plan.classify type = .ok .indexed ↔ plan.mapping.Indexes type := by
  cases declared : plan.mapping.registry.get? type with
  | none =>
    refine iff_of_false ?_ (Mapping.not_indexes_of_undeclared declared)
    simp [classify, declared]
  | some declaration =>
    rw [Mapping.indexes_iff declared]
    simp only [classify, declared]
    split
    · simp [*]
    · split <;> simp [*]

/-- as contained if it has none but documents embed it, -/
theorem classify_eq_contained_iff :
    plan.classify type = .ok .contained ↔
      ¬ plan.mapping.Indexes type ∧ plan.mapping.Contains type := by
  cases declared : plan.mapping.registry.get? type with
  | none => simp [classify, declared, Mapping.Contains]
  | some declaration =>
    rw [Mapping.indexes_iff declared]
    simp only [classify, declared, Mapping.Contains]
    split
    · simp [*]
    · split <;> simp [*]

/-- What has a standing is accepted, -/
theorem accepts_of_classify {standing : Standing} (classified : plan.classify type = .ok standing) :
    plan.mapping.Accepts type := by
  cases standing with
  | indexed => exact .inl (classify_eq_indexed_iff.1 classified)
  | contained => exact .inr (classify_eq_contained_iff.1 classified).2

/-- what is accepted has one, -/
theorem exists_classify_of_accepts (accepted : plan.mapping.Accepts type) :
    ∃ standing, plan.classify type = .ok standing := by
  by_cases indexes : plan.mapping.Indexes type
  · exact ⟨.indexed, classify_of_indexes indexes⟩
  · exact ⟨.contained, classify_eq_contained_iff.2 ⟨indexes, accepted.resolve_left indexes⟩⟩

/-- and everything else is refused for the same reasons. -/
theorem classify_of_not_accepts (rejected : ¬ plan.mapping.Accepts type) :
    plan.classify type = .error (plan.mapping.refusal type) := by
  cases declared : plan.mapping.registry.get? type with
  | none => simp [classify, declared, Mapping.refusal]
  | some declaration =>
    obtain ⟨unindexed, uncontained⟩ := not_or.1 rejected
    rw [Mapping.indexes_iff declared] at unindexed
    have unembedded : ¬ plan.mapping.containment.isContained type = true :=
      fun embedded => uncontained ⟨by rw [declared]; rfl, embedded⟩
    simp [classify, declared, unindexed, unembedded, Mapping.refusal]

/-- So a type is refused exactly if it is not accepted. -/
theorem classify_eq_error_iff :
    plan.classify type = .error error ↔
      ¬ plan.mapping.Accepts type ∧ error = plan.mapping.refusal type := by
  constructor
  · intro refused
    have rejected : ¬ plan.mapping.Accepts type := by
      intro accepted
      obtain ⟨standing, classified⟩ := exists_classify_of_accepts accepted
      rw [refused] at classified
      cases classified
    exact ⟨rejected, Except.error.inj (refused.symm.trans (classify_of_not_accepts rejected))⟩
  · rintro ⟨rejected, rfl⟩
    exact classify_of_not_accepts rejected

/-- An entity without documents of its own is not reindexed, whether it is registered or
not. -/
theorem reindex_of_unindexed {key : EntityKey}
    (unindexed : ¬ plan.mapping.Indexes key.type) :
    plan.reindex key = .error (plan.mapping.refusal key.type) := by
  unfold reindex
  cases classified : plan.classify key.type with
  | error error => rw [(classify_eq_error_iff.1 classified).2]; rfl
  | ok standing =>
    cases standing with
    | indexed => exact absurd (classify_eq_indexed_iff.1 classified) unindexed
    | contained =>
      obtain ⟨found, declared⟩ :=
        Option.isSome_iff_exists.1 (classify_eq_contained_iff.1 classified).2.1
      rw [Mapping.refusal, declared]
      rfl

/-- What a call answers. Reindexing tells whether the entity was scheduled; a registration
that is not refused is always taken. -/
def answer (plan : Plan) : PlanCall → Except IndexingError Bool
  | .register registration => (plan.apply registration).map fun _ => true
  | .reindex key => (plan.reindex key).map Prod.fst

/-- A registration is answered by its type alone, -/
theorem answer_register (plan : Plan) (registration : Registration) :
    plan.answer (.register registration) =
      (plan.classify registration.key.type).map fun _ => true := by
  rw [answer, apply_eq]
  cases plan.classify registration.key.type <;> rfl

/-- so it is refused exactly if its type is not accepted. -/
theorem answer_register_eq_error_iff {registration : Registration} :
    plan.answer (.register registration) = .error error ↔
      ¬ plan.mapping.Accepts registration.key.type ∧
        error = plan.mapping.refusal registration.key.type := by
  rw [← classify_eq_error_iff, answer_register]
  cases plan.classify registration.key.type <;> simp [Except.map]

/-- Reindexing is refused exactly if the type has no documents of its own. -/
theorem answer_reindex_eq_error_iff {key : EntityKey} :
    plan.answer (.reindex key) = .error error ↔
      ¬ plan.mapping.Indexes key.type ∧ error = plan.mapping.refusal key.type := by
  rw [answer]
  by_cases indexes : plan.mapping.Indexes key.type
  · obtain ⟨_, _, accepted⟩ := reindex_of_indexes indexes
    simp [accepted, indexes, Except.map]
  · simp [reindex_of_unindexed indexes, indexes, Except.map, eq_comm]

/-- A refused call leaves the plan as it was. -/
theorem call_of_answer_error {call : PlanCall} (refused : plan.answer call = .error error) :
    plan.call call = plan := by
  cases call with
  | register registration =>
    cases applied : plan.apply registration with
    | ok next => simp [answer, applied, Except.map] at refused
    | error _ => simp [Plan.call, applied]
  | reindex key =>
    cases reindexed : plan.reindex key with
    | ok result => simp [answer, reindexed, Except.map] at refused
    | error _ => simp [Plan.call, reindexed]

/-- What a registration leaves whose type has a standing. -/
theorem call_register {standing : Standing} {registration : Registration}
    (classified : plan.classify registration.key.type = .ok standing) :
    plan.call (.register registration) =
      { plan with
        changes := logChange registration.key registration.changed plan.changes
        entries := plan.entriesAfter standing registration } := by
  simp [call, apply_eq, classified, Except.map]

/-- Types stand as they did before a call. -/
theorem classify_call (plan : Plan) (call : PlanCall) (type : TypeName) :
    (plan.call call).classify type = plan.classify type := by
  simp only [classify, call_mapping]

/-- Whatever is registered or scheduled, a plan goes by its mapping. -/
theorem Reachable.mapping_eq (reached : Reachable mapping plan) : plan.mapping = mapping := by
  induction reached with
  | empty => rfl
  | registered _ applied inductionHypothesis =>
    obtain ⟨_, _, rfl⟩ := apply_eq_ok applied
    exact inductionHypothesis
  | reindexed _ reindexed inductionHypothesis =>
    obtain ⟨_, ⟨_, rfl⟩ | ⟨_, rfl⟩⟩ := reindex_eq_ok reindexed
    · exact inductionHypothesis
    · exact inductionHypothesis

/-- A call leads from a reachable plan to a reachable one, -/
theorem Reachable.call (reached : Reachable mapping plan) (call : PlanCall) :
    Reachable mapping (plan.call call) := by
  cases call with
  | register registration =>
    rw [Plan.call]
    split
    · rename_i applied
      exact reached.registered applied
    · exact reached
  | reindex key =>
    rw [Plan.call]
    split
    · rename_i reindexed
      exact reached.reindexed reindexed
    · exact reached

/-- and so do several. -/
theorem Reachable.calls (reached : Reachable mapping plan) (calls : List PlanCall) :
    Reachable mapping (calls.foldl Plan.call plan) := by
  induction calls generalizing plan with
  | nil => exact reached
  | cons call rest inductionHypothesis => exact inductionHypothesis (reached.call call)

/-- A registration gives an operation to no other entity than its own, and to that one only
if its type is indexed. -/
theorem mem_keys_entriesAfter {standing : Standing} {registration : Registration}
    {key : EntityKey}
    (listed : key ∈ (plan.entriesAfter standing registration).map PlanEntry.key) :
    key ∈ plan.entries.map PlanEntry.key ∨ (standing = .indexed ∧ key = registration.key) := by
  unfold entriesAfter at listed
  split at listed
  · cases standing with
    | indexed =>
      simp only [keys_mergeEntry] at listed
      split at listed
      · exact .inl listed
      · rcases List.mem_append.1 listed with before | new
        · exact .inl before
        · exact .inr ⟨rfl, List.mem_singleton.1 new⟩
    | contained => exact .inl listed
  · rw [keys_mapEntry] at listed
    exact .inl listed

/-- Every entity with an operation is of an indexed type. -/
theorem Reachable.indexes (reached : Reachable mapping plan) :
    ∀ key ∈ plan.entries.map PlanEntry.key, mapping.Indexes key.type := by
  induction reached with
  | empty => simp [Plan.empty]
  | registered earlier applied inductionHypothesis =>
    obtain ⟨standing, classified, rfl⟩ := apply_eq_ok applied
    intro key listed
    rcases mem_keys_entriesAfter listed with before | ⟨rfl, rfl⟩
    · exact inductionHypothesis key before
    · exact earlier.mapping_eq ▸ classify_eq_indexed_iff.1 classified
  | reindexed earlier reindexed inductionHypothesis =>
    obtain ⟨classified, ⟨_, rfl⟩ | ⟨_, rfl⟩⟩ := reindex_eq_ok reindexed
    · exact inductionHypothesis
    · intro key listed
      rw [List.map_append, List.mem_append] at listed
      rcases listed with before | new
      · exact inductionHypothesis key before
      · rw [List.mem_singleton.1 new]
        exact earlier.mapping_eq ▸ classify_eq_indexed_iff.1 classified

/-- In particular there are only such operations to carry out. -/
theorem Reachable.indexes_liveEntries (reached : Reachable mapping plan) :
    ∀ entry ∈ plan.liveEntries, mapping.Indexes entry.key.type :=
  fun entry member =>
    reached.indexes entry.key (List.mem_map_of_mem (List.mem_filter.1 member).1)

/-- Every entity with a record is of an accepted type. -/
theorem Reachable.accepts (reached : Reachable mapping plan) :
    ∀ key ∈ plan.changes.map Change.key, mapping.Accepts key.type := by
  induction reached with
  | empty => simp [Plan.empty]
  | registered earlier applied inductionHypothesis =>
    obtain ⟨standing, classified, rfl⟩ := apply_eq_ok applied
    intro key listed
    rw [keys_logChange] at listed
    split at listed
    · exact inductionHypothesis key listed
    · rcases List.mem_append.1 listed with before | new
      · exact inductionHypothesis key before
      · rw [List.mem_singleton.1 new]
        exact earlier.mapping_eq ▸ accepts_of_classify classified
  | reindexed _ reindexed inductionHypothesis =>
    obtain ⟨_, ⟨_, rfl⟩ | ⟨_, rfl⟩⟩ := reindex_eq_ok reindexed
    · exact inductionHypothesis
    · exact inductionHypothesis

end Plan

end Reindex
