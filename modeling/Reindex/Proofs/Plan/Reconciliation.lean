import Reindex.Proofs.Library
import Mathlib.Logic.Function.Basic

/-!
# Reconciliation preserves meaning

The indices hold at most one instance for each entity. A plan stands for the
registrations that led to it: carrying out what it resolves to, once and in any
order, leaves the same content as carrying out the registrations one by one as
they arrived.

The merged operation alone does not say what the registrations made of a
document; `Agrees` ties it to the content before and after. An added document was
not there before and one that came to nothing neither, so leaving such an entry
out is right. Every other pending operation fixes the document whatever was there.
-/

namespace Reindex

/-- The content of the indices: the instance that is stored for each entity. -/
abbrev Content := EntityKey → Option Instance

/-- What an operation makes of the document of its entity: it stores what it
carries, or removes the document. -/
def Operation.outcome : Operation → Option Instance → Option Instance
  | .add carried, _ | .update carried, _ | .addOrUpdate carried, _ => carried
  | .delete, _ => none
  | .noop, held => held

/-- An instance is carried wherever one is to be stored. -/
def Operation.Supplied (operation : Operation) : Prop :=
  operation.kind ≠ .delete → operation.carried?.isSome

namespace Content

/-- Carry out the operation of one entry. -/
def carryOut (content : Content) (entry : PlanEntry) : Content :=
  Function.update content entry.key (entry.operation.outcome (content entry.key))

/-- Carry out operations one after another. -/
def carryOutAll (content : Content) (entries : List PlanEntry) : Content :=
  entries.foldl carryOut content

/-- A document that no entry is about stays as it is. -/
theorem carryOutAll_of_notMem (content : Content) (entries : List PlanEntry) (key : EntityKey)
    (absent : key ∉ entries.map PlanEntry.key) : content.carryOutAll entries key = content key := by
  induction entries generalizing content with
  | nil => rfl
  | cons entry rest inductionHypothesis =>
    have other : key ≠ entry.key := fun same => absent (by simp [same])
    have absentRest : key ∉ rest.map PlanEntry.key := fun later => absent (by simp [later])
    calc (content.carryOut entry).carryOutAll rest key
        = content.carryOut entry key := inductionHypothesis _ absentRest
      _ = content key := Function.update_of_ne other _ _

/-- Among entries for distinct entities each document is what its own entry makes
of it; the others neither come before nor behind. -/
theorem carryOutAll_of_mem (content : Content) (entries : List PlanEntry) (entry : PlanEntry)
    (distinct : (entries.map PlanEntry.key).Nodup) (member : entry ∈ entries) :
    content.carryOutAll entries entry.key = entry.operation.outcome (content entry.key) := by
  induction entries generalizing content with
  | nil => simp at member
  | cons head rest inductionHypothesis =>
    obtain ⟨absent, distinctRest⟩ := List.nodup_cons.mp distinct
    rcases List.mem_cons.mp member with rfl | later
    · calc (content.carryOut entry).carryOutAll rest entry.key
          = content.carryOut entry entry.key := carryOutAll_of_notMem _ rest _ absent
        _ = entry.operation.outcome (content entry.key) := Function.update_self ..
    · have other : entry.key ≠ head.key := by
        intro same
        exact absent (same ▸ List.mem_map_of_mem later)
      calc (content.carryOut head).carryOutAll rest entry.key
          = entry.operation.outcome (content.carryOut head entry.key) :=
            inductionHypothesis _ distinctRest later
        _ = entry.operation.outcome (content entry.key) := by
            rw [carryOut, Function.update_of_ne other]

end Content

/-- What is pending for an entity fits its document before and after the
registrations so far. -/
def Agrees (initial : Option Instance) : Option Operation → Option Instance → Prop
  | none, current => current = initial
  | some (.add carried), current => initial = none ∧ carried.isSome ∧ current = carried
  | some (.update carried), current | some (.addOrUpdate carried), current =>
    carried.isSome ∧ current = carried
  | some .delete, current => current = none
  | some .noop, current => initial = none ∧ current = none

/-- One more registration for an entity keeps the fit. Only the first one can
turn into an addition, and then nothing was stored before. -/
theorem Agrees.after {initial current : Option Instance} {pending : Option Operation}
    (agrees : Agrees initial pending current) {incoming : Operation} (supplied : incoming.Supplied)
    (real : incoming ≠ .noop)
    (created : pending = none → incoming.kind = .add → initial = none) :
    Agrees initial (some (Operation.after pending incoming)) (incoming.outcome current) := by
  cases incoming with
  | noop => exact absurd rfl real
  | delete =>
    rcases pending with _ | pending
    · rfl
    · cases pending <;> simp_all [Agrees, Operation.after, Operation.merge, Operation.outcome]
  | add carried | update carried | addOrUpdate carried =>
    obtain ⟨entity, rfl⟩ := Option.isSome_iff_exists.mp (supplied (by simp [Operation.kind]))
    rcases pending with _ | pending
    · simp_all [Agrees, Operation.after, Operation.outcome, Operation.kind]
    · cases pending <;> simp_all [Agrees, Operation.after, Operation.merge, Operation.outcome]

/-- A plan fits the content that its registrations turned the initial one into. -/
structure Plan.Reconciles (plan : Plan) (initial current : Content) : Prop where
  distinct : plan.Distinct
  agrees : ∀ key, Agrees (initial key) (plan.get? key) (current key)

/-- The first registration for the entity is a creation. -/
def CreatedFirst (history : List Registration) (key : EntityKey) : Prop :=
  ∃ registration, history.find? (·.key == key) = some registration ∧
    registration.operation.kind = .add

namespace Plan.Reconciles

variable {plan : Plan} {initial current : Content}

/-- An empty plan fits a content that nothing was done to. -/
theorem empty (mapping : Mapping) (content : Content) :
    (Plan.empty mapping).Reconciles content content :=
  ⟨List.nodup_nil, fun _ => rfl⟩

/-- A registration of unknown changes for an indexed type is accepted and keeps
the fit: it merges into its own entry and stores or removes its own document. -/
theorem register (fits : plan.Reconciles initial current) {registration : Registration}
    (indexes : plan.mapping.Indexes registration.key.type) (unknown : registration.changed = none)
    (supplied : registration.operation.Supplied)
    (created : plan.get? registration.key = none → registration.operation.kind = .add →
      initial registration.key = none) :
    ∃ next, plan.apply registration = .ok next ∧ next.mapping = plan.mapping ∧
      next.entries = mergeEntry registration.key registration.operation plan.entries ∧
      next.Reconciles initial (current.carryOut registration.entry) := by
  have applied := apply_of_indexes indexes
  have merged : plan.entriesAfter .indexed registration =
      mergeEntry registration.key registration.operation plan.entries := by
    simp [entriesAfter, unknown]
  refine ⟨_, applied, rfl, merged, fits.distinct.apply applied, ?_⟩
  intro tested
  simp only [get?_eq, merged, pendingIn_mergeEntry]
  by_cases same : registration.key = tested
  · subst same
    rw [if_pos rfl, Content.carryOut, Registration.entry, Function.update_self]
    exact (fits.agrees registration.key).after supplied registration.operation_ne_noop created
  · rw [if_neg same, Content.carryOut, Registration.entry, Function.update_of_ne (Ne.symm same)]
    exact fits.agrees tested

/-- A history of such registrations is accepted and keeps the fit. -/
theorem registerAll (history : List Registration) (fits : plan.Reconciles initial current)
    (indexes : ∀ registration ∈ history, plan.mapping.Indexes registration.key.type)
    (unknown : ∀ registration ∈ history, registration.changed = none)
    (supplied : ∀ registration ∈ history, registration.operation.Supplied)
    (created : ∀ key, plan.get? key = none → CreatedFirst history key → initial key = none) :
    ∃ next, history.foldlM Plan.apply plan = .ok next ∧
      next.Reconciles initial (current.carryOutAll (history.map Registration.entry)) := by
  induction history generalizing plan current with
  | nil => exact ⟨plan, rfl, fits⟩
  | cons registration rest inductionHypothesis =>
    obtain ⟨next, applied, sameMapping, merged, fitsNext⟩ :=
      fits.register (indexes registration (by simp)) (unknown registration (by simp))
        (supplied registration (by simp))
        (fun fresh kind => created _ fresh ⟨registration, by simp, kind⟩)
    -- A key without an entry now is not the key just registered, so it comes first later.
    have createdLater : ∀ key, next.get? key = none → CreatedFirst rest key →
        initial key = none := by
      intro key fresh first
      rw [get?_eq, merged, pendingIn_mergeEntry] at fresh
      by_cases same : registration.key = key
      · simp [same] at fresh
      · rw [if_neg same] at fresh
        obtain ⟨found, located, kind⟩ := first
        exact created key fresh ⟨found, by simpa [same] using located, kind⟩
    obtain ⟨last, run, fitsLast⟩ := inductionHypothesis fitsNext
      (fun later member => sameMapping ▸ indexes later (by simp [member]))
      (fun later member => unknown later (by simp [member]))
      (fun later member => supplied later (by simp [member])) createdLater
    refine ⟨last, ?_, fitsLast⟩
    rw [List.foldlM_cons, applied]
    exact run

end Plan.Reconciles

/-- The content after the registrations, read off the plan: a live entry fixes its
document, and every other one is as it was. -/
theorem Plan.Reconciles.carryOutAll {plan : Plan} {initial current : Content}
    (fits : plan.Reconciles initial current) {order : List PlanEntry}
    (resolved : order.Perm plan.resolve) : initial.carryOutAll order = current := by
  have distinct : (order.map PlanEntry.key).Nodup :=
    (resolved.map PlanEntry.key).nodup_iff.mpr fits.distinct.resolve
  funext key
  have agrees := fits.agrees key
  by_cases listed : key ∈ order.map PlanEntry.key
  · obtain ⟨entry, member, rfl⟩ := List.mem_map.mp listed
    obtain ⟨kept, live⟩ := List.mem_filter.mp (resolved.mem_iff.mp member)
    rw [get?_eq, pendingIn_of_mem fits.distinct kept] at agrees
    rw [Content.carryOutAll_of_mem initial order entry distinct member]
    cases operation : entry.operation <;>
      simp_all [Agrees, Operation.outcome, Operation.isLive, Operation.kind]
  · rw [Content.carryOutAll_of_notMem initial order key listed]
    cases pending : plan.get? key with
    | none =>
      rw [pending] at agrees
      exact agrees.symm
    | some operation =>
      have kept : ⟨key, operation⟩ ∈ plan.entries := mem_of_pendingIn pending
      have idle : operation.isLive = false := by
        by_contra live
        have resolves : ⟨key, operation⟩ ∈ plan.resolve :=
          List.mem_filter.mpr ⟨kept, by simpa using live⟩
        exact listed (List.mem_map.mpr ⟨_, resolved.mem_iff.mpr resolves, rfl⟩)
      rw [pending] at agrees
      cases operation <;> simp_all [Agrees, Operation.isLive, Operation.kind]

/-- What is resolved carries an instance where one is to be stored, and adds only
documents that were not there. -/
theorem Plan.Reconciles.resolve {plan : Plan} {initial current : Content}
    (fits : plan.Reconciles initial current) {entry : PlanEntry} (resolved : entry ∈ plan.resolve) :
    entry.operation.Supplied ∧ (entry.operation.kind = .add → initial entry.key = none) := by
  obtain ⟨kept, live⟩ := List.mem_filter.mp resolved
  have agrees := fits.agrees entry.key
  rw [get?_eq, pendingIn_of_mem fits.distinct kept] at agrees
  cases operation : entry.operation <;>
    simp_all [Agrees, Operation.Supplied, Operation.isLive, Operation.kind, Operation.carried?]

/-- Reconciliation preserves meaning. Let the registrations be for indexed types,
of unknown changes and with an instance wherever one is to be stored, and let no
document be there that is registered as created first. Then all are accepted, and
what the plan resolves to names each entity once, adds only documents that were
not there, and makes of the content, in any order, what the registrations make of
it one by one. -/
theorem resolve_preserves_content (mapping : Mapping) (content : Content)
    (history : List Registration)
    (indexes : ∀ registration ∈ history, mapping.Indexes registration.key.type)
    (unknown : ∀ registration ∈ history, registration.changed = none)
    (supplied : ∀ registration ∈ history, registration.operation.Supplied)
    (created : ∀ key, CreatedFirst history key → content key = none) :
    ∃ plan, history.foldlM Plan.apply (Plan.empty mapping) = .ok plan ∧
      (plan.resolve.map PlanEntry.key).Nodup ∧
      (∀ entry ∈ plan.resolve, entry.operation.Supplied) ∧
      (∀ entry ∈ plan.resolve, entry.operation.kind = .add → content entry.key = none) ∧
      ∀ order, order.Perm plan.resolve →
        content.carryOutAll order = content.carryOutAll (history.map Registration.entry) := by
  obtain ⟨plan, run, fits⟩ := (Plan.Reconciles.empty mapping content).registerAll history indexes
    unknown supplied (fun key _ first => created key first)
  exact ⟨plan, run, fits.distinct.resolve, fun _ resolved => (fits.resolve resolved).1,
    fun _ resolved => (fits.resolve resolved).2, fun _ resolved => fits.carryOutAll resolved⟩

namespace Library

/-- One book comes, goes and comes back; another, which is in the index, goes and
comes back as well. -/
def returns : List Registration :=
  [.create (bookKey "1") (some (titled "Emma")), .delete (bookKey "2"), .delete (bookKey "1"),
    .addOrUpdate (bookKey "1") (some (titled "Persuasion")),
    .update (bookKey "2") (some (titled "Ivanhoe"))]

/-- Only the second book is in the index. -/
def stocked : Content := fun key => if key = bookKey "2" then some (titled "Waverley") else none

/-- Both books end up with the document that their last registration asks for. -/
theorem returns_preserve_content :
    ∃ plan, returns.foldlM Plan.apply (Plan.empty (mapping {})) = .ok plan ∧
      (plan.resolve.map PlanEntry.key).Nodup ∧
      (∀ entry ∈ plan.resolve, entry.operation.Supplied) ∧
      (∀ entry ∈ plan.resolve, entry.operation.kind = .add → stocked entry.key = none) ∧
      ∀ order, order.Perm plan.resolve →
        stocked.carryOutAll order = stocked.carryOutAll (returns.map Registration.entry) := by
  refine resolve_preserves_content (mapping {}) stocked returns ?_ ?_ ?_ ?_
  · simp only [returns, List.forall_mem_cons]
    exact ⟨indexes_book {}, indexes_book {}, indexes_book {}, indexes_book {}, indexes_book {},
      by simp⟩
  · simp [returns, Registration.changed]
  · simp [returns, Operation.Supplied, Registration.operation, Operation.carried?, Operation.kind]
  · rintro key ⟨registration, located, kind⟩
    by_cases second : key = bookKey "2"
    · subst second
      have deleted : registration = .delete (bookKey "2") := by
        simpa [returns, Registration.key, bookKey] using located.symm
      simp [deleted, Registration.operation, Operation.kind] at kind
    · simp [stocked, second]

end Library

end Reindex
