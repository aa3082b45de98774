import Reindex.Registry
import Mathlib.Data.List.Forall2

/-!
# Which identifier an entity has

What a value is worth as an identifier, and what the rule of a type finds in an entity, is
said here as a relation. A property holds an identifier when its value is an integer of 64
bits, a text, or an array of such that is not empty; a composite has one part for each of
its properties, in their order; and a function of its own finds what it answers. Where a rule
finds nothing, the first property without an identifier is to blame, or the function.

No rule finds two identifiers in an entity, and every rule either finds one or misses one.
-/

namespace Reindex

section

variable {Problem Value Made : Type} {result : Except Problem Value} {make : Value → Made}

/-- What is made of a result is made of its value, -/
theorem Except.map_eq_ok_iff {made : Made} :
    result.map make = .ok made ↔ ∃ value, result = .ok value ∧ make value = made := by
  cases result <;> simp [Except.map]

/-- and a problem stays. -/
theorem Except.map_eq_error_iff {problem : Problem} :
    result.map make = .error problem ↔ result = .error problem := by
  cases result <;> simp [Except.map]

end

namespace EntityId

/-- The identifier that a value is worth. -/
inductive HeldBy : Json → EntityId → Prop
  | int (value : Int64) : HeldBy (.number (.integer value.toInt)) (.int value)
  | text (value : String) : HeldBy (.text value) (.text value)
  | composite {first : Json} {rest : List Json} {parts : List EntityId}
      (each : List.Forall₂ HeldBy (first :: rest) parts) :
      HeldBy (.array (first :: rest)) (.composite parts)

/-- An integer within range is an identifier. -/
theorem ofInt?_eq_some_iff {value : Int} {id : EntityId} :
    ofInt? value = some id ↔ ∃ held : Int64, held.toInt = value ∧ .int held = id := by
  rw [ofInt?, Option.ite_none_right_eq_some, Option.some.injEq]
  constructor
  · rintro ⟨⟨above, below⟩, same⟩
    exact ⟨Int64.ofInt value, Int64.toInt_ofInt_of_le above (Int.lt_add_one_of_le below), same⟩
  · rintro ⟨held, rfl, same⟩
    exact ⟨⟨held.minValue_le_toInt, held.toInt_le⟩, by rw [Int64.ofInt_toInt, same]⟩

mutual

/-- A value is read as the identifier that it is worth, -/
theorem ofValue?_eq_some_iff : ∀ {value : Json} {id : EntityId},
    ofValue? value = some id ↔ HeldBy value id
  | .null, _ => iff_of_false nofun nofun
  | .bool _, _ => iff_of_false nofun nofun
  | .number (.integer value), id => by
    rw [ofValue?, ofInt?_eq_some_iff]
    constructor
    · rintro ⟨held, rfl, rfl⟩
      exact .int held
    · rintro ⟨held⟩
      exact ⟨held, rfl, rfl⟩
  | .number (.decimal ..), _ => iff_of_false nofun nofun
  | .text value, id => by
    rw [ofValue?, Option.some.injEq]
    constructor
    · rintro rfl
      exact .text value
    · rintro ⟨⟩
      rfl
  | .array [], _ => iff_of_false nofun nofun
  | .array (first :: rest), id => by
    have items := fun parts => @ofValues?_eq_some_iff (first :: rest) parts
    have read : ofValue? (.array (first :: rest)) =
        (ofValues? (first :: rest)).map .composite := by
      rw [ofValue?, ofValues?]
      cases ofValue? first <;> cases ofValues? rest <;> rfl
    rw [read, Option.map_eq_some_iff]
    constructor
    · rintro ⟨parts, held, rfl⟩
      exact .composite ((items parts).1 held)
    · rintro (_ | _ | ⟨each⟩)
      exact ⟨_, (items _).2 each, rfl⟩
  | .object _, _ => iff_of_false nofun nofun

/-- and so are several. -/
theorem ofValues?_eq_some_iff : ∀ {values : List Json} {ids : List EntityId},
    ofValues? values = some ids ↔ List.Forall₂ HeldBy values ids
  | [], ids => by
    rw [ofValues?, Option.some.injEq, List.forall₂_nil_left_iff, eq_comm]
  | first :: rest, ids => by
    have head := fun id => @ofValue?_eq_some_iff first id
    have tail := fun ids => @ofValues?_eq_some_iff rest ids
    rw [List.forall₂_cons_left_iff]
    simp only [ofValues?, bind, Option.bind_eq_some_iff, pure, Option.some.injEq, head, tail]
    constructor
    · rintro ⟨id, held, others, heldToo, rfl⟩
      exact ⟨id, others, held, heldToo, rfl⟩
    · rintro ⟨id, others, held, heldToo, rfl⟩
      exact ⟨id, held, others, heldToo, rfl⟩

end

end EntityId

/-- A property of an entity holds an identifier. -/
def Instance.Holds (entity : Instance) (name : String) (id : EntityId) : Prop :=
  ∃ value, entity.property? name = some value ∧ EntityId.HeldBy value id

namespace IdentifierRule

/-- What a rule finds in an entity. -/
inductive Finds (entity : Instance) : IdentifierRule → EntityId → Prop
  | property {name : String} {id : EntityId} (holds : entity.Holds name id) :
      Finds entity (.property name) id
  | composite {names : List String} {parts : List EntityId}
      (each : List.Forall₂ entity.Holds names parts) :
      Finds entity (.composite names) (.composite parts)
  | custom {identify : Instance → Option EntityId} {id : EntityId}
      (answers : identify entity = some id) : Finds entity (.custom identify) id

/-- What is to blame when a rule finds nothing. -/
inductive Misses (entity : Instance) : IdentifierRule → IdentifierProblem → Prop
  | property {name : String} (none : ∀ id, ¬ entity.Holds name id) :
      Misses entity (.property name) (.property name)
  | composite {earlier later : List String} {name : String} {parts : List EntityId}
      (each : List.Forall₂ entity.Holds earlier parts) (none : ∀ id, ¬ entity.Holds name id) :
      Misses entity (.composite (earlier ++ name :: later)) (.property name)
  | custom {identify : Instance → Option EntityId} (silent : identify entity = none) :
      Misses entity (.custom identify) .customRule

end IdentifierRule

namespace MappedType

variable {type : MappedType} {entity : Instance} {name : String} {names : List String}

/-- The identifier of a property is the one that it holds, -/
theorem idOfProperty_eq_ok_iff {id : EntityId} :
    type.idOfProperty entity name = .ok id ↔ entity.Holds name id := by
  simp only [Instance.Holds, ← EntityId.ofValue?_eq_some_iff]
  rw [← Option.bind_eq_some_iff, idOfProperty]
  cases (entity.property? name).bind EntityId.ofValue? <;> simp

/-- and a property that holds none is to blame. -/
theorem idOfProperty_eq_error_iff {error : IndexingError} :
    type.idOfProperty entity name = .error error ↔
      (∀ id, ¬ entity.Holds name id) ∧
        error = .identifierExtraction type.name (.property name) := by
  simp only [← @idOfProperty_eq_ok_iff type]
  rw [idOfProperty]
  cases (entity.property? name).bind EntityId.ofValue? <;> simp [eq_comm]

/-- The identifiers of properties are those that they hold, in order, -/
theorem mapM_eq_ok_iff {parts : List EntityId} :
    names.mapM (type.idOfProperty entity) = .ok parts ↔
      List.Forall₂ entity.Holds names parts := by
  induction names generalizing parts with
  | nil => cases parts <;> simp [pure, Except.pure]
  | cons name rest inductionHypothesis =>
    rw [List.mapM_cons, List.forall₂_cons_left_iff]
    simp only [← inductionHypothesis, ← @idOfProperty_eq_ok_iff type]
    cases type.idOfProperty entity name with
    | error error => simp [bind, Except.bind]
    | ok id =>
      cases rest.mapM (type.idOfProperty entity) <;>
        simp [bind, Except.bind, pure, Except.pure, eq_comm]

/-- and the first one that holds none is to blame. -/
theorem mapM_eq_error_iff {error : IndexingError} :
    names.mapM (type.idOfProperty entity) = .error error ↔
      ∃ earlier name later parts, names = earlier ++ name :: later ∧
        List.Forall₂ entity.Holds earlier parts ∧ (∀ id, ¬ entity.Holds name id) ∧
        error = .identifierExtraction type.name (.property name) := by
  induction names with
  | nil => exact iff_of_false nofun (by simp)
  | cons first rest inductionHypothesis =>
    rw [List.mapM_cons]
    cases read : type.idOfProperty entity first with
    | error blamed =>
      obtain ⟨none, rfl⟩ := idOfProperty_eq_error_iff.1 read
      constructor
      · rintro ⟨⟩
        exact ⟨[], first, rest, [], rfl, .nil, none, rfl⟩
      · rintro ⟨earlier, name, later, parts, split, each, -, rfl⟩
        cases each with
        | nil => cases split; rfl
        | cons holds _ =>
          cases split
          exact absurd holds (none _)
    | ok id =>
      have held := idOfProperty_eq_ok_iff.1 read
      have further : (do
          let first ← Except.ok id
          let rest ← rest.mapM (type.idOfProperty entity)
          pure (first :: rest)) = .error error ↔
            rest.mapM (type.idOfProperty entity) = .error error := by
        cases rest.mapM (type.idOfProperty entity) <;> simp [bind, Except.bind, pure, Except.pure]
      rw [further, inductionHypothesis]
      constructor
      · rintro ⟨earlier, name, later, parts, rfl, each, none, rfl⟩
        exact ⟨first :: earlier, name, later, id :: parts, rfl, .cons held each, none, rfl⟩
      · rintro ⟨earlier, name, later, parts, split, each, none, rfl⟩
        cases each with
        | nil =>
          cases split
          exact absurd held (none id)
        | cons _ each =>
          cases split
          exact ⟨_, name, later, _, rfl, each, none, rfl⟩

/-- The identifier of an entity is what the rule of the type finds, -/
theorem extractId_eq_ok_iff {id : EntityId} :
    type.extractId entity = .ok id ↔ type.identifier.Finds entity id := by
  rw [extractId]
  cases type.identifier with
  | property name =>
    rw [idOfProperty_eq_ok_iff]
    constructor
    · exact .property
    · rintro ⟨holds⟩
      exact holds
  | composite names =>
    rw [Except.map_eq_ok_iff]
    simp only [mapM_eq_ok_iff]
    constructor
    · rintro ⟨parts, each, rfl⟩
      exact .composite each
    · rintro (_ | ⟨each⟩)
      exact ⟨_, each, rfl⟩
  | custom identify =>
    constructor
    · intro read
      cases answers : identify entity with
      | none => simp [answers] at read
      | some found =>
        obtain rfl : found = id := by simpa [answers] using read
        exact .custom answers
    · rintro (_ | _ | ⟨answers⟩)
      simp [answers]

/-- and where it finds nothing the entity has none. -/
theorem extractId_eq_error_iff {error : IndexingError} :
    type.extractId entity = .error error ↔
      ∃ problem, type.identifier.Misses entity problem ∧
        error = .identifierExtraction type.name problem := by
  rw [extractId]
  cases type.identifier with
  | property name =>
    rw [idOfProperty_eq_error_iff]
    constructor
    · rintro ⟨none, rfl⟩
      exact ⟨_, .property none, rfl⟩
    · rintro ⟨_, ⟨none⟩, rfl⟩
      exact ⟨none, rfl⟩
  | composite names =>
    rw [Except.map_eq_error_iff, mapM_eq_error_iff]
    constructor
    · rintro ⟨earlier, name, later, parts, rfl, each, none, rfl⟩
      exact ⟨_, .composite each none, rfl⟩
    · rintro ⟨_, _ | ⟨each, none⟩, rfl⟩
      exact ⟨_, _, _, _, rfl, each, none, rfl⟩
  | custom identify =>
    constructor
    · intro read
      cases answers : identify entity with
      | some found => simp [answers] at read
      | none =>
        obtain rfl : _ = error := by simpa [answers] using read
        exact ⟨_, .custom answers, rfl⟩
    · rintro ⟨_, _ | _ | ⟨silent⟩, rfl⟩
      simp [silent]

end MappedType

end Reindex
