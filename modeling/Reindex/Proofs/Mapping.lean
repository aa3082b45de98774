import Reindex.Mapping
import Reindex.Proofs.Registry

/-!
# Mappings that were built

A mapping is only built of settings within their bounds and of declarations that
fit together, and its containment graph is the one computed from them.
-/

namespace Reindex

namespace Config

/-- The bounds of the settings. -/
structure Valid (config : Config) : Prop where
  batchSize : 1 ≤ config.batchSize ∧ config.batchSize ≤ 10000
  submitTimeout : 1 ≤ config.submitTimeout ∧ config.submitTimeout ≤ 600000
  maxInFlight : 1 ≤ config.maxInFlight ∧ config.maxInFlight ≤ 256
  maxDepth : 1 ≤ config.maxDepth ∧ config.maxDepth ≤ 64
  proxyMarker : config.proxyMarker ≠ ""

/-- A value is accepted within its bounds. -/
theorem checkRange_eq_ok_iff {field hint : String} {value least greatest : Nat} :
    checkRange field value least greatest hint = .ok () ↔ least ≤ value ∧ value ≤ greatest := by
  unfold checkRange
  split <;> simp_all

/-- Checks in a row succeed when each of them does. -/
theorem bind_eq_ok_iff {first second : Except ConfigError Unit} :
    (first >>= fun _ => second) = .ok () ↔ first = .ok () ∧ second = .ok () := by
  cases first <;> simp [bind, Except.bind]

/-- Settings are accepted exactly within their bounds. -/
theorem validate_eq_ok_iff {config : Config} : config.validate = .ok () ↔ config.Valid := by
  have marker : (if config.proxyMarker = "" then
      Except.error (ConfigError.custom "proxy_marker must not be empty") else .ok ()) = .ok () ↔
        config.proxyMarker ≠ "" := by
    split <;> simp_all
  unfold validate
  simp only [bind_eq_ok_iff, checkRange_eq_ok_iff, marker]
  constructor
  · rintro ⟨batchSize, submitTimeout, maxInFlight, maxDepth, proxyMarker⟩
    exact ⟨batchSize, submitTimeout, maxInFlight, maxDepth, proxyMarker⟩
  · rintro ⟨batchSize, submitTimeout, maxInFlight, maxDepth, proxyMarker⟩
    exact ⟨batchSize, submitTimeout, maxInFlight, maxDepth, proxyMarker⟩

end Config

namespace Mapping

/-- What a mapping is built of. -/
structure Built (config : Config) (hierarchy : Hierarchy) (types : List MappedType)
    (mapping : Mapping) : Prop where
  valid : config.Valid
  accepted : Registry.ofDeclarations types = .ok mapping.registry
  settings : mapping.config = config
  table : mapping.hierarchy = hierarchy
  graph : mapping.containment = .build mapping.registry config.maxDepth

/-- Building succeeds with what was checked. -/
theorem built_of_build {config : Config} {hierarchy : Hierarchy} {types : List MappedType}
    {mapping : Mapping} (built : build config hierarchy types = .ok mapping) :
    Built config hierarchy types mapping := by
  unfold build at built
  cases valid : config.validate with
  | error error => simp [valid, Except.mapError, bind, Except.bind] at built
  | ok _ =>
    cases accepted : Registry.ofDeclarations types with
    | error problem => simp [valid, accepted, Except.mapError, bind, Except.bind] at built
    | ok registry =>
      simp only [valid, accepted, Except.mapError, bind, Except.bind, pure, Except.pure,
        Except.ok.injEq] at built
      subst built
      exact ⟨Config.validate_eq_ok_iff.1 valid, accepted, rfl, rfl, rfl⟩

/-- A mapping that was built permits at least one call. -/
theorem permitted_of_build {config : Config} {hierarchy : Hierarchy} {types : List MappedType}
    {mapping : Mapping} (built : build config hierarchy types = .ok mapping) :
    0 < mapping.config.maxInFlight := by
  have mapped := built_of_build built
  rw [mapped.settings]
  exact mapped.valid.maxInFlight.1

end Mapping

end Reindex
