import Reindex.Resolver
import Mathlib.Data.List.Infix
import Mathlib.Data.List.Perm.Subperm

/-!
# The nearest mapped class

A class stands for the first mapped one in the chain of itself, its superclass, the
superclass of that and so on. The chain of a cyclic table has no end, the walk has one: it
stops at a class that it passed before. Nothing mapped can lie behind that point, since
from there on the chain only repeats classes that were passed, and a class is passed only
when it is not mapped.

The walk itself knows no bound. It is stated here round by round, and each round passes one
more class of the table; so it ends, and before the bound of the running definition counts.
-/

namespace Reindex

/-- The class some levels above a class, if the chain is that long. -/
def Hierarchy.ancestor? (hierarchy : Hierarchy) (className : String) : Nat → Option String
  | 0 => some className
  | level + 1 => (hierarchy.superclass? className).bind (hierarchy.ancestor? · level)

/-- The chain of a class goes on with the chain of its superclass. -/
theorem Hierarchy.ancestor?_succ {hierarchy : Hierarchy} {className above : String}
    (next : hierarchy.superclass? className = some above) (level : Nat) :
    hierarchy.ancestor? className (level + 1) = hierarchy.ancestor? above level := by
  rw [ancestor?, next]
  rfl

/-- The first mapped name in the chain upward from a class. -/
def Registry.Nearest (registry : Registry) (hierarchy : Hierarchy) (start : String)
    (type : TypeName) : Prop :=
  ∃ level, hierarchy.ancestor? start level = some type ∧ registry.contains type = true ∧
    ∀ lower < level, ∀ name, hierarchy.ancestor? start lower = some name →
      registry.contains name = false

/-- No name in the chain upward from a class is mapped. -/
def Registry.Unmapped (registry : Registry) (hierarchy : Hierarchy) (start : String) : Prop :=
  ∀ level name, hierarchy.ancestor? start level = some name → registry.contains name = false

namespace Registry

variable {registry : Registry} {hierarchy : Hierarchy} {current above : String}
  {type other : TypeName}

/-- What is nearest above an unmapped class is nearest to the class. -/
theorem Nearest.upward (nearest : registry.Nearest hierarchy above type)
    (missing : registry.contains current = false)
    (next : hierarchy.superclass? current = some above) :
    registry.Nearest hierarchy current type := by
  obtain ⟨level, reached, mapped, first⟩ := nearest
  refine ⟨level + 1, (hierarchy.ancestor?_succ next level).trans reached, mapped, ?_⟩
  intro lower below name passed
  cases lower with
  | zero =>
    cases passed
    exact missing
  | succ lower =>
    rw [hierarchy.ancestor?_succ next] at passed
    exact first lower (Nat.lt_of_succ_lt_succ below) name passed

/-- When neither a class is mapped nor anything above it, nothing is from the class on. -/
theorem Unmapped.upward (unmapped : registry.Unmapped hierarchy above)
    (missing : registry.contains current = false)
    (next : hierarchy.superclass? current = some above) :
    registry.Unmapped hierarchy current := by
  intro level name reached
  cases level with
  | zero =>
    cases reached
    exact missing
  | succ level =>
    rw [hierarchy.ancestor?_succ next] at reached
    exact unmapped level name reached

/-- There is one nearest mapped class at most, -/
theorem Nearest.unique (nearest : registry.Nearest hierarchy current type)
    (nearest' : registry.Nearest hierarchy current other) : type = other := by
  obtain ⟨level, reached, mapped, first⟩ := nearest
  obtain ⟨level', reached', mapped', first'⟩ := nearest'
  rcases Nat.lt_trichotomy level level' with below | rfl | above
  · simp [first' level below type reached] at mapped
  · exact Option.some.inj (reached.symm.trans reached')
  · simp [first level' above other reached'] at mapped'

/-- and none in an unmapped chain. -/
theorem Nearest.not_unmapped (nearest : registry.Nearest hierarchy current type) :
    ¬ registry.Unmapped hierarchy current := by
  obtain ⟨level, reached, mapped, -⟩ := nearest
  intro unmapped
  simp [unmapped level type reached] at mapped

end Registry

/-- A name cut in front of the first occurrence of a marker, or the whole of it when the
marker does not occur. -/
inductive CutAt (marker name : List Char) : List Char → Prop
  | cut {before after : List Char} (split : name = before ++ marker ++ after)
      (first : ∀ other rest, name = other ++ marker ++ rest → before.length ≤ other.length) :
      CutAt marker name before
  | whole (absent : ¬ marker <:+: name) : CutAt marker name name

/-- What precedes the first occurrence of a marker is cut there, also for an empty marker. -/
theorem cutAt_beforeMarker (marker name : List Char) :
    CutAt marker name (beforeMarker marker name) := by
  induction name with
  | nil =>
    by_cases empty : marker = []
    · subst empty
      exact .cut (show [] = [] ++ [] ++ [] from rfl) fun _ _ _ => Nat.zero_le _
    · exact .whole fun occurs => empty (List.infix_nil.1 occurs)
  | cons c rest inductionHypothesis =>
    rw [beforeMarker]
    split
    · rename_i here
      obtain ⟨after, split⟩ := List.isPrefixOf_iff_prefix.1 here
      exact .cut split.symm fun _ _ _ => Nat.zero_le _
    · rename_i elsewhere
      have elsewhere : ¬ marker <+: c :: rest := fun occurs =>
        elsewhere (List.isPrefixOf_iff_prefix.2 occurs)
      generalize beforeMarker marker rest = kept at inductionHypothesis ⊢
      cases inductionHypothesis with
      | cut split first =>
        refine .cut (by rw [split]; rfl) ?_
        -- an occurrence does not begin here, so it is one in the rest
        intro other behind occurs
        cases other with
        | nil => exact absurd ⟨behind, occurs.symm⟩ elsewhere
        | cons head others =>
          exact Nat.succ_le_succ (first others behind (List.cons.inj occurs).2)
      | whole absent =>
        refine .whole fun occurs => ?_
        rcases List.infix_cons_iff.1 occurs with here | later
        · exact elsewhere here
        · exact absent later

namespace Resolver

/-- A walk upward, from a class with some classes passed, and what it ends with. -/
inductive Walks (registry : Registry) (hierarchy : Hierarchy) :
    List String → String → Option TypeName → Prop
  /-- A mapped class is what was looked for. -/
  | mapped {visited : List String} {current : String}
      (found : registry.contains current = true) :
      Walks registry hierarchy visited current (some current)
  /-- A class passed before ends the walk, -/
  | again {visited : List String} {current : String}
      (missing : registry.contains current = false) (passed : current ∈ visited) :
      Walks registry hierarchy visited current none
  /-- and so does a class without a superclass. -/
  | top {visited : List String} {current : String}
      (missing : registry.contains current = false) (fresh : current ∉ visited)
      (last : hierarchy.superclass? current = none) :
      Walks registry hierarchy visited current none
  /-- From any other class the walk goes on with its superclass. -/
  | upward {visited : List String} {current above : String} {answer : Option TypeName}
      (missing : registry.contains current = false) (fresh : current ∉ visited)
      (next : hierarchy.superclass? current = some above)
      (rest : Walks registry hierarchy (current :: visited) above answer) :
      Walks registry hierarchy visited current answer

/-- How a walk stands: the classes passed are distinct and not mapped, and the superclass of
each of them was passed too or is where the walk is. -/
structure Passed (registry : Registry) (hierarchy : Hierarchy) (visited : List String)
    (current : String) : Prop where
  distinct : visited.Nodup
  missing : ∀ className ∈ visited, registry.contains className = false
  leads : ∀ className ∈ visited, ∃ above, hierarchy.superclass? className = some above ∧
    (above = current ∨ above ∈ visited)

variable {registry : Registry} {hierarchy : Hierarchy} {visited : List String}
  {current above : String} {answer : Option TypeName}

/-- At the start nothing is passed. -/
theorem Passed.start : Passed registry hierarchy [] current where
  distinct := List.nodup_nil
  missing := fun _ none => nomatch none
  leads := fun _ none => nomatch none

/-- Going on with the superclass passes the class. -/
theorem Passed.upward (passed : Passed registry hierarchy visited current)
    (missing : registry.contains current = false) (fresh : current ∉ visited)
    (next : hierarchy.superclass? current = some above) :
    Passed registry hierarchy (current :: visited) above where
  distinct := List.nodup_cons.2 ⟨fresh, passed.distinct⟩
  missing := List.forall_mem_cons.2 ⟨missing, passed.missing⟩
  leads := by
    refine List.forall_mem_cons.2 ⟨⟨above, next, .inl rfl⟩, ?_⟩
    intro className member
    obtain ⟨beyond, superclass, stands⟩ := passed.leads className member
    exact ⟨beyond, superclass, .inr (List.mem_cons.2 stands)⟩

/-- Classes passed are classes of the table, so there are no more of them than entries. -/
theorem Passed.length_le (passed : Passed registry hierarchy visited current) :
    visited.length ≤ hierarchy.length := by
  have listed : visited ⊆ hierarchy.map Prod.fst := by
    intro className member
    obtain ⟨above, superclass, -⟩ := passed.leads className member
    obtain ⟨before, after, split, -⟩ := List.lookup_eq_some_iff.1 superclass
    have entry : (className, above) ∈ hierarchy := by
      rw [← List.mem_reverse, split]
      exact List.mem_append_right _ List.mem_cons_self
    exact List.mem_map_of_mem entry
  calc visited.length ≤ (hierarchy.map Prod.fst).length :=
        (passed.distinct.subperm listed).length_le
    _ = hierarchy.length := List.length_map _

/-- Behind a class passed before there are only classes passed before. -/
theorem Passed.ancestor_mem (passed : Passed registry hierarchy visited current)
    (again : current ∈ visited) {className name : String} {level : Nat}
    (member : className ∈ visited) (reached : hierarchy.ancestor? className level = some name) :
    name ∈ visited := by
  induction level generalizing className with
  | zero =>
    cases reached
    exact member
  | succ level inductionHypothesis =>
    obtain ⟨above, superclass, stands⟩ := passed.leads className member
    rw [hierarchy.ancestor?_succ superclass] at reached
    rcases stands with rfl | stands
    · exact inductionHypothesis again reached
    · exact inductionHypothesis stands reached

/-- A walk with room for all classes of the table is a walk without a bound. -/
theorem walks_of_room {fuel : Nat} (passed : Passed registry hierarchy visited current)
    (room : hierarchy.length < visited.length + fuel) :
    Walks registry hierarchy visited current
      (walk registry hierarchy visited fuel current) := by
  induction fuel generalizing visited current with
  | zero =>
    -- more classes would have been passed than the table has
    exact absurd passed.length_le (Nat.not_le_of_lt room)
  | succ fuel inductionHypothesis =>
    rw [walk]
    split
    · rename_i found
      exact .mapped found
    · rename_i missing
      have missing := Bool.eq_false_iff.2 missing
      split
      · rename_i again
        exact .again missing again
      · rename_i fresh
        cases next : hierarchy.superclass? current with
        | none => exact .top missing fresh next
        | some above =>
          have more : hierarchy.length < (current :: visited).length + fuel := by
            rw [List.length_cons]
            omega
          exact .upward missing fresh next
            (inductionHypothesis (passed.upward missing fresh next) more)

/-- A walk that finds something finds what is nearest. -/
theorem Walks.nearest {type : TypeName}
    (walks : Walks registry hierarchy visited current answer) (found : answer = some type) :
    registry.Nearest hierarchy current type := by
  induction walks with
  | mapped mapped =>
    cases found
    exact ⟨0, rfl, mapped, fun _ below => absurd below (Nat.not_lt_zero _)⟩
  | again _ _ => cases found
  | top _ _ _ => cases found
  | upward missing _ next _ inductionHypothesis =>
    exact (inductionHypothesis found).upward missing next

/-- A walk that finds nothing has nothing mapped ahead. -/
theorem Walks.unmapped (walks : Walks registry hierarchy visited current answer)
    (passed : Passed registry hierarchy visited current) (none : answer = none) :
    registry.Unmapped hierarchy current := by
  induction walks with
  | mapped _ => cases none
  | again _ again =>
    -- from here on the chain repeats what was passed
    intro level name reached
    exact passed.missing name (passed.ancestor_mem again again reached)
  | top missing _ last =>
    intro level name reached
    cases level with
    | zero =>
      cases reached
      exact missing
    | succ level =>
      rw [Hierarchy.ancestor?, last] at reached
      cases reached
  | upward missing fresh next _ inductionHypothesis =>
    exact (inductionHypothesis (passed.upward missing fresh next) none).upward missing next

/-- What is found for a class is where the walk from its start ends. -/
theorem walks_find? (resolver : Resolver) (className : String) :
    Walks resolver.registry resolver.hierarchy [] (resolver.start className)
      (resolver.find? className) :=
  walks_of_room .start (by simp)

variable {resolver : Resolver} {className : String} {type : TypeName}

/-- Nothing is found exactly when nothing above the start is mapped, -/
theorem find?_eq_none_iff :
    resolver.find? className = none ↔
      resolver.registry.Unmapped resolver.hierarchy (resolver.start className) := by
  constructor
  · exact (walks_find? resolver className).unmapped .start
  · intro unmapped
    cases found : resolver.find? className with
    | none => rfl
    | some type =>
      exact absurd unmapped ((walks_find? resolver className).nearest found).not_unmapped

/-- and otherwise the nearest mapped class is. -/
theorem find?_eq_some_iff :
    resolver.find? className = some type ↔
      resolver.registry.Nearest resolver.hierarchy (resolver.start className) type := by
  constructor
  · exact (walks_find? resolver className).nearest
  · intro nearest
    cases found : resolver.find? className with
    | none => exact absurd (find?_eq_none_iff.1 found) nearest.not_unmapped
    | some other =>
      rw [((walks_find? resolver className).nearest found).unique nearest]

/-- The walk from the start of a class ends, with what is found and with nothing else. -/
theorem walks_iff {ending : Option TypeName} :
    Walks resolver.registry resolver.hierarchy [] (resolver.start className) ending ↔
      ending = resolver.find? className := by
  constructor
  · intro walks
    cases ending with
    | none => exact (find?_eq_none_iff.2 (walks.unmapped .start rfl)).symm
    | some type => exact (find?_eq_some_iff.2 (walks.nearest rfl)).symm
  · rintro rfl
    exact walks_find? resolver className

end Resolver

end Reindex
