import Reindex.Proofs.Containment.Search

/-!
# The levels of the closure

The search keeps one level of chains and the marks met before it. As long as no
two chains to the leaf share a mark, leaving out what was met leaves out nothing:
a level holds exactly the chains of its length, and what was met is shorter. The
next level is then exactly the chains that are one edge longer, so a search of
so many levels finds exactly the chains of those lengths.
-/

namespace Reindex.Closure

variable {edges : List Edge} {leaf : TypeName}

/-- Chains with marks of their own are left out exactly when they were met. -/
theorem mem_unmet {met : List Mark} {level : List Chain}
    (unique : ∀ chain ∈ level, ∀ other ∈ level, mark chain = mark other → chain = other)
    {chain : Chain} : chain ∈ unmet met level ↔ chain ∈ level ∧ mark chain ∉ met := by
  rw [mem_unmet_iff_find?, and_comm]
  refine and_congr_left fun _ => ⟨List.mem_of_find?_eq_some, fun member => ?_⟩
  cases first : level.find? (fun other => mark other = mark chain) with
  | none => simpa using List.find?_eq_none.1 first chain member
  | some other =>
    have same : mark other = mark chain := by simpa using List.find?_some first
    rw [unique other (List.mem_of_find?_eq_some first) chain member same]

/-- Where a search stands: the level is the chains of one length that lead to the
leaf, and those that were met are shorter. -/
structure Level (edges : List Edge) (leaf : TypeName) (length : Nat) (met : List Mark)
    (level : List Chain) : Prop where
  members : ∀ chain, chain ∈ level ↔ chain.LeadsTo edges leaf ∧ chain.length = length
  metShorter : ∀ chain, chain.LeadsTo edges leaf → mark chain ∈ met → chain.length < length

/-- A level of such chains is one. -/
theorem Level.leading {length : Nat} {met : List Mark} {level : List Chain}
    (stands : Level edges leaf length met level) : Leading edges leaf length level :=
  fun chain member => (stands.members chain).1 member

/-- The search begins with the chains of one edge. -/
theorem Level.first : Level edges leaf 1 [] ((edgesInto edges leaf).map ([·])) where
  members chain := by
    refine ⟨Leading.first chain, ?_⟩
    rintro ⟨leads, one⟩
    obtain ⟨edge, rfl⟩ := List.length_eq_one_iff.1 one
    exact List.mem_map.2 ⟨edge, mem_edgesInto.2 (Chain.LeadsTo.singleton_iff.1 leads), rfl⟩
  metShorter chain leads known := by simp at known

section Unique

variable (unique : ∀ chain other : Chain, chain.LeadsTo edges leaf → other.LeadsTo edges leaf →
  mark chain = mark other → chain = other)

include unique

/-- Nothing of a level is left out. -/
theorem Level.mem_unmet {length : Nat} {met : List Mark} {level : List Chain}
    (stands : Level edges leaf length met level) {chain : Chain} :
    chain ∈ unmet met level ↔ chain.LeadsTo edges leaf ∧ chain.length = length := by
  have uniqueLevel : ∀ chain ∈ level, ∀ other ∈ level, mark chain = mark other → chain = other := by
    intro chain member other member'
    have leads := ((stands.members chain).1 member).1
    have leads' := ((stands.members other).1 member').1
    exact unique chain other leads leads'
  rw [Closure.mem_unmet uniqueLevel, stands.members]
  constructor
  · rintro ⟨found, _⟩
    exact found
  · rintro ⟨leads, same⟩
    refine ⟨⟨leads, same⟩, fun known => ?_⟩
    have shorter := stands.metShorter chain leads known
    omega

/-- The extensions of a level are the next one. -/
theorem Level.next {length : Nat} {met : List Mark} {level : List Chain}
    (stands : Level edges leaf length met level) (positive : 0 < length) :
    Level edges leaf (length + 1) ((unmet met level).map mark ++ met)
      ((unmet met level).flatMap (extensions edges)) where
  members chain := by
    refine ⟨stands.leading.next met chain, ?_⟩
    rintro ⟨leads, longer⟩
    cases leads with
    | last declared ends => simp at longer; omega
    | above declared joins below =>
      have fresh := (stands.mem_unmet unique).2 ⟨below, by simpa using longer⟩
      exact List.mem_flatMap.2 ⟨_, fresh, mem_extensions.2 ⟨_, declared, _, _, rfl, joins, rfl⟩⟩
  metShorter chain leads known := by
    rcases List.mem_append.1 known with fresh | earlier
    · obtain ⟨found, member, same⟩ := List.mem_map.1 fresh
      obtain ⟨foundLeads, foundLength⟩ := (stands.mem_unmet unique).1 member
      have isFound : found = chain := unique found chain foundLeads leads same
      subst isFound
      omega
    · have shorter := stands.metShorter chain leads earlier
      omega

/-- A search of so many further levels finds exactly the chains that lead to the
leaf and are as long as one of these levels. -/
theorem Level.mem_climb {length above : Nat} {met : List Mark} {level : List Chain}
    (stands : Level edges leaf length met level) (positive : 0 < length) {chain : Chain} :
    chain ∈ climb edges above met level ↔
      chain.LeadsTo edges leaf ∧ length ≤ chain.length ∧ chain.length ≤ length + above := by
  refine ⟨stands.leading.of_mem_climb, ?_⟩
  rintro ⟨leads, least, most⟩
  induction above generalizing length met level with
  | zero =>
    rw [climb_zero, stands.mem_unmet unique]
    exact ⟨leads, by omega⟩
  | succ above inductionHypothesis =>
    rw [climb_succ, List.mem_append, stands.mem_unmet unique]
    by_cases same : chain.length = length
    · exact .inl ⟨leads, same⟩
    · exact .inr
        (inductionHypothesis (stands.next unique positive) (by omega) (by omega) (by omega))

/-- The closure finds exactly the chains to the leaf that the depth admits. -/
theorem mem_chains {depth : Nat} {chain : Chain} :
    chain ∈ chains edges depth leaf ↔
      chain.LeadsTo edges leaf ∧ chain.length ≤ max 1 depth := by
  rw [chains, Level.first.mem_climb unique Nat.one_pos]
  constructor
  · rintro ⟨leads, _, most⟩
    exact ⟨leads, by omega⟩
  · rintro ⟨leads, most⟩
    have positive := leads.length_pos
    exact ⟨leads, by omega, by omega⟩

end Unique

end Reindex.Closure
