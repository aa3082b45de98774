import Reindex.Containment.Closure
import Reindex.Proofs.Containment.Labels

/-!
# The search for chains

What the search does whatever the declarations are. From each level it keeps the
first chain with each mark, unless the mark was met on the way, so no mark is listed
twice. Each level extends what was kept of the one below it by a declared edge into
its top: everything listed leads to the leaf, along declared edges, and is as long as
the level that it was found on. A chain of a single edge is therefore listed exactly
when its edge is the first one into the leaf with its owner and its property.
-/

namespace Reindex.Closure

variable {edges : List Edge} {leaf : TypeName}

/-- An edge into a type is a declared one that ends there. -/
theorem mem_edgesInto {edge : Edge} {target : TypeName} :
    edge ∈ edgesInto edges target ↔ edge ∈ edges ∧ edge.embedding.target = target := by
  simp [edgesInto]

/-- A chain is extended by every edge that ends at its top. -/
theorem mem_extensions {base chain : Chain} :
    chain ∈ extensions edges base ↔
      ∃ edge ∈ edges, ∃ next rest, base = next :: rest ∧ edge.embedding.target = next.owner ∧
        chain = edge :: base := by
  cases base with
  | nil => simp [extensions, Chain.top?]
  | cons next rest =>
    simp only [extensions, Chain.top?, List.head?_cons, Option.map_some, List.mem_map,
      mem_edgesInto]
    constructor
    · rintro ⟨edge, ⟨declared, joins⟩, rfl⟩
      exact ⟨edge, declared, next, rest, rfl, joins, rfl⟩
    · rintro ⟨edge, declared, next', rest', same, joins, rfl⟩
      obtain ⟨rfl, rfl⟩ := List.cons.inj same
      exact ⟨edge, ⟨declared, joins⟩, rfl⟩

/-- On its last level a search extends nothing. -/
theorem climb_zero {met : List Mark} {level : List Chain} :
    climb edges 0 met level = unmet met level := by
  cases level with
  | nil => rw [climb, unmet]
  | cons chain rest => rw [climb]; simp

/-- Below it the new chains are listed and extended, also when there are none. -/
theorem climb_succ {above : Nat} {met : List Mark} {level : List Chain} :
    climb edges (above + 1) met level =
      unmet met level ++ climb edges above ((unmet met level).map mark ++ met)
        ((unmet met level).flatMap (extensions edges)) := by
  cases level with
  | nil => simp [climb, unmet]
  | cons chain rest => rw [climb]; simp

/-! ## What a level keeps -/

/-- A chain is kept when its mark was not met and the level lists no other chain with
this mark before it. -/
theorem mem_unmet_iff_find? {met : List Mark} {level : List Chain} {chain : Chain} :
    chain ∈ unmet met level ↔
      mark chain ∉ met ∧ level.find? (fun other => mark other = mark chain) = some chain := by
  induction level generalizing met with
  | nil => simp [unmet]
  | cons head rest inductionHypothesis =>
    rw [unmet]
    by_cases known : mark head ∈ met
    · rw [if_pos known, inductionHypothesis]
      refine and_congr_right fun fresh => ?_
      have other : mark head ≠ mark chain := fun same => fresh (same ▸ known)
      rw [List.find?_cons_of_neg (by simpa using other)]
    · rw [if_neg known, List.mem_cons, inductionHypothesis, List.mem_cons, not_or]
      by_cases same : mark head = mark chain
      · rw [List.find?_cons_of_pos (by simpa using same)]
        constructor
        · rintro (rfl | ⟨⟨differs, _⟩, _⟩)
          · exact ⟨known, rfl⟩
          · exact absurd same.symm differs
        · rintro ⟨_, found⟩
          exact .inl (Option.some.inj found).symm
      · rw [List.find?_cons_of_neg (by simpa using same)]
        constructor
        · rintro (rfl | ⟨⟨_, fresh⟩, found⟩)
          · exact absurd rfl same
          · exact ⟨fresh, found⟩
        · rintro ⟨fresh, found⟩
          exact .inr ⟨⟨Ne.symm same, fresh⟩, found⟩

/-- Leaving out what was met adds nothing. -/
theorem mem_of_mem_unmet {met : List Mark} {level : List Chain} {chain : Chain}
    (fresh : chain ∈ unmet met level) : chain ∈ level :=
  List.mem_of_find?_eq_some (mem_unmet_iff_find?.1 fresh).2

/-- Two chains that are kept have two marks. -/
theorem nodup_unmet {met : List Mark} {level : List Chain} :
    ((unmet met level).map mark).Nodup := by
  induction level generalizing met with
  | nil => simp [unmet]
  | cons head rest inductionHypothesis =>
    rw [unmet]
    split
    · exact inductionHypothesis
    · rw [List.map_cons, List.nodup_cons]
      refine ⟨?_, inductionHypothesis⟩
      intro repeated
      obtain ⟨later, member, same⟩ := List.mem_map.1 repeated
      exact (mem_unmet_iff_find?.1 member).1 (same ▸ List.mem_cons_self)

/-! ## What a search lists -/

/-- A search lists nothing that was met before it began. -/
theorem mark_of_mem_climb {above : Nat} {met : List Mark} {level : List Chain} {chain : Chain}
    (found : chain ∈ climb edges above met level) : mark chain ∉ met := by
  induction above generalizing met level with
  | zero =>
    rw [climb_zero] at found
    exact (mem_unmet_iff_find?.1 found).1
  | succ above inductionHypothesis =>
    rw [climb_succ] at found
    rcases List.mem_append.1 found with fresh | later
    · exact (mem_unmet_iff_find?.1 fresh).1
    · exact fun known => inductionHypothesis later (List.mem_append_right _ known)

/-- A search lists no mark twice: higher up it leaves out what it has listed. -/
theorem nodup_climb {above : Nat} {met : List Mark} {level : List Chain} :
    ((climb edges above met level).map mark).Nodup := by
  induction above generalizing met level with
  | zero =>
    rw [climb_zero]
    exact nodup_unmet
  | succ above inductionHypothesis =>
    rw [climb_succ, List.map_append, List.nodup_append]
    refine ⟨nodup_unmet, inductionHypothesis, ?_⟩
    rintro listed member later repeated rfl
    obtain ⟨chain, found, rfl⟩ := List.mem_map.1 repeated
    exact mark_of_mem_climb found (List.mem_append_left _ member)

/-- The closure lists no mark twice. -/
theorem nodup_chains {depth : Nat} : ((chains edges depth leaf).map mark).Nodup :=
  nodup_climb

/-- Chains of one length that lead to the leaf. -/
def Leading (edges : List Edge) (leaf : TypeName) (length : Nat) (level : List Chain) : Prop :=
  ∀ chain ∈ level, chain.LeadsTo edges leaf ∧ chain.length = length

/-- A search begins with chains of one edge, -/
theorem Leading.first : Leading edges leaf 1 ((edgesInto edges leaf).map ([·])) := by
  intro chain member
  obtain ⟨edge, into, rfl⟩ := List.mem_map.1 member
  obtain ⟨declared, ends⟩ := mem_edgesInto.1 into
  exact ⟨.last declared ends, rfl⟩

/-- and each level above has one edge more. -/
theorem Leading.next {length : Nat} {level : List Chain} (leading : Leading edges leaf length level)
    (met : List Mark) :
    Leading edges leaf (length + 1) ((unmet met level).flatMap (extensions edges)) := by
  intro chain member
  obtain ⟨base, fresh, extension⟩ := List.mem_flatMap.1 member
  obtain ⟨leads, same⟩ := leading base (mem_of_mem_unmet fresh)
  obtain ⟨edge, declared, next, rest, rfl, joins, rfl⟩ := mem_extensions.1 extension
  exact ⟨.above declared joins leads, by simpa using same⟩

/-- Everything that a search lists leads to the leaf and is as long as one of its
levels. -/
theorem Leading.of_mem_climb {length above : Nat} {met : List Mark} {level : List Chain}
    (leading : Leading edges leaf length level) {chain : Chain}
    (found : chain ∈ climb edges above met level) :
    chain.LeadsTo edges leaf ∧ length ≤ chain.length ∧ chain.length ≤ length + above := by
  induction above generalizing length met level with
  | zero =>
    rw [climb_zero] at found
    obtain ⟨leads, same⟩ := leading chain (mem_of_mem_unmet found)
    exact ⟨leads, by omega, by omega⟩
  | succ above inductionHypothesis =>
    rw [climb_succ] at found
    rcases List.mem_append.1 found with fresh | later
    · obtain ⟨leads, same⟩ := leading chain (mem_of_mem_unmet fresh)
      exact ⟨leads, by omega, by omega⟩
    · obtain ⟨leads, least, most⟩ := inductionHypothesis (leading.next met) later
      exact ⟨leads, by omega, by omega⟩

/-- On its own level a search lists what the level keeps. -/
theorem Leading.mem_climb_iff {length above : Nat} {met : List Mark} {level : List Chain}
    (leading : Leading edges leaf length level) {chain : Chain} (sized : chain.length = length) :
    chain ∈ climb edges above met level ↔ chain ∈ unmet met level := by
  cases above with
  | zero => rw [climb_zero]
  | succ above =>
    rw [climb_succ, List.mem_append, or_iff_left]
    intro later
    obtain ⟨-, longer, -⟩ := (leading.next met).of_mem_climb later
    omega

/-- The closure lists chains that lead to the leaf and that the depth admits. -/
theorem leads_of_mem_chains {depth : Nat} {chain : Chain}
    (found : chain ∈ chains edges depth leaf) :
    chain.LeadsTo edges leaf ∧ chain.length ≤ max 1 depth := by
  obtain ⟨leads, -, most⟩ := Leading.first.of_mem_climb found
  exact ⟨leads, by omega⟩

/-- Single edges share a mark when they share the owner and the property: with one
owner, the labels differ only after the dot. -/
theorem mark_singleton_eq_iff {edge other : Edge} :
    mark [other] = mark [edge] ↔
      other.owner = edge.owner ∧ other.embedding.property = edge.embedding.property := by
  have marked : ∀ edge : Edge, mark [edge] = (some edge.owner, edge.label) := fun _ => rfl
  rw [marked, marked, Prod.mk.injEq, Option.some.injEq]
  refine and_congr_right fun owner => ?_
  rw [← String.toList_inj, Edge.toList_label, Edge.toList_label, owner, List.append_cancel_left_eq,
    List.cons.injEq, String.toList_inj]
  exact and_iff_right rfl

/-- A single edge is listed when it is the first one into the leaf with its owner and
its property. -/
theorem singleton_mem_chains {depth : Nat} {edge : Edge} :
    [edge] ∈ chains edges depth leaf ↔
      (edgesInto edges leaf).find? (fun other =>
        other.owner = edge.owner ∧ other.embedding.property = edge.embedding.property) =
          some edge := by
  rw [chains, Leading.first.mem_climb_iff rfl, mem_unmet_iff_find?, List.find?_map]
  simp only [Function.comp_def, mark_singleton_eq_iff, List.not_mem_nil, not_false_eq_true,
    true_and, Option.map_eq_some_iff, List.cons.injEq, and_true, exists_eq_right]

/-- Nothing is found above a type that no edge ends at. -/
theorem chains_eq_nil {depth : Nat} (untargeted : ∀ edge ∈ edges, edge.embedding.target ≠ leaf) :
    chains edges depth leaf = [] := by
  have none : edgesInto edges leaf = [] := by
    simpa [edgesInto] using untargeted
  cases depth - 1 <;> simp [chains, none, climb]

end Reindex.Closure
