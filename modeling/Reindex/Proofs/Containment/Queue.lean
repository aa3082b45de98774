import Reindex.Proofs.Containment.Soundness
import Mathlib.Algebra.GroupWithZero.Nat
import Mathlib.Algebra.Order.BigOperators.Group.List
import Mathlib.Logic.Relation

/-!
# The queue of the closure

The chains to a leaf are found by a loop over a queue. A round takes the chain in front
and passes it over if its mark was met before. Otherwise the chain is listed if it is a
route, and the chains that extend it go to the end of the queue, unless it is as long as
the depth admits. The loop is stated here round by round and without a bound, as what
takes and queues chains, and tied to the levels of the running definition.

That a mark is met once does not make the loop end: among embeddings that form a cycle
the chains, and with them the marks, grow without end. What ends it is the depth. A chain
counts for itself and for all that it may still bring into the queue, which is bounded by
the edges that there are and by the levels that the depth leaves above it, and a round
makes the queue count for less.

A chain is queued as an extension of the chain below it, and that one is taken once if it
is queued once. So from declarations without repetitions no chain is queued twice.
-/

namespace Reindex

/-- The hops over the edges of a chain. -/
def Chain.hops (chain : Chain) : List Hop := chain.map Edge.hop

namespace Closure

/-- How far the loop is: the chains that it took and those that wait, the marks that it
met, and the routes that it found. -/
structure Progress where
  taken : List Chain
  waiting : List Chain
  met : List Mark
  routes : List ContainmentPath

namespace Progress

/-- The chains that were queued so far. -/
def queued (progress : Progress) : List Chain := progress.taken ++ progress.waiting

/-- At first the edges into the leaf wait. -/
def start (registry : Registry) (leaf : TypeName) : Progress :=
  ⟨[], (edgesInto registry.edges leaf).map ([·]), [], []⟩

end Progress

/-- The chains that go to the end of the queue when a chain is new. -/
def brought (edges : List Edge) (depth : Nat) (chain : Chain) : List Chain :=
  if depth ≤ chain.length then [] else extensions edges chain

/-- As long as a chain waits, the one in front is taken. -/
inductive Round (registry : Registry) (depth : Nat) (leaf : TypeName) : Progress → Progress → Prop
  | known {taken waiting : List Chain} {met : List Mark} {routes : List ContainmentPath}
      {chain : Chain} (known : mark chain ∈ met) :
      Round registry depth leaf ⟨taken, chain :: waiting, met, routes⟩
        ⟨taken ++ [chain], waiting, met, routes⟩
  | fresh {taken waiting : List Chain} {met : List Mark} {routes : List ContainmentPath}
      {chain : Chain} (fresh : mark chain ∉ met) :
      Round registry depth leaf ⟨taken, chain :: waiting, met, routes⟩
        ⟨taken ++ [chain], waiting ++ brought registry.edges depth chain, mark chain :: met,
          routes ++ (ContainmentPath.ofChain? registry leaf chain).toList⟩

/-- Any number of rounds. -/
abbrev Rounds (registry : Registry) (depth : Nat) (leaf : TypeName) : Progress → Progress → Prop :=
  Relation.ReflTransGen (Round registry depth leaf)

variable {edges : List Edge} {registry : Registry} {depth : Nat} {leaf : TypeName}
  {before after other reached : Progress} {chain : Chain}

/-- What a round does is determined. -/
theorem Round.unique (round : Round registry depth leaf before after)
    (round' : Round registry depth leaf before other) : after = other := by
  cases round with
  | known known =>
    cases round' with
    | known => rfl
    | fresh fresh => exact absurd known fresh
  | fresh fresh =>
    cases round' with
    | known known => exact absurd known fresh
    | fresh => rfl

/-! ## The loop ends -/

/-- What a chain counts for with room for so many edges above it: itself, and for each edge
that it may be extended by what it counts for then. -/
def weight (branches : Nat) : Nat → Nat
  | 0 => 1
  | room + 1 => 1 + branches * weight branches room

/-- What the chains of a queue count for. -/
def load (edges : List Edge) (depth : Nat) (waiting : List Chain) : Nat :=
  (waiting.map fun chain => weight edges.length (depth - chain.length)).sum

/-- A queue counts for what its parts count for. -/
theorem load_append {waiting later : List Chain} :
    load edges depth (waiting ++ later) = load edges depth waiting + load edges depth later := by
  rw [load, List.map_append, List.sum_append, load, load]

/-- There are no more extensions than edges, and each is one edge longer. -/
theorem load_extensions_le (edges : List Edge) (depth : Nat) (chain : Chain) :
    load edges depth (extensions edges chain) ≤
      edges.length * weight edges.length (depth - (chain.length + 1)) := by
  have few : (extensions edges chain).length ≤ edges.length := by
    unfold extensions
    split
    · exact Nat.zero_le _
    · rw [List.length_map]
      exact List.length_filter_le _ _
  have each : ∀ counted ∈ (extensions edges chain).map fun extended =>
      weight edges.length (depth - extended.length),
        counted ≤ weight edges.length (depth - (chain.length + 1)) := by
    intro counted member
    obtain ⟨extended, extension, rfl⟩ := List.mem_map.1 member
    obtain ⟨edge, -, next, rest, -, -, rfl⟩ := mem_extensions.1 extension
    rw [List.length_cons]
  calc load edges depth (extensions edges chain)
      ≤ (extensions edges chain).length * weight edges.length (depth - (chain.length + 1)) := by
        simpa [load] using List.sum_le_card_nsmul _ _ each
    _ ≤ edges.length * weight edges.length (depth - (chain.length + 1)) :=
        Nat.mul_le_mul_right _ few

/-- A chain counts for more than all that it brings into the queue. -/
theorem load_brought_lt (edges : List Edge) (depth : Nat) (chain : Chain) :
    load edges depth (brought edges depth chain) <
      weight edges.length (depth - chain.length) := by
  unfold brought
  split
  · rename_i full
    rw [Nat.sub_eq_zero_of_le full]
    exact Nat.one_pos
  · rename_i room
    have levels : depth - chain.length = depth - (chain.length + 1) + 1 := by omega
    have most := load_extensions_le edges depth chain
    rw [levels, weight]
    omega

/-- So a round makes the queue count for less, -/
theorem Round.load_lt (round : Round registry depth leaf before after) :
    load registry.edges depth after.waiting < load registry.edges depth before.waiting := by
  have taken (chain : Chain) (waiting : List Chain) :
      load registry.edges depth (chain :: waiting) =
        weight registry.edges.length (depth - chain.length) + load registry.edges depth waiting :=
    List.sum_cons
  cases round with
  | @known _ waiting _ _ chain known =>
    have more := load_brought_lt registry.edges depth chain
    simp only [taken]
    omega
  | @fresh _ waiting _ _ chain fresh =>
    have more := load_brought_lt registry.edges depth chain
    simp only [taken, load_append]
    omega

/-- and no rounds go on forever. -/
theorem wellFounded_round :
    WellFounded fun after before => Round registry depth leaf before after :=
  Subrelation.wf Round.load_lt
    (measure fun progress : Progress => load registry.edges depth progress.waiting).wf

/-! ## What the loop queues -/

/-- What holds of the queued chains before each round and after it. -/
structure Orderly (registry : Registry) (depth : Nat) (leaf : TypeName)
    (progress : Progress) : Prop where
  /-- They lead to the leaf, -/
  leads : ∀ chain ∈ progress.queued, chain.LeadsTo registry.edges leaf
  /-- within the depth, -/
  bounded : ∀ chain ∈ progress.queued, chain.length ≤ max 1 depth
  /-- and the chain that one extends was taken before it was queued. -/
  extended : ∀ edge next rest,
    edge :: next :: rest ∈ progress.queued → next :: rest ∈ progress.taken

/-- What a chain brings into the queue are chains one edge longer, within the depth. -/
theorem mem_brought {longer : Chain} (member : longer ∈ brought edges depth chain) :
    chain.length < depth ∧ longer ∈ extensions edges chain := by
  unfold brought at member
  split at member
  · cases member
  · rename_i room
    exact ⟨Nat.lt_of_not_le room, member⟩

/-- Before the first round single edges are queued. -/
theorem orderly_start : Orderly registry depth leaf (.start registry leaf) where
  leads chain member := (Leading.first chain member).1
  bounded chain member := by
    have one := (Leading.first chain member).2
    omega
  extended edge next rest member := by
    have one := (Leading.first _ member).2
    simp at one

/-- A round takes the chain in front, and queues what it brings or nothing. -/
theorem Round.queues (round : Round registry depth leaf before after) :
    ∃ chain waiting, before.waiting = chain :: waiting ∧ after.taken = before.taken ++ [chain] ∧
      (after.queued = before.queued ∨
        after.queued = before.queued ++ brought registry.edges depth chain) := by
  cases round with
  | @known taken waiting _ _ chain known =>
    exact ⟨chain, waiting, rfl, rfl, .inl (by simp [Progress.queued])⟩
  | @fresh taken waiting _ _ chain fresh =>
    exact ⟨chain, waiting, rfl, rfl, .inr (by simp [Progress.queued])⟩

/-- A round keeps all that. -/
theorem Orderly.round (orderly : Orderly registry depth leaf before)
    (round : Round registry depth leaf before after) : Orderly registry depth leaf after := by
  obtain ⟨chain, waiting, front, took, queued⟩ := round.queues
  have here : chain ∈ before.queued := by simp [Progress.queued, front]
  have either : ∀ other ∈ after.queued,
      other ∈ before.queued ∨ other ∈ brought registry.edges depth chain := by
    intro other member
    rcases queued with same | more
    · exact .inl (same ▸ member)
    · exact List.mem_append.1 (more ▸ member)
  constructor
  · intro other member
    rcases either other member with earlier | new
    · exact orderly.leads other earlier
    · obtain ⟨edge, declared, next, rest, rfl, joins, rfl⟩ := mem_extensions.1 (mem_brought new).2
      exact .above declared joins (orderly.leads _ here)
  · intro other member
    rcases either other member with earlier | new
    · exact orderly.bounded other earlier
    · obtain ⟨room, extension⟩ := mem_brought new
      obtain ⟨edge, -, next, rest, -, -, rfl⟩ := mem_extensions.1 extension
      rw [List.length_cons]
      omega
  · intro edge next rest member
    rw [took]
    rcases either _ member with earlier | new
    · exact List.mem_append_left _ (orderly.extended edge next rest earlier)
    · obtain ⟨_, -, _, _, -, -, same⟩ := mem_extensions.1 (mem_brought new).2
      rw [(List.cons.inj same).2]
      exact List.mem_append_right _ (List.mem_singleton.2 rfl)

/-- So do any number of rounds. -/
theorem Rounds.orderly (rounds : Rounds registry depth leaf (.start registry leaf) reached) :
    Orderly registry depth leaf reached := by
  induction rounds with
  | refl => exact orderly_start
  | tail _ round inductionHypothesis => exact inductionHypothesis.round round

/-! ## No chain is queued twice -/

section Distinct

variable (distinct : (registry.edges.map Edge.hop).Nodup)

include distinct

/-- Distinct edges into a type make distinct chains with what is below them. -/
theorem nodup_hops_into (target : TypeName) (below : Chain) :
    ((edgesInto registry.edges target).map fun edge => Chain.hops (edge :: below)).Nodup := by
  have into : ((edgesInto registry.edges target).map Edge.hop).Nodup :=
    distinct.sublist (List.filter_sublist.map _)
  have longer := into.map (f := (· :: below.hops)) fun _ _ same => (List.cons.inj same).1
  rwa [List.map_map] at longer

/-- What a chain brings into the queue are distinct chains. -/
theorem nodup_hops_brought : ((brought registry.edges depth chain).map Chain.hops).Nodup := by
  unfold brought
  split
  · exact List.nodup_nil
  · unfold extensions
    split
    · exact List.nodup_nil
    · rename_i top _
      rw [List.map_map]
      exact nodup_hops_into distinct top chain

/-- A round queues no chain that was queued before. Of such a chain the part below the top
edge was taken, while the chain that a round takes is queued once and not taken yet. -/
theorem Round.nodup_hops (orderly : Orderly registry depth leaf before)
    (once : (before.queued.map Chain.hops).Nodup) (round : Round registry depth leaf before after) :
    (after.queued.map Chain.hops).Nodup := by
  obtain ⟨chain, waiting, front, took, same | more⟩ := round.queues
  · rwa [same]
  · rw [more, List.map_append, List.nodup_append]
    refine ⟨once, nodup_hops_brought distinct, ?_⟩
    rintro hops earlier _ later rfl
    obtain ⟨longer, new, same⟩ := List.mem_map.1 later
    obtain ⟨other, member, rfl⟩ := List.mem_map.1 earlier
    obtain ⟨edge, declared, next, rest, rfl, joins, rfl⟩ := mem_extensions.1 (mem_brought new).2
    -- the earlier chain extends one with the hops of the chain that is taken now
    cases other with
    | nil => simp [Chain.hops] at same
    | cons edge' below =>
      cases below with
      | nil => simp [Chain.hops] at same
      | cons next' rest' =>
        have taken := orderly.extended edge' next' rest' member
        have below : Chain.hops (next' :: rest') = Chain.hops (next :: rest) :=
          (List.cons.inj same).2.symm
        rw [Progress.queued, front, List.map_append, List.nodup_append] at once
        exact once.2.2 _ (List.mem_map_of_mem taken) _ (List.mem_map_of_mem List.mem_cons_self)
          below

/-- So no chain is queued twice. -/
theorem Rounds.nodup_hops (rounds : Rounds registry depth leaf (.start registry leaf) reached) :
    (reached.queued.map Chain.hops).Nodup := by
  induction rounds with
  | refl =>
    rw [Progress.queued, Progress.start, List.nil_append, List.map_map]
    exact nodup_hops_into distinct leaf []
  | tail rounds round inductionHypothesis =>
    exact round.nodup_hops distinct (Rounds.orderly rounds) inductionHypothesis

end Distinct

/-! ## The end of the loop -/

/-- Which marks were met counts, and not in which order. -/
theorem unmet_congr {met met' : List Mark} (same : ∀ mark, mark ∈ met ↔ mark ∈ met')
    (level : List Chain) : unmet met level = unmet met' level := by
  induction level generalizing met met' with
  | nil => rfl
  | cons chain rest inductionHypothesis =>
    rw [unmet, unmet]
    by_cases known : mark chain ∈ met
    · rw [if_pos known, if_pos ((same _).1 known), inductionHypothesis same]
    · rw [if_neg known, if_neg (mt (same _).2 known), inductionHypothesis]
      simp [same]

/-- So it is for a search. -/
theorem climb_congr {met met' : List Mark} (same : ∀ mark, mark ∈ met ↔ mark ∈ met') (above : Nat)
    (level : List Chain) : climb edges above met level = climb edges above met' level := by
  induction above generalizing met met' level with
  | zero => rw [climb_zero, climb_zero, unmet_congr same]
  | succ above inductionHypothesis =>
    rw [climb_succ, climb_succ, unmet_congr same, inductionHypothesis]
    simp [same]

/-- The rounds that take the chains of a level keep the new ones, as a level does, and queue
what these bring behind what waits already. -/
theorem rounds_through_level (taken level later : List Chain) (met : List Mark)
    (routes : List ContainmentPath) :
    Rounds registry depth leaf ⟨taken, level ++ later, met, routes⟩
      ⟨taken ++ level, later ++ (unmet met level).flatMap (brought registry.edges depth),
        ((unmet met level).map mark).reverse ++ met,
        routes ++ (unmet met level).filterMap (ContainmentPath.ofChain? registry leaf)⟩ := by
  induction level generalizing taken later met routes with
  | nil =>
    simp only [unmet, List.nil_append, List.append_nil, List.flatMap_nil, List.map_nil,
      List.reverse_nil, List.filterMap_nil]
    exact .refl
  | cons chain rest inductionHypothesis =>
    rw [unmet]
    by_cases known : mark chain ∈ met
    · rw [if_pos known]
      have round : Round registry depth leaf ⟨taken, chain :: (rest ++ later), met, routes⟩ _ :=
        .known known
      have further := inductionHypothesis (taken ++ [chain]) later met routes
      rw [List.append_assoc] at further
      exact .head round further
    · rw [if_neg known]
      have round : Round registry depth leaf ⟨taken, chain :: (rest ++ later), met, routes⟩ _ :=
        .fresh known
      have further := inductionHypothesis (taken ++ [chain])
        (later ++ brought registry.edges depth chain) (mark chain :: met)
        (routes ++ (ContainmentPath.ofChain? registry leaf chain).toList)
      have listed : (chain :: unmet (mark chain :: met) rest).filterMap
          (ContainmentPath.ofChain? registry leaf) =
            (ContainmentPath.ofChain? registry leaf chain).toList ++
              (unmet (mark chain :: met) rest).filterMap
                (ContainmentPath.ofChain? registry leaf) := by
        rw [List.filterMap_cons]
        cases ContainmentPath.ofChain? registry leaf chain <;> rfl
      rw [listed, List.flatMap_cons, List.map_cons, List.reverse_cons, ← List.append_assoc later,
        ← List.append_assoc routes, List.append_assoc _ [mark chain]]
      rw [List.append_assoc] at further
      rw [List.append_assoc] at round
      exact .head round further

/-- From a level, the rounds go on to the end of the search. -/
theorem rounds_of_climb {length above : Nat} {level : List Chain}
    (leading : Leading registry.edges leaf length level) (positive : 0 < length)
    (admits : length + above = max 1 depth) (taken : List Chain) (met : List Mark)
    (routes : List ContainmentPath) :
    ∃ ending, Rounds registry depth leaf ⟨taken, level, met, routes⟩ ending ∧
      ending.waiting = [] ∧
      ending.routes = routes ++ (climb registry.edges above met level).filterMap
        (ContainmentPath.ofChain? registry leaf) := by
  induction above generalizing length level taken met routes with
  | zero =>
    have nothing : (unmet met level).flatMap (brought registry.edges depth) = [] := by
      refine List.flatMap_eq_nil_iff.2 fun chain member => ?_
      have sized := (leading chain (mem_of_mem_unmet member)).2
      exact if_pos (by omega)
    have through : Rounds registry depth leaf ⟨taken, level ++ [], met, routes⟩ _ :=
      rounds_through_level taken level [] met routes
    rw [List.append_nil, List.nil_append, nothing] at through
    exact ⟨_, through, rfl, by rw [climb_zero]⟩
  | succ above inductionHypothesis =>
    have next : (unmet met level).flatMap (brought registry.edges depth) =
        (unmet met level).flatMap (extensions registry.edges) := by
      refine List.flatMap_congr fun chain member => ?_
      have sized := (leading chain (mem_of_mem_unmet member)).2
      exact if_neg (by omega)
    have through : Rounds registry depth leaf ⟨taken, level ++ [], met, routes⟩ _ :=
      rounds_through_level taken level [] met routes
    rw [List.append_nil, List.nil_append, next] at through
    obtain ⟨ending, further, empty, listed⟩ :=
      inductionHypothesis (leading.next met) (Nat.succ_pos _) (by omega) _ _ _
    refine ⟨ending, through.trans further, empty, ?_⟩
    rw [listed, climb_succ, List.filterMap_append, List.append_assoc, climb_congr]
    simp

/-- However far the loop has come, it goes on until nothing waits, and then it has found the
routes that the closure lists. -/
theorem rounds_to_end (rounds : Rounds registry depth leaf (.start registry leaf) reached) :
    ∃ ending, Rounds registry depth leaf reached ending ∧ ending.waiting = [] ∧
      ending.routes = (chains registry.edges depth leaf).filterMap
        (ContainmentPath.ofChain? registry leaf) := by
  have admits : 1 + (depth - 1) = max 1 depth := by omega
  obtain ⟨ending, whole, empty, listed⟩ := rounds_of_climb Leading.first Nat.one_pos admits [] [] []
  refine ⟨ending, ?_, empty, listed⟩
  have determined : Relator.RightUnique (Round registry depth leaf) :=
    fun _ _ _ round round' => round.unique round'
  rcases Relation.ReflTransGen.total_of_right_unique determined rounds whole with further | back
  · exact further
  · -- no round begins at the end
    rcases Relation.ReflTransGen.cases_head back with same | ⟨next, round, -⟩
    · exact same ▸ .refl
    · obtain ⟨chain, waiting, front, -⟩ := round.queues
      rw [empty] at front
      cases front

end Closure

/-- The loop over the queue ends for every registry, also where embeddings form cycles, for
every leaf and every depth. No rounds go on forever, and however far they have come, they go
on until nothing waits and the routes to the leaf are found. Until then, no chain is queued
that is longer than the depth, one edge being always admitted, and none is queued twice
unless the registry declares an embedding twice. -/
theorem closure_loop_ends (registry : Registry) (depth : Nat) (leaf : TypeName) :
    (WellFounded fun after before => Closure.Round registry depth leaf before after) ∧
    ∀ reached, Closure.Rounds registry depth leaf (.start registry leaf) reached →
      (∃ ending, Closure.Rounds registry depth leaf reached ending ∧ ending.waiting = [] ∧
        Ordered.sortBy ContainmentPath.mayPrecede ending.routes =
          (ContainmentGraph.build registry depth).pathsFor leaf) ∧
      (∀ chain ∈ reached.queued, chain.length ≤ max 1 depth) ∧
      ((registry.edges.map Edge.hop).Nodup → (reached.queued.map Chain.hops).Nodup) := by
  refine ⟨Closure.wellFounded_round, fun reached rounds => ⟨?_, ?_, ?_⟩⟩
  · obtain ⟨ending, further, empty, found⟩ := Closure.rounds_to_end rounds
    refine ⟨ending, further, empty, ?_⟩
    rw [found, ContainmentGraph.pathsFor_build, ContainmentGraph.routesTo]
  · exact (Closure.Rounds.orderly rounds).bounded
  · intro distinct
    exact Closure.Rounds.nodup_hops distinct rounds

namespace Library

/-- The queue for authors when the first chain was taken. -/
def booksTaken : Closure.Progress where
  taken := [[writtenBy]]
  waiting := [taughtBy] :: Closure.brought registry.edges 3 [writtenBy]
  met := [Closure.mark [writtenBy]]
  routes := (ContainmentPath.ofChain? registry "Author" [writtenBy]).toList

/-- Authors embed their mentors, who are authors; the queue runs out all the same. -/
theorem mentors_run_out :
    Closure.Rounds registry 3 "Author" (.start registry "Author") booksTaken ∧
    (registry.edges.map Edge.hop).Nodup ∧
    (∃ ending, Closure.Rounds registry 3 "Author" booksTaken ending ∧ ending.waiting = [] ∧
      Ordered.sortBy ContainmentPath.mayPrecede ending.routes =
        (ContainmentGraph.build registry 3).pathsFor "Author") ∧
    (booksTaken.queued.map Chain.hops).Nodup := by
  have first : Closure.Round registry 3 "Author" (.start registry "Author") booksTaken :=
    .fresh List.not_mem_nil
  have distinct : (registry.edges.map Edge.hop).Nodup :=
    List.Nodup.of_map Hop.containing (by decide)
  obtain ⟨-, ends⟩ := closure_loop_ends registry 3 "Author"
  obtain ⟨ending, -, once⟩ := ends booksTaken (.single first)
  exact ⟨.single first, distinct, ending, once distinct⟩

end Library

end Reindex
