import Reindex.Proofs.Containment.Roots
import Reindex.Proofs.Containment.Soundness

/-!
# Asking for the roots of a change

What the roots of a change are and what is asked to find them go together. Either no stream
of a triggered route breaks off, then every triggered route is asked for and the answer
lists what the change reaches; or one does, then the search stops at the first such stream
and says which one it was.

A list in strict order is determined by its members, so an answer without an error does not
show in which order the roots were streamed, nor how often, nor by which of the routes.
-/

namespace Reindex

namespace ContainmentGraph

/-- What a change may be told about its roots, and what is asked until then. -/
inductive Answer (graph : ContainmentGraph) (loader : RootLoader) (changed : EntityKey)
    (paths : Option PathSet) : Except IndexingError (List EntityKey) → List Request → Prop
  /-- The roots that the change reaches, in strict order. -/
  | roots {roots : List EntityKey} (unbroken : graph.Unbroken loader changed paths)
      (increasing : Ordered.Increasing roots)
      (exact : ∀ root, root ∈ roots ↔ graph.Reaches loader changed paths root) :
      Answer graph loader changed paths (.ok roots)
        ((graph.triggered changed.type paths).map (.roots changed))
  /-- The first error of the first stream that breaks off. No later route is asked for. -/
  | broken {earlier later : List ContainmentPath} {path : ContainmentPath}
      {before after : List (Except String EntityKey)} {text : String}
      (routes : graph.triggered changed.type paths = earlier ++ path :: later)
      (unbroken : ∀ other ∈ earlier, ∀ text, .error text ∉ loader changed other)
      (stream : loader changed path = before ++ .error text :: after)
      (first : ∀ text, .error text ∉ before) :
      Answer graph loader changed paths
        (.error (.loaderFailure changed (path.descriptor ++ ": " ++ text)))
        ((earlier ++ [path]).map (.roots changed))

variable {graph : ContainmentGraph} {loader : RootLoader} {changed : EntityKey}
  {paths : Option PathSet} {result : Except IndexingError (List EntityKey)}
  {requests : List Request}

/-- What is required of a change is such an answer. -/
theorem answer_requiredRoots (graph : ContainmentGraph) (loader : RootLoader)
    (changed : EntityKey) (paths : Option PathSet) :
    graph.Answer loader changed paths (graph.requiredRoots loader changed paths).1
      (graph.requiredRoots loader changed paths).2 := by
  by_cases unbroken : graph.Unbroken loader changed paths
  · obtain ⟨roots, required, increasing, exact⟩ := exists_roots_of_unbroken unbroken
    rw [required]
    exact .roots unbroken increasing exact
  · obtain ⟨earlier, path, later, routes, unbroken, before, text, after, stream, first⟩ :=
      first_broken unbroken
    rw [requiredRoots_of_broken routes unbroken stream first]
    exact .broken routes unbroken stream first

/-- The triggered routes are asked for one after the other, none passed over. -/
theorem Answer.inOrder (answer : graph.Answer loader changed paths result requests) :
    requests <+: (graph.triggered changed.type paths).map (.roots changed) := by
  cases answer with
  | roots unbroken increasing exact => exact List.prefix_refl _
  | @broken earlier later path _ _ _ routes =>
    refine List.IsPrefix.map _ ⟨later, ?_⟩
    rw [routes, List.append_assoc, List.singleton_append]

/-- A built graph lists no route twice, -/
theorem nodup_pathsFor {registry : Registry} {depth : Nat} {leaf : TypeName} :
    ((build registry depth).pathsFor leaf).Nodup :=
  nodup_hops.of_map

/-- so no question is put twice. -/
theorem Answer.nodup {registry : Registry} {depth : Nat}
    (answer : (build registry depth).Answer loader changed paths result requests) :
    requests.Nodup := by
  have distinct : ((build registry depth).triggered changed.type paths).Nodup :=
    nodup_pathsFor.sublist List.filter_sublist
  have questions : (((build registry depth).triggered changed.type paths).map
      (Request.roots changed)).Nodup :=
    distinct.map fun path other same => by injection same
  exact questions.sublist answer.inOrder.sublist

/-- When no stream breaks off, the answer lists the roots and everything was asked. -/
theorem Answer.roots_of_unbroken (answer : graph.Answer loader changed paths result requests)
    (unbroken : graph.Unbroken loader changed paths) :
    ∃ roots, result = .ok roots ∧ Ordered.Increasing roots ∧
      (∀ root, root ∈ roots ↔ graph.Reaches loader changed paths root) ∧
      requests = (graph.triggered changed.type paths).map (.roots changed) := by
  cases answer with
  | roots _ increasing exact => exact ⟨_, rfl, increasing, exact, rfl⟩
  | @broken earlier later path before after text routes _ stream _ =>
    have triggers : path ∈ graph.triggered changed.type paths := by
      rw [routes]
      exact List.mem_append_right _ List.mem_cons_self
    have breaks : .error text ∈ loader changed path := by
      rw [stream]
      exact List.mem_append_right _ List.mem_cons_self
    exact absurd breaks (unbroken path triggers text)

end ContainmentGraph

/-- Root lookup is exact, ordered and minimal, for every graph, change and persistence
layer. It gives the roots that the change reaches, or names the first triggered route whose
stream breaks off; it asks for triggered routes only, in their order, up to the one that it
names, and never twice for the same route of a registry. Of layers without errors only
matters which roots they reach. -/
theorem requiredRoots_exact (graph : ContainmentGraph) (loader : RootLoader)
    (changed : EntityKey) (paths : Option PathSet) :
    let required := graph.requiredRoots loader changed paths
    graph.Answer loader changed paths required.1 required.2 ∧
      required.2 <+: (graph.triggered changed.type paths).map (.roots changed) ∧
      (∀ registry depth, graph = .build registry depth → required.2.Nodup) ∧
      ∀ other : RootLoader, graph.Unbroken loader changed paths →
        graph.Unbroken other changed paths →
        (∀ root, graph.Reaches loader changed paths root ↔
          graph.Reaches other changed paths root) →
        graph.requiredRoots other changed paths = required := by
  have answer := graph.answer_requiredRoots loader changed paths
  refine ⟨answer, answer.inOrder, ?_, ?_⟩
  · rintro registry depth rfl
    exact answer.nodup
  · intro other unbroken unbroken' same
    obtain ⟨roots, result, increasing, exact, asked⟩ := answer.roots_of_unbroken unbroken
    obtain ⟨roots', result', increasing', exact', asked'⟩ :=
      (graph.answer_requiredRoots other changed paths).roots_of_unbroken unbroken'
    have agree : roots' = roots := increasing'.ext increasing fun root =>
      (exact' root).trans ((same root).symm.trans (exact root).symm)
    exact Prod.ext (by rw [result', result, agree]) (by rw [asked', asked])

namespace Library

/-- A persistence layer that streams the books of the given numbers for every route. -/
def streaming (numbers : List String) : RootLoader :=
  fun _ _ => numbers.map fun number => .ok (bookKey number)

/-- The books of an author may be streamed in any order and again, and every route is asked
for once. -/
theorem books_in_any_order :
    let graph := ContainmentGraph.build registry 2
    let author : EntityKey := ⟨"Author", .text "Austen"⟩
    graph.requiredRoots (streaming ["2", "1", "2"]) author none =
        graph.requiredRoots (streaming ["1", "2"]) author none ∧
      (graph.requiredRoots (streaming ["1", "2"]) author none).2.Nodup := by
  intro graph author
  obtain ⟨-, -, once, agree⟩ := requiredRoots_exact graph (streaming ["1", "2"]) author none
  have unbroken : ∀ numbers, graph.Unbroken (streaming numbers) author none := by
    intro numbers path _ text
    simp [streaming]
  have same : ∀ root, graph.Reaches (streaming ["1", "2"]) author none root ↔
      graph.Reaches (streaming ["2", "1", "2"]) author none root := by
    intro root
    refine exists_congr fun path => and_congr_right fun _ => ?_
    simp only [streaming, List.map_cons, List.map_nil, List.mem_cons, List.not_mem_nil, or_false]
    tauto
  exact ⟨agree _ (unbroken _) (unbroken _) same, once registry 2 rfl⟩

end Library

end Reindex
