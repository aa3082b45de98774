import Reindex.Containment.Roots
import Reindex.Proofs.EntityId.Order
import Reindex.Proofs.Ordered

/-!
# The roots that a change reaches

A change reaches the roots that the persistence layer lists for the routes that the
change triggers. As long as no stream of them breaks off, exactly these are found, in
key order and each once, and every triggered route was asked for once, in order. The first
stream that breaks off is read up to its first error, and no later route is asked for.
-/

namespace Reindex

/-- In a list with elements of a kind there is a first one. -/
theorem exists_first {Element : Type} (kind : Element → Prop) {elements : List Element}
    (listed : ∃ element ∈ elements, kind element) :
    ∃ before element after, elements = before ++ element :: after ∧ kind element ∧
      ∀ other ∈ before, ¬ kind other := by
  classical
  obtain ⟨element, member, holds⟩ := listed
  have found : (elements.find? fun element => decide (kind element)).isSome = true :=
    List.find?_isSome.2 ⟨element, member, decide_eq_true holds⟩
  obtain ⟨first, found⟩ := Option.isSome_iff_exists.1 found
  obtain ⟨holds, before, after, split, others⟩ := List.find?_eq_some_iff_append.1 found
  exact ⟨before, first, after, split, of_decide_eq_true holds,
    fun other member => by simpa using others other member⟩

namespace ContainmentGraph

variable {graph : ContainmentGraph} {loader : RootLoader} {changed root : EntityKey}
  {paths : Option PathSet}

/-- The routes to a type that a change of the given paths triggers. -/
def triggered (graph : ContainmentGraph) (type : TypeName) (paths : Option PathSet) :
    List ContainmentPath :=
  (graph.pathsFor type).filter (·.reads.isTriggeredBy paths)

/-- What the persistence layer answers to a change: the streams of the triggered routes, one
behind the other. -/
def answers (graph : ContainmentGraph) (loader : RootLoader) (changed : EntityKey)
    (paths : Option PathSet) : List (Except String EntityKey) :=
  (graph.triggered changed.type paths).flatMap (loader changed)

/-- A change reaches a root when a triggered route leads to it. -/
def Reaches (graph : ContainmentGraph) (loader : RootLoader) (changed : EntityKey)
    (paths : Option PathSet) (root : EntityKey) : Prop :=
  ∃ path ∈ graph.triggered changed.type paths, .ok root ∈ loader changed path

/-- No stream of a triggered route breaks off. -/
def Unbroken (graph : ContainmentGraph) (loader : RootLoader) (changed : EntityKey)
    (paths : Option PathSet) : Prop :=
  ∀ path ∈ graph.triggered changed.type paths, ∀ text, .error text ∉ loader changed path

/-- Whatever is asked for is a route that was to be asked for. -/
theorem mem_gather {roots : List EntityKey} {routes : List ContainmentPath} {request : Request}
    (asked : request ∈ (gather loader changed roots routes).2) :
    ∃ path ∈ routes, request = .roots changed path := by
  induction routes generalizing roots with
  | nil => cases asked
  | cons path rest inductionHypothesis =>
    rw [gather] at asked
    split at asked
    · exact ⟨path, List.mem_cons_self, List.mem_singleton.1 asked⟩
    · rcases List.mem_cons.1 asked with rfl | later
      · exact ⟨path, List.mem_cons_self, rfl⟩
      · obtain ⟨next, member, same⟩ := inductionHypothesis later
        exact ⟨next, List.mem_cons_of_mem _ member, same⟩

/-- Draining a stream without an error enters its keys one by one. -/
theorem drain_of_unbroken {answers : List (Except String EntityKey)} (held : List EntityKey)
    (unbroken : ∀ text, .error text ∉ answers) :
    drain held answers = .ok ((answers.filterMap Except.toOption).foldl
      (fun held root => Ordered.insert root held) held) := by
  induction answers generalizing held with
  | nil => rfl
  | cons answer rest inductionHypothesis =>
    cases answer with
    | error text => exact absurd List.mem_cons_self (unbroken text)
    | ok root =>
      have unbrokenRest : ∀ text, .error text ∉ rest :=
        fun text member => unbroken text (List.mem_cons_of_mem _ member)
      exact inductionHypothesis (Ordered.insert root held) unbrokenRest

/-- Routes without an error are asked for one after the other, and the keys of all their
streams are entered. -/
theorem gather_of_unbroken {routes : List ContainmentPath} (held : List EntityKey)
    (unbroken : ∀ path ∈ routes, ∀ text, .error text ∉ loader changed path) :
    gather loader changed held routes =
      (.ok (((routes.flatMap (loader changed)).filterMap Except.toOption).foldl
        (fun held root => Ordered.insert root held) held), routes.map (.roots changed)) := by
  induction routes generalizing held with
  | nil => rfl
  | cons path rest inductionHypothesis =>
    have drained := drain_of_unbroken held (unbroken path List.mem_cons_self)
    have unbrokenRest : ∀ path ∈ rest, ∀ text, .error text ∉ loader changed path :=
      fun path member => unbroken path (List.mem_cons_of_mem _ member)
    simp [gather, drained, inductionHypothesis _ unbrokenRest]

/-- What a change requires when no stream breaks off: the set of the keys of all streams. -/
theorem requiredRoots_of_unbroken (unbroken : graph.Unbroken loader changed paths) :
    graph.requiredRoots loader changed paths =
      (.ok (Ordered.ofList ((graph.answers loader changed paths).filterMap Except.toOption)),
        (graph.triggered changed.type paths).map (.roots changed)) :=
  gather_of_unbroken [] unbroken

/-- That set lists exactly the roots that the change reaches. -/
theorem mem_required :
    root ∈ Ordered.ofList ((graph.answers loader changed paths).filterMap Except.toOption) ↔
      graph.Reaches loader changed paths root := by
  rw [Ordered.mem_ofList, List.mem_filterMap, Reaches]
  constructor
  · rintro ⟨answer, listed, kept⟩
    obtain ⟨path, triggers, streamed⟩ := List.mem_flatMap.1 listed
    cases answer with
    | error text => cases kept
    | ok found =>
      cases kept
      exact ⟨path, triggers, streamed⟩
  · rintro ⟨path, triggers, streamed⟩
    exact ⟨.ok root, List.mem_flatMap.2 ⟨path, triggers, streamed⟩, rfl⟩

/-- So when no stream breaks off, the roots that the change reaches are found, each once and
in key order, and all triggered routes were asked for. -/
theorem exists_roots_of_unbroken (unbroken : graph.Unbroken loader changed paths) :
    ∃ roots, graph.requiredRoots loader changed paths =
        (.ok roots, (graph.triggered changed.type paths).map (.roots changed)) ∧
      Ordered.Increasing roots ∧
      ∀ root, root ∈ roots ↔ graph.Reaches loader changed paths root :=
  ⟨_, requiredRoots_of_unbroken unbroken, Ordered.increasing_ofList, fun _ => mem_required⟩

/-- Of the streams that break off there is a first one, and in it a first error. -/
theorem first_broken (broken : ¬ graph.Unbroken loader changed paths) :
    ∃ earlier path later, graph.triggered changed.type paths = earlier ++ path :: later ∧
      (∀ other ∈ earlier, ∀ text, .error text ∉ loader changed other) ∧
      ∃ before text after, loader changed path = before ++ .error text :: after ∧
        ∀ text, .error text ∉ before := by
  have some : ∃ path ∈ graph.triggered changed.type paths,
      ∃ text, .error text ∈ loader changed path := by
    by_contra none
    exact broken fun path triggers text listed => none ⟨path, triggers, text, listed⟩
  obtain ⟨earlier, path, later, routes, ⟨text, listed⟩, unbroken⟩ := exists_first _ some
  obtain ⟨before, _, after, stream, ⟨text, rfl⟩, first⟩ :=
    exists_first (fun answer => ∃ text, answer = .error text) ⟨_, listed, text, rfl⟩
  exact ⟨earlier, path, later, routes,
    fun other member text error => unbroken other member ⟨text, error⟩,
    before, text, after, stream, fun text member => first _ member ⟨text, rfl⟩⟩

/-- A stream is read up to its first error. -/
theorem drain_of_broken {before after : List (Except String EntityKey)} {text : String}
    (held : List EntityKey) (first : ∀ text, .error text ∉ before) :
    drain held (before ++ .error text :: after) = .error text := by
  induction before generalizing held with
  | nil => rfl
  | cons answer rest inductionHypothesis =>
    cases answer with
    | error text => exact absurd List.mem_cons_self (first text)
    | ok root =>
      exact inductionHypothesis (Ordered.insert root held)
        fun text member => first text (List.mem_cons_of_mem _ member)

/-- Routes are asked for up to the first one whose stream breaks off. -/
theorem gather_of_broken {earlier later : List ContainmentPath} {path : ContainmentPath}
    {before after : List (Except String EntityKey)} {text : String} (held : List EntityKey)
    (unbroken : ∀ other ∈ earlier, ∀ text, .error text ∉ loader changed other)
    (stream : loader changed path = before ++ .error text :: after)
    (first : ∀ text, .error text ∉ before) :
    gather loader changed held (earlier ++ path :: later) =
      (.error (.loaderFailure changed (path.descriptor ++ ": " ++ text)),
        (earlier ++ [path]).map (.roots changed)) := by
  induction earlier generalizing held with
  | nil =>
    rw [List.nil_append, gather, stream, drain_of_broken held first]
    rfl
  | cons route rest inductionHypothesis =>
    have drained := drain_of_unbroken held (unbroken route List.mem_cons_self)
    have unbrokenRest : ∀ other ∈ rest, ∀ text, .error text ∉ loader changed other :=
      fun other member => unbroken other (List.mem_cons_of_mem _ member)
    rw [List.cons_append, gather, drained]
    simp only [inductionHypothesis _ unbrokenRest]
    rfl

/-- So a change of which a stream breaks off is refused with the first error of the first such
stream. -/
theorem requiredRoots_of_broken {earlier later : List ContainmentPath} {path : ContainmentPath}
    {before after : List (Except String EntityKey)} {text : String}
    (routes : graph.triggered changed.type paths = earlier ++ path :: later)
    (unbroken : ∀ other ∈ earlier, ∀ text, .error text ∉ loader changed other)
    (stream : loader changed path = before ++ .error text :: after)
    (first : ∀ text, .error text ∉ before) :
    graph.requiredRoots loader changed paths =
      (.error (.loaderFailure changed (path.descriptor ++ ": " ++ text)),
        (earlier ++ [path]).map (.roots changed)) := by
  rw [requiredRoots, ← triggered, routes, gather_of_broken [] unbroken stream first]

end ContainmentGraph

end Reindex
