import Reindex.Flush.Services
import Reindex.Plan

/-!
# Containment expansion

Before a plan is carried out, the documents that embed a changed entity join it.
The change log is gone through in order, and each change's roots in key order; a
root that has an entry keeps it. What the log records is settled beforehand: a
scheduled root is no change and is not expanded itself. An error of the
persistence layer, or a root that cannot be indexed, ends the expansion.
-/

namespace Reindex.Expansion

/-- Schedule the roots that a change requires. -/
def scheduleRoots (changed : EntityKey) (plan : Plan) : List EntityKey → Except IndexingError Plan
  | [] => .ok plan
  | root :: rest =>
    match plan.reindex root with
    | .ok (_, plan) => scheduleRoots changed plan rest
    | .error error =>
      .error (.loaderFailure changed
        ("invalid containing entity " ++ root.render ++ ": " ++ error.message))

/-- Schedule the roots that each change requires, and list what was asked. -/
def expandChanges (graph : ContainmentGraph) (loader : RootLoader) (plan : Plan) :
    List Change → Except IndexingError Plan × List Request
  | [] => (.ok plan, [])
  | change :: rest =>
    let (roots, asked) := graph.requiredRoots loader change.key change.paths
    match roots.bind (scheduleRoots change.key plan) with
    | .error error => (.error error, asked)
    | .ok plan =>
      let (expanded, later) := expandChanges graph loader plan rest
      (expanded, asked ++ later)

/-- The plan with every document that a logged change makes stale. -/
def expand (graph : ContainmentGraph) (loader : RootLoader) (plan : Plan) :
    Except IndexingError Plan × List Request :=
  expandChanges graph loader plan plan.changes

end Reindex.Expansion
