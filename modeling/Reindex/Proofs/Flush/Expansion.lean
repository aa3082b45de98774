import Reindex.Flush.Expansion
import Reindex.Proofs.Plan.Entries

/-!
# Expansion stays within the reachable plans

Expansion only ever reindexes: whatever the persistence layer answers, an expanded
plan comes from the plan by steps that a plan can take, and keeps its mapping. What
holds of every reachable plan therefore holds of what a flush carries out.
-/

namespace Reindex.Expansion

open Plan (Reachable)

variable {mapping : Mapping} {plan next : Plan}

/-- Scheduling roots is reindexing them one after the other. -/
theorem scheduleRoots_reachable {changed : EntityKey} {roots : List EntityKey}
    (reached : Reachable mapping plan)
    (scheduled : scheduleRoots changed plan roots = .ok next) : Reachable mapping next := by
  induction roots generalizing plan with
  | nil =>
    rw [scheduleRoots, Except.ok.injEq] at scheduled
    exact scheduled ▸ reached
  | cons root rest inductionHypothesis =>
    rw [scheduleRoots] at scheduled
    split at scheduled
    · rename_i reindexed
      exact inductionHypothesis (.reindexed reached reindexed) scheduled
    · cases scheduled

/-- What an expansion that succeeds has gone through: the roots of its first change
were found and scheduled, and the other changes were expanded after that. -/
theorem expandChanges_cons_eq_ok {graph : ContainmentGraph} {loader : RootLoader} {change : Change}
    {rest : List Change}
    (expanded : (expandChanges graph loader plan (change :: rest)).1 = .ok next) :
    ∃ roots middle, (graph.requiredRoots loader change.key change.paths).1 = .ok roots ∧
      scheduleRoots change.key plan roots = .ok middle ∧
        (expandChanges graph loader middle rest).1 = .ok next := by
  cases required : (graph.requiredRoots loader change.key change.paths).1 with
  | error error => simp [expandChanges, required, Except.bind] at expanded
  | ok roots =>
    cases scheduled : scheduleRoots change.key plan roots with
    | error error => simp [expandChanges, required, scheduled, Except.bind] at expanded
    | ok middle =>
      refine ⟨roots, middle, rfl, scheduled, ?_⟩
      simpa [expandChanges, required, scheduled, Except.bind] using expanded

/-- Expanding changes is scheduling the roots of one after the other. -/
theorem expandChanges_reachable {graph : ContainmentGraph} {loader : RootLoader}
    {changes : List Change} (reached : Reachable mapping plan)
    (expanded : (expandChanges graph loader plan changes).1 = .ok next) :
    Reachable mapping next := by
  induction changes generalizing plan with
  | nil =>
    rw [expandChanges, Except.ok.injEq] at expanded
    exact expanded ▸ reached
  | cons change rest inductionHypothesis =>
    obtain ⟨roots, middle, -, scheduled, later⟩ := expandChanges_cons_eq_ok expanded
    exact inductionHypothesis (scheduleRoots_reachable reached scheduled) later

/-- An expanded plan is reachable. -/
theorem expand_reachable {graph : ContainmentGraph} {loader : RootLoader}
    (reached : Reachable mapping plan) (expanded : (expand graph loader plan).1 = .ok next) :
    Reachable mapping next :=
  expandChanges_reachable reached expanded

end Reindex.Expansion
