import Reindex.Plan
import Mathlib.Data.List.Nodup

/-!
# Lists that are changed by key

A plan searches its entries and its records by key, and changes both in one way: the first
element of a key is changed, and where there is none something may be put behind the others.
Merging, mapping and logging are alterations of this kind, so what they do to the keys, to
the place of an element and to each other is said here once.
-/

namespace Reindex.Plan

variable {α : Type} {keyOf : α → EntityKey} {key : EntityKey} {f : α → α} {elements : List α}

/-- Change the first element of a key, or put fresh elements behind the others. -/
def alter (keyOf : α → EntityKey) (key : EntityKey) (f : α → α) (fresh : List α) :
    List α → List α
  | [] => fresh
  | element :: rest =>
    if keyOf element = key then f element :: rest else element :: alter keyOf key f fresh rest

/-- Where the key is not listed, the fresh elements are put behind the others. -/
theorem alter_of_notMem (absent : key ∉ elements.map keyOf) (f : α → α) (fresh : List α) :
    alter keyOf key f fresh elements = elements ++ fresh := by
  induction elements with
  | nil => rfl
  | cons element rest inductionHypothesis =>
    obtain ⟨other, absentRest⟩ := not_or.1 (mt List.mem_cons.2 absent)
    rw [alter, if_neg (Ne.symm other), inductionHypothesis absentRest, List.cons_append]

/-- Where it is listed once, the element at its place is changed. -/
theorem alter_of_listed {place : Nat} (distinct : (elements.map keyOf).Nodup)
    (listed : (elements.map keyOf)[place]? = some key) (f : α → α) (fresh : List α) :
    alter keyOf key f fresh elements = elements.modify place f := by
  induction elements generalizing place with
  | nil => simp at listed
  | cons element rest inductionHypothesis =>
    obtain ⟨absent, distinctRest⟩ := List.nodup_cons.1 distinct
    cases place with
    | zero =>
      have here : keyOf element = key := by simpa using listed
      rw [alter, if_pos here, List.modify_zero_cons]
    | succ place =>
      have later : (rest.map keyOf)[place]? = some key := by simpa using listed
      have other : keyOf element ≠ key := by
        rintro rfl
        exact absent (List.mem_of_getElem? later)
      rw [alter, if_neg other, List.modify_succ_cons, inductionHypothesis distinctRest later]

/-- An alteration that keeps the key lists what was listed, and the fresh elements behind it
where the key was not. -/
theorem keys_alter (kept : ∀ element, keyOf (f element) = keyOf element)
    (fresh elements : List α) :
    (alter keyOf key f fresh elements).map keyOf =
      if key ∈ elements.map keyOf then elements.map keyOf
      else elements.map keyOf ++ fresh.map keyOf := by
  induction elements with
  | nil => simp [alter]
  | cons element rest inductionHypothesis =>
    by_cases here : keyOf element = key
    · simp [alter, here, kept]
    · have other : key ≠ keyOf element := Ne.symm here
      simp only [alter, here, ↓reduceIte, List.map_cons, inductionHypothesis, List.mem_cons, other,
        false_or]
      split <;> simp

/-- Two alterations of a key are one, which changes the element twice. -/
theorem alter_alter (kept : ∀ element, keyOf (f element) = keyOf element)
    (g : α → α) (fresh later elements : List α) :
    alter keyOf key g later (alter keyOf key f fresh elements) =
      alter keyOf key (g ∘ f) (alter keyOf key g later fresh) elements := by
  induction elements with
  | nil => rfl
  | cons element rest inductionHypothesis =>
    by_cases here : keyOf element = key
    · simp [alter, here, kept]
    · simp [alter, here, inductionHypothesis]

/-- Mapping changes the operation of an entry, -/
theorem mapEntry_eq_alter (key : EntityKey) (f : Operation → Operation)
    (entries : List PlanEntry) :
    mapEntry key f entries =
      alter PlanEntry.key key (fun entry => { entry with operation := f entry.operation }) []
        entries := by
  induction entries with
  | nil => rfl
  | cons entry rest inductionHypothesis =>
    by_cases here : entry.key = key
    · subst here
      simp [mapEntry, alter]
    · simp [mapEntry, alter, here, inductionHypothesis]

/-- merging changes it or makes an entry, -/
theorem mergeEntry_eq_alter (key : EntityKey) (operation : Operation)
    (entries : List PlanEntry) :
    mergeEntry key operation entries =
      alter PlanEntry.key key
        (fun entry => { entry with operation := entry.operation.merge operation })
        [⟨key, operation⟩] entries := by
  induction entries with
  | nil => rfl
  | cons entry rest inductionHypothesis =>
    by_cases here : entry.key = key
    · subst here
      simp [mergeEntry, alter]
    · simp [mergeEntry, alter, here, inductionHypothesis]

/-- and logging changes the paths of a record or makes one. -/
theorem logChange_eq_alter (key : EntityKey) (paths : Option PathSet) (changes : List Change) :
    logChange key paths changes =
      alter Change.key key (fun change => { change with paths := mergePaths change.paths paths })
        [⟨key, paths⟩] changes := by
  induction changes with
  | nil => rfl
  | cons change rest inductionHypothesis =>
    by_cases here : change.key = key
    · subst here
      simp [logChange, alter]
    · simp [logChange, alter, here, inductionHypothesis]

/-- Merging lists the keys that were listed, and a new key behind them. -/
theorem keys_mergeEntry (key : EntityKey) (operation : Operation) (entries : List PlanEntry) :
    (mergeEntry key operation entries).map PlanEntry.key =
      if key ∈ entries.map PlanEntry.key then entries.map PlanEntry.key
      else entries.map PlanEntry.key ++ [key] := by
  rw [mergeEntry_eq_alter]
  exact keys_alter (by simp) _ _

/-- Mapping leaves the keys as they are. -/
theorem keys_mapEntry (key : EntityKey) (f : Operation → Operation) (entries : List PlanEntry) :
    (mapEntry key f entries).map PlanEntry.key = entries.map PlanEntry.key := by
  rw [mapEntry_eq_alter]
  refine (keys_alter (by simp) [] entries).trans ?_
  simp

/-- Logging lists the entities that were listed, and a new one behind them. -/
theorem keys_logChange (key : EntityKey) (paths : Option PathSet) (changes : List Change) :
    (logChange key paths changes).map Change.key =
      if key ∈ changes.map Change.key then changes.map Change.key
      else changes.map Change.key ++ [key] := by
  rw [logChange_eq_alter]
  exact keys_alter (by simp) _ _

end Reindex.Plan
