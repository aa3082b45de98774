import Reindex.PathSet

/-!
# What a document reads

A document reads everything of an entity, or the paths listed and all below
them. Looked at through an embedded property a read set is narrowed to what lies
below it; combined with the includes of an embedding it is restricted to what
both read. A result that reads nothing is no read set at all.

The extent of a read set, the paths that it covers, is what these operations are
about: narrowing takes the paths below the property, restricting intersects, and
a change triggers a read set when some path is covered by both.
-/

namespace Reindex

/-- The paths that a document, or one embedding of it, reads. -/
inductive ReadSet where
  | all
  | paths (set : PathSet)

namespace ReadSet

instance : Inhabited ReadSet := ⟨all⟩

/-- A set of paths covers a path when it lists it or a path above it. -/
def Covers : ReadSet → Path → Prop
  | .all, _ => True
  | .paths set, path => ∃ p ∈ set.paths, p = path ∨ Path.isBelow path p = true

/-- A read set of the given paths, unless there are none. -/
def ofPaths? (set : PathSet) : Option ReadSet := if set.isEmpty then none else some (.paths set)

/-- The read set seen from inside an embedded property. To name the property
itself is to read all of it. -/
def narrow (reads : ReadSet) (property : Path) : Option ReadSet :=
  match reads with
  | .all => some .all
  | .paths set => if set.contains property then some .all else ofPaths? (set.below property)

/-- The more specific one of two paths that touch. -/
def moreSpecific? (p q : Path) : Option Path :=
  if p == q || Path.isBelow p q then some p
  else if Path.isBelow q p then some q
  else none

/-- What two read sets both read: of every two paths that touch, the more
specific one. -/
def restrict : ReadSet → ReadSet → Option ReadSet
  | .all, other => some other
  | reads, .all => some reads
  | .paths a, .paths b =>
    ofPaths? (PathSet.ofList (a.paths.flatMap fun p => b.paths.filterMap (moreSpecific? p)))

/-- Whether a change concerns what is read. Unknown changes always do; known ones
do when a changed path touches a path read. -/
def isTriggeredBy (reads : ReadSet) (changed : Option PathSet) : Bool :=
  match reads, changed with
  | _, none => true
  | .all, some changed => !changed.isEmpty
  | .paths set, some changed => set.intersects changed

/-- The serialized form: a word, or the listed paths under their name. -/
def toJson : ReadSet → Json
  | .all => .text "all"
  | .paths set => .object [("paths", set.toJson)]

/-- The read set that a value serializes. -/
def ofJson? : Json → Option ReadSet
  | .object [("paths", listed)] => (PathSet.ofJson? listed).map .paths
  | value => if value.unitTag? = some "all" then some .all else none

/-- A star for everything, else the paths between braces. -/
def render : ReadSet → String
  | .all => "*"
  | .paths set => set.render

end ReadSet

end Reindex
