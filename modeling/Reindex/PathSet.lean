import Reindex.Json
import Reindex.Ordered
import Reindex.Path

/-!
# Sets of paths

A set of paths is listed in increasing order, each path once; the order is that
of code points. The order is part of the type, so two sets with the same members
are the same value.
-/

namespace Reindex

/-- A finite set of paths. -/
structure PathSet where
  paths : List Path
  increasing : Ordered.Increasing paths

namespace PathSet

/-- The set without paths. -/
def empty : PathSet := ⟨[], List.Pairwise.nil⟩

instance : Inhabited PathSet := ⟨empty⟩

/-- The set with one more path. -/
def insert (set : PathSet) (path : Path) : PathSet :=
  ⟨Ordered.insert path set.paths, Ordered.increasing_insert set.increasing⟩

/-- The set of the listed paths. -/
def ofList (paths : List Path) : PathSet := paths.foldl insert empty

instance : Membership Path PathSet := ⟨fun set path => path ∈ set.paths⟩

/-- Whether a path is listed. -/
def contains (set : PathSet) (path : Path) : Bool := set.paths.contains path

/-- How many paths are listed. -/
def size (set : PathSet) : Nat := set.paths.length

/-- Whether no path is listed. -/
def isEmpty (set : PathSet) : Bool := set.paths.isEmpty

/-- The paths of either set. -/
def union (a b : PathSet) : PathSet := b.paths.foldl insert a

/-- Whether some path of one set touches some path of the other. -/
def intersects (a b : PathSet) : Bool :=
  a.paths.any fun p => b.paths.any fun q => Path.overlap p q

/-- The paths below a property, relative to it. -/
def below (set : PathSet) (property : Path) : PathSet :=
  ofList (set.paths.filterMap (Path.relativeTo? property))

/-- The serialized form: the paths in order. -/
def toJson (set : PathSet) : Json := .array (set.paths.map .text)

/-- The set that an array of texts serializes, in any order and with repetitions. -/
def ofJson? (value : Json) : Option PathSet := value.texts?.map ofList

/-- The paths in order between braces. -/
def render (set : PathSet) : String := "\x7b" ++ String.intercalate ", " set.paths ++ "\x7d"

/-- Insertion adds the path and nothing else. -/
theorem mem_insert {set : PathSet} {path tested : Path} :
    tested ∈ set.insert path ↔ tested = path ∨ tested ∈ set :=
  Ordered.mem_insert

end PathSet

end Reindex
