import Reindex.Json
import Reindex.Path

/-!
# Live entities

An entity as the persistence layer hands it over: the class it has at run time,
which may be a proxy or a subclass that is not mapped, and its properties. A
dotted path first names a property and then, segment by segment, members of
objects; nothing else has members, so a path ends where a segment is not found.
-/

namespace Reindex

/-- A live entity. -/
structure Instance where
  className : String
  properties : Fields
  deriving Inhabited

namespace Instance

/-- The value of a property. -/
def property? (entity : Instance) (name : String) : Option Json := entity.properties.get? name

/-- The entity with one property set anew. -/
def set (entity : Instance) (name : String) (value : Json) : Instance :=
  { entity with properties := entity.properties.set name value }

/-- The value that a dotted path leads to. -/
def lookup? (entity : Instance) (path : Path) : Option Json :=
  match path.segments with
  | [] => none
  | name :: members => (entity.property? name).bind fun value => members.foldlM Json.member? value

end Instance

end Reindex
