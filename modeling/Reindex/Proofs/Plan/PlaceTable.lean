import Reindex.EntityKey
import Reindex.Proofs.Table

/-!
# The places of entities

The table that is kept beside a list of entities: what is listed there, and where.
-/

namespace Reindex

/-- Keys are scattered over a table by type and document id. -/
instance : Hashable EntityKey where
  hash key := mixHash (hash key.type) (hash key.id.documentId)

/-- The places of entities in a list. -/
abbrev PlaceTable := Std.HashMap EntityKey Nat

namespace PlaceTable

variable {table : PlaceTable} {keys : List EntityKey} {key : EntityKey} {place : Nat}

/-- The table leads from each entity to the places where it is listed, and nowhere else. -/
def Locates (table : PlaceTable) (keys : List EntityKey) : Prop :=
  ∀ (key : EntityKey) (place : Nat), table[key]? = some place ↔ keys[place]? = some key

/-- An empty table is a table of nothing. -/
theorem locates_nil : Locates ∅ [] := Table.locates_nil

/-- An entity without a place is not listed, -/
theorem Locates.eq_none_iff (locates : Locates table keys) : table[key]? = none ↔ key ∉ keys :=
  Table.Locates.eq_none_iff locates

/-- and none has two, so that nothing is listed twice. -/
theorem Locates.nodup (locates : Locates table keys) : keys.Nodup := Table.Locates.nodup locates

/-- An entity without a place can be listed behind the others. -/
theorem Locates.concat (locates : Locates table keys) (fresh : table[key]? = none) :
    Locates (table.insert key keys.length) (keys ++ [key]) :=
  Table.Locates.concat locates (locates.eq_none_iff.1 fresh)

end PlaceTable

end Reindex
