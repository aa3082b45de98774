import Reindex.Engine
import Reindex.Proofs.Plan.Entries

/-!
# A library to speak of

A mapping small enough to follow by hand. Shelves and books have documents of
their own; a shelf reads titles and the names of authors through its books, a book
reads all of its author, and an author only appears inside of them. Authors embed
their mentors, so chains of embeddings can be of any length.

Books arrive in a stockroom, which keeps the index of the library up to date.
-/

namespace Reindex.Library

/-- Shelves, which embed their books. -/
def shelf : MappedType where
  name := "Shelf"
  entityName := "Shelf"
  index := some "shelves"
  embeddings := [{
    property := "books"
    target := "Book"
    includes := .paths (.ofList ["title", "author.name"]) }]

/-- Books, whose own documents depend on the title. -/
def book : MappedType where
  name := "Book"
  entityName := "Book"
  index := some "books"
  dirtyPaths := .paths (.ofList ["title"])
  embeddings := [{ property := "author", target := "Author" }]

/-- Authors, who have no documents of their own. -/
def author : MappedType where
  name := "Author"
  entityName := "Author"
  index := none
  embeddings := [{ property := "mentor", target := "Author", maxDepth := some 2 }]

/-- Authors who embed nobody. -/
def loneAuthor : MappedType where
  name := "Author"
  entityName := "Author"
  index := none

/-- The mapped types. -/
def registry : Registry := ⟨[shelf, book, author]⟩

/-- The declarations fit together. -/
theorem registry_accepted : Registry.ofDeclarations [shelf, book, author] = .ok registry := rfl

/-- The mapping with the given settings. -/
def mapping (config : Config) : Mapping := ⟨config, registry, [], .build registry config.maxDepth⟩

/-- Books have documents of their own. -/
theorem indexes_book (config : Config) : (mapping config).Indexes "Book" := ⟨book, rfl, rfl⟩

/-- A book by its number. -/
def bookKey (number : String) : EntityKey := ⟨"Book", .text number⟩

/-- A book as it stands, by its title. -/
def titled (title : String) : Instance := ⟨"Book", [("title", .text title)]⟩

/-! ## The stockroom -/

/-- Authors are read by book 4, which no longer exists; a book without properties has
no document; the first batch is acknowledged with refusals of book 2 and of a book
that it does not hold, and the second one is not answered in time. -/
def clerks : Services where
  rootLoader _ _ := [.ok (bookKey "4")]
  entityLoader _ := .ok none
  extractor entity _ :=
    if entity.properties.isEmpty then .error "nothing to read" else .ok entity.properties
  backend _ batch :=
    if batch.sequence = 0 then
      ⟨10, .report ⟨[(bookKey "2", "too long"), (bookKey "9", "unknown")]⟩⟩
    else ⟨1000, .report {}⟩

/-- The stockroom has small batches and one permit. -/
def stockroom : Environment where
  mapping := mapping { batchSize := 2, submitTimeout := 100, maxInFlight := 1 }
  services := clerks

/-- Three books arrive, and an author is renamed. -/
def deliveries : List EngineStep := [
  .begin,
  .call 0 (.register (.create (bookKey "1") (some (titled "Emma")))),
  .call 0 (.register (.create (bookKey "2") (some (titled "Persuasion")))),
  .call 0 (.register (.create (bookKey "3") (some ⟨"Book", []⟩))),
  .call 0 (.register (.update ⟨"Author", .text "Austen"⟩ none))]

/-- What has arrived, by the plan. -/
def delivered : Plan where
  mapping := stockroom.mapping
  entries := [
    ⟨bookKey "1", .add (some (titled "Emma"))⟩,
    ⟨bookKey "2", .add (some (titled "Persuasion"))⟩,
    ⟨bookKey "3", .add (some ⟨"Book", []⟩)⟩]
  changes := [⟨bookKey "1", none⟩, ⟨bookKey "2", none⟩, ⟨bookKey "3", none⟩,
    ⟨⟨"Author", .text "Austen"⟩, none⟩]

end Reindex.Library
