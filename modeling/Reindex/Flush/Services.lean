import Reindex.Containment.Roots
import Reindex.Text.Escaped
import Reindex.Work

/-!
# Collaborators

What a flush needs from outside: which roots contain an entity, the entity for a
key, the document of an entity, and the backend. The first three answer at once.
The backend takes its time, and then reports, fails or panics. When it panics the
runtime tells of the task; what it says is its own affair and need not be the same
in another run. All of them may treat the units of work differently, as those with
a memory would.
-/

namespace Reindex

/-- How a call of the backend ends when it is given the time. -/
inductive BackendReply where
  | report (report : BatchReport)
  | failure (text : String)
  /-- A panic comes with a message, or with something else that is no text. -/
  | panic (message : Option String)

/-- How long a call of the backend takes, in milliseconds, and how it ends. -/
structure BackendResponse where
  delay : Nat
  reply : BackendReply

/-- The behaviour of the backend: the response to a batch of a numbered unit. -/
abbrev Backend := Nat → WorkBatch → BackendResponse

/-- What the runtime says of the task of a batch that panicked, with a message or
without. The text tells the task by a number, which is left to the runtime. -/
abbrev PanicText := WorkBatch → Option String → String

/-- The text with the number of the task left out. -/
def unnumberedPanic : PanicText
  | _, some message => "task # panicked with message " ++ Text.quote message
  | _, none => "task # panicked"

/-- The collaborators of the engine. -/
structure Services where
  rootLoader : RootLoader
  /-- The entity of a key, none when it does not exist, or the text of an error. -/
  entityLoader : EntityKey → Except String (Option Instance)
  /-- The document of an entity of a mapped type, or the text of an error. -/
  extractor : Instance → MappedType → Except String Fields
  backend : Backend
  panicText : PanicText := unnumberedPanic

/-- Collaborators that treat all units of work alike. -/
instance : Coe Services (Nat → Services) := ⟨fun services _ => services⟩

end Reindex
