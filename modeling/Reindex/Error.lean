import Reindex.Config.Error
import Reindex.Failure

/-!
# Errors of the engine

One type for everything that a call can be refused with. The message of each is
fixed here; an error that aborts a flush before anything was submitted turns
into a failure of every key that was pending.
-/

namespace Reindex

/-- Why a set of type declarations is refused. -/
inductive MappingProblem where
  | typeTwice (type : TypeName)
  | entityNameTwice (name : String)
  | indexShared (index : String)
  | unknownSupertype (type supertype : TypeName)
  | unknownTarget (type : TypeName) (property : String) (target : TypeName)
  | described (text : String)
  deriving DecidableEq, Repr

/-- The text of a problem with the declarations. -/
def MappingProblem.message : MappingProblem → String
  | .typeTwice type => "type '" ++ type ++ "' registered twice"
  | .entityNameTwice name => "entity name '" ++ name ++ "' registered twice"
  | .indexShared index => "index '" ++ index ++ "' is used by more than one type"
  | .unknownSupertype type supertype =>
    "type '" ++ type ++ "' declares unregistered supertype '" ++ supertype ++ "'"
  | .unknownTarget type property target =>
    type ++ "." ++ property ++ " embeds unregistered type '" ++ target ++ "'"
  | .described text => text

/-- Why an entity has no identifier. -/
inductive IdentifierProblem where
  | property (name : String)
  | customRule
  | described (text : String)
  deriving DecidableEq, Repr

/-- The text of a problem with an identifier. -/
def IdentifierProblem.message : IdentifierProblem → String
  | .property name => "property '" ++ name ++ "' is absent or not an identifier"
  | .customRule => "custom identifier function returned no value"
  | .described text => text

/-- Why a call is refused. -/
inductive IndexingError where
  | unknownType (type : TypeName)
  | unknownEntityName (name : String) (known : List String)
  | unindexedType (name : String)
  | notIndexable (type : TypeName)
  | identifierExtraction (type : TypeName) (problem : IdentifierProblem)
  | indexing (failure : Failure)
  | loaderFailure (key : EntityKey) (detail : String)
  | flushFailed (failed succeeded : List EntityKey) (failures : List Failure)
  | invalidTransition (source target : String)
  | unitClosed (state : String)
  | mapping (problem : MappingProblem)
  | config (error : ConfigError)
  | other (text : String)
  deriving DecidableEq

namespace IndexingError

/-- The text of an error. -/
def message : IndexingError → String
  | .unknownType type => "Unknown type: " ++ type
  | .unknownEntityName name known =>
    "Unknown entity name '" ++ name ++ "'. Known entity names: " ++ String.intercalate ", " known
  | .unindexedType name => "Type '" ++ name ++ "' is not mapped for indexing"
  | .notIndexable type => "Type '" ++ type ++ "' is neither indexed nor embedded in an indexed type"
  | .identifierExtraction type problem =>
    "Cannot extract identifier of " ++ type ++ ": " ++ problem.message
  | .indexing failure => failure.message
  | .loaderFailure key detail =>
    "Reverse association loading failed for " ++ key.render ++ ": " ++ detail
  | .flushFailed failed succeeded _ =>
    "Flush failed: " ++ toString failed.length ++ " of " ++
      toString (failed.length + succeeded.length) ++ " entities not indexed"
  | .invalidTransition source target => "Invalid state transition: " ++ source ++ " -> " ++ target
  | .unitClosed state =>
    "Unit of work is " ++ state ++ " and no longer accepts registrations"
  | .mapping problem => "Mapping error: " ++ problem.message
  | .config error => error.message
  | .other text => text

/-- The category of a name, or the refusal of the name. -/
def categoryOfName (name : String) : Except IndexingError Category :=
  match Category.ofName? name with
  | some category => .ok category
  | none => .error (.other ("Invalid error category: " ++ name))

/-- The keys that an error names itself, and the cause it amounts to. -/
def ownFailure : IndexingError → Failure
  | .indexing failure => failure
  | .loaderFailure key detail => ⟨[key], .loader detail⟩
  | error => ⟨[], .backend error.message⟩

/-- Append the keys that are not listed yet, each once. -/
def appendMissing (listed : List EntityKey) : List EntityKey → List EntityKey
  | [] => listed
  | key :: rest => appendMissing (if key ∈ listed then listed else listed ++ [key]) rest

/-- The failure of a flush that an error aborts: the keys that the error names,
then every other pending key once. -/
def toFailure (error : IndexingError) (pending : List EntityKey) : Failure :=
  ⟨appendMissing error.ownFailure.keys pending, error.ownFailure.cause⟩

end IndexingError

end Reindex
