/-!
# Configuration errors

What can be wrong with the settings of the engine, or with the file that holds
them. The texts are part of what users see.
-/

namespace Reindex

/-- Why a configuration is refused. -/
inductive ConfigError where
  /-- A value outside its inclusive bounds, with advice; all by their texts. -/
  | range (field value least greatest hint : String)
  | missingVersion
  | unsupportedVersion (found : Nat) (supported : List Nat)
  /-- The file cannot be read as text. -/
  | unreadable
  /-- The text is not a settings document. -/
  | malformed
  | custom (message : String)
  deriving DecidableEq, Repr

namespace ConfigError

/-- The text of an error. What the operating system or the grammar of the file
has to say is not repeated. -/
def message : ConfigError → String
  | .range field value least greatest hint =>
    "Invalid range for field '" ++ field ++ "': " ++ value ++ " not in " ++ least ++ "..=" ++
      greatest ++ ". " ++ hint
  | .missingVersion =>
    "Missing 'version' field in configuration file. Add 'version: 1' to the top of your YAML file."
  | .unsupportedVersion found supported =>
    "Unsupported configuration version " ++ toString found ++ ". Supported versions: " ++
      String.intercalate ", " (supported.map toString)
  | .unreadable => "IO error"
  | .malformed => "YAML parsing error"
  | .custom message => message

end ConfigError

end Reindex
