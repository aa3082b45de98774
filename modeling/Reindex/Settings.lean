import Reindex.Config
import Reindex.Yaml.Document
import Reindex.Yaml.Quoting

/-!
# The settings file

Settings are kept in a flat YAML document. The version of its layout must be
named; every other setting may be left out, or left empty, and has its default
then. An unknown or repeated name is a fault of the document, like a value of the
wrong kind, and comes before a fault of the version, which comes before settings
out of bounds.
-/

namespace Reindex.Settings

/-- The layouts that are read. -/
def supportedVersions : List Nat := [1]

/-- The settings that a document names. -/
structure Named where
  version : Option Nat := none
  batchSize : Option Nat := none
  submitTimeout : Option Nat := none
  maxInFlight : Option Nat := none
  maxDepth : Option Nat := none
  proxyMarker : Option String := none

/-- The tag of a scalar that stands for nothing. -/
def nullTag : String := "tag:yaml.org,2002:null"

/-- The tag of an integer. -/
def intTag : String := "tag:yaml.org,2002:int"

/-- Whether a scalar stands for nothing. A scalar tagged so must be spelled so. -/
def isAbsent? (scalar : Yaml.Scalar) : Option Bool :=
  match scalar.style, scalar.tag with
  | .plain, none => some (scalar.text = "" || Yaml.isNull scalar.text)
  | .plain, some tag =>
    if tag ≠ nullTag then some false
    else if Yaml.isNull scalar.text then some true
    else none
  | _, _ => some false

/-- The value of a scalar that may stand for nothing. -/
def optional? {α : Type} (read : Yaml.Scalar → Option α) (scalar : Yaml.Scalar) :
    Option (Option α) := do
  if ← isAbsent? scalar then pure none else pure (some (← read scalar))

/-- A count below a bound. Quoted digits are no number. -/
def count? (bound : Nat) (scalar : Yaml.Scalar) : Option Nat :=
  if scalar.style = .plain || (scalar.style = .literal && scalar.tag = some intTag) then
    Yaml.natBelow? bound scalar.text
  else none

/-- Take one entry of a document. -/
def take? (named : Named) (value : Yaml.Scalar) (name : String) : Option Named :=
  let word := optional? (count? UInt64.size) value
  match name with
  | "version" => (optional? (count? UInt32.size) value).map ({ named with version := · })
  | "batch_size" => word.map ({ named with batchSize := · })
  | "submit_timeout_ms" => word.map ({ named with submitTimeout := · })
  | "max_in_flight_batches" => word.map ({ named with maxInFlight := · })
  | "max_containment_depth" => word.map ({ named with maxDepth := · })
  | "proxy_marker" => (optional? (some ·.text) value).map ({ named with proxyMarker := · })
  | _ => none

/-- Take the entries of a document, each name once. -/
def takeAll? (named : Named) (taken : List String) : Yaml.Entries → Option Named
  | [] => some named
  | (key, value) :: rest =>
    if key.text ∈ taken then none
    else (take? named value key.text).bind fun named => takeAll? named (key.text :: taken) rest

/-- The settings with their defaults. -/
def Named.complete (named : Named) : Config :=
  let config : Config := {}
  { batchSize := named.batchSize.getD config.batchSize
    submitTimeout := named.submitTimeout.getD config.submitTimeout
    maxInFlight := named.maxInFlight.getD config.maxInFlight
    maxDepth := named.maxDepth.getD config.maxDepth
    proxyMarker := named.proxyMarker.getD config.proxyMarker }

/-- The settings that a text holds. -/
def read (text : String) : Except ConfigError Config :=
  match (Yaml.entries? text).bind (takeAll? {} []) with
  | none => .error .malformed
  | some named =>
    match named.version with
    | none => .error .missingVersion
    | some version =>
      if version ∉ supportedVersions then .error (.unsupportedVersion version supportedVersions)
      else named.complete.validate.map fun _ => named.complete

/-- The settings that a file holds; there may be no such file. -/
def ofBytes (bytes : Option ByteArray) : Except ConfigError Config :=
  match bytes.bind String.fromUTF8? with
  | none => .error .unreadable
  | some text => read text

/-- The text that holds settings. -/
def write (config : Config) : String :=
  Yaml.writeEntry "version" "1" ++
  Yaml.writeEntry "batch_size" (toString config.batchSize) ++
  Yaml.writeEntry "submit_timeout_ms" (toString config.submitTimeout) ++
  Yaml.writeEntry "max_in_flight_batches" (toString config.maxInFlight) ++
  Yaml.writeEntry "max_containment_depth" (toString config.maxDepth) ++
  Yaml.writeEntry "proxy_marker" (Yaml.writeScalar config.proxyMarker)

end Reindex.Settings
