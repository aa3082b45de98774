import Reindex.Config
import Reindex.Containment.Graph
import Reindex.Resolver

/-!
# Search mappings

All that is fixed before the first unit of work begins: settings, mapped types,
the superclass table and the containment graph computed from them. Settings are
checked before the declarations.
-/

namespace Reindex

/-- The fixed part of the engine. -/
structure Mapping where
  config : Config
  registry : Registry
  hierarchy : Hierarchy
  containment : ContainmentGraph

namespace Mapping

/-- The mapping of settings, superclass table and declarations. -/
def build (config : Config) (hierarchy : Hierarchy) (types : List MappedType) :
    Except IndexingError Mapping := do
  config.validate.mapError .config
  let registry ← (Registry.ofDeclarations types).mapError .mapping
  pure ⟨config, registry, hierarchy, .build registry config.maxDepth⟩

/-- A resolver that has not been asked anything. -/
def resolver (mapping : Mapping) : Resolver :=
  { registry := mapping.registry
    hierarchy := mapping.hierarchy
    proxyMarker := mapping.config.proxyMarker }

end Mapping

end Reindex
