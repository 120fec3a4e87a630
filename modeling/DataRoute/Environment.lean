import DataRoute.Catalog
import DataRoute.Infrastructure

/-! # Environments

An environment is a snapshot of everything that is deployed: modules, clusters, storage accounts
and infrastructure attributes. Clusters and accounts stand in the order of the registry, and
wherever the first that fits is taken it is the first in that order. -/

namespace DataRoute

/-- Everything that is deployed. -/
structure Environment where
  catalog : Catalog
  clusters : List Cluster
  storageAccounts : List StorageAccount
  infrastructure : Infrastructure

namespace Environment

/-- The environment of a list of modules, of which the first of each name counts, and of what
else there is. -/
def ofParts (modules : List Module) (clusters : List Cluster)
    (storageAccounts : List StorageAccount) (infrastructure : Infrastructure) : Environment :=
  ⟨Catalog.ofModules modules, clusters, storageAccounts, infrastructure⟩

/-- Reads an environment; each part may be left out. -/
def decode : Decoder Environment := Json.asRecord ⟨"EnvironmentDocument", 4⟩ fun fields =>
  ofParts <$> fields.withDefault 0 "modules" [] (Json.asList Module.decode)
    <*> fields.withDefault 1 "clusters" [] (Json.asList Cluster.decode)
    <*> fields.withDefault 2 "storageAccounts" [] (Json.asList StorageAccount.decode)
    <*> fields.withDefault 3 "infrastructure" .empty Infrastructure.decode

end Environment

end DataRoute
