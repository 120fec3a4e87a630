import DataRoute.Json.Record

/-! # Sites: clusters and storage accounts

Where a route can run and where it can leave data on its way. Both stand in a region, and both
keep the members of their JSON form that have no field of their own. -/

namespace DataRoute

/-- A processing location of clusters, storage accounts and datasets. -/
abbrev Region := String

/-- A compute cluster. -/
structure Cluster where
  name : String
  region : Region
  zone : Option String
  metadata : Json.Members
deriving Repr

/-- Storage in which a copying or writing step can place data. -/
structure StorageAccount where
  name : String
  id : Option String
  region : Region
  address : Option String
  secretRef : Option String
  extra : Json.Members
deriving Repr

/-! ### JSON -/

namespace Cluster

/-- What the metadata of a cluster say: its region, its zone and everything else. -/
structure Metadata where
  region : Region
  zone : Option String
  extra : Json.Members
deriving Repr

def Metadata.decode : Decoder Metadata := Json.asOpenRecord "ClusterMetadata" fun members =>
  let fields := Json.Fields.named members
  ((fun region zone => Metadata.mk region zone (members.without ["region", "zone"]))
    <$> fields.required 0 "region" Json.asText
    <*> fields.optional 1 "zone" Json.asText : Json.Part Metadata).result

/-- The cluster with a name and metadata. -/
def ofMetadata (name : String) (m : Metadata) : Cluster := ⟨name, m.region, m.zone, m.extra⟩

def decode : Decoder Cluster := Json.asRecord ⟨"Cluster", 2⟩ fun fields =>
  ofMetadata <$> fields.required 0 "name" Json.asText
    <*> fields.required 1 "metadata" Metadata.decode

def encode (c : Cluster) : Json :=
  .object [("name", .text c.name),
    ("metadata", .object (("region", .text c.region)
      :: Json.optionalMember "zone" (c.zone.map .text) ++ c.metadata))]

end Cluster

namespace StorageAccount

/-- The members with a field of their own. -/
def fieldNames : List String := ["name", "id", "region", "endpoint", "secretRef"]

def decode : Decoder StorageAccount := Json.asOpenRecord "StorageAccount" fun members =>
  let fields := Json.Fields.named members
  ((fun name id region address secretRef =>
      StorageAccount.mk name id region address secretRef (members.without fieldNames))
    <$> fields.required 0 "name" Json.asText
    <*> fields.optional 1 "id" Json.asText
    <*> fields.required 2 "region" Json.asText
    <*> fields.optional 3 "endpoint" Json.asText
    <*> fields.optional 4 "secretRef" Json.asText : Json.Part StorageAccount).result

def encode (a : StorageAccount) : Json :=
  .object (("name", .text a.name)
    :: Json.optionalMember "id" (a.id.map .text)
    ++ ("region", .text a.region)
    :: Json.optionalMember "endpoint" (a.address.map .text)
    ++ Json.optionalMember "secretRef" (a.secretRef.map .text)
    ++ a.extra)

end StorageAccount

end DataRoute
