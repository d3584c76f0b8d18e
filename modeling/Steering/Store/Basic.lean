import Steering.Json.Bytes
import Steering.Store.Document

/-!
# The store

A store is a document, bound to a state file or kept in memory only. Every change of a bound
store is written to its file first; if that fails, neither the store nor the file changes.
-/

namespace Steering

open Traffic

structure Store where
  path : Option String := none
  document : Store.Document := {}
deriving Repr, DecidableEq, Inhabited

namespace Store

def communityPlatforms : List (String × String × Category) := [
  ("Akamai", "akamai", .deliveryNetwork),
  ("Amazon CloudFront", "cloudfront", .deliveryNetwork),
  ("Fastly", "fastly", .deliveryNetwork),
  ("Amazon EC2 - US East (N. Virginia)", "ec2_us_east_1", .cloudComputing),
  ("Amazon EC2 - EU (Ireland)", "ec2_eu_west_1", .cloudComputing),
  ("Google Cloud - us-central1", "gce_us_central1", .cloudComputing),
  ("Azure - West Europe", "azure_west_europe", .cloudComputing),
  ("Cloudflare Workers", "cf_workers", .dynamicContent),
  ("Amazon S3 - US Standard", "s3_us_standard", .cloudStorage),
  ("Google Cloud Storage", "gcs", .cloudStorage)]

/-- The document that a new state file begins with: the community platforms, numbered from 1. -/
def seed : Document :=
  let platforms := communityPlatforms.zipIdx.map fun ((name, shortName, category), index) =>
    { id := index + 1, name, shortName, category, visibility := .community : Platform }
  { nextId := platforms.length + 1, platforms }

/-- A store in memory with the community platforms. -/
def seeded : Store := { document := seed }

/-- A store with nothing in it. -/
def inMemory : Store := {}

/-- The text of a state file, which may have stray bytes in strings that nothing is read from. -/
def stateText? : FileContent → Option String
  | .text text => some text
  | .binary bytes => Json.textOfBytes? bytes

/-- The store of an existing state file. Its counter is raised above the ids in it, if it is not
already. -/
def load (disk : Disk) (path : String) : Except TrafficError Store :=
  match disk.read path with
  | .ok content =>
    match (stateText? content).bind Document.parse? with
    | some document => .ok { path := some path, document := document.settled }
    | none => .error .badJson
  | .error .isDirectory => .error .badJson
  | .error fault => .error (.io fault)

/-- The store of a state file, which need not exist. -/
def openAt (disk : Disk) (path : String) : Except TrafficError Store :=
  if disk.has path then load disk path else .ok { seeded with path := some path }

/-- Writes the document to a file. -/
def saveTo (disk : Disk) (path : String) (document : Document) : Except TrafficError Disk :=
  match disk.write path document.toText with
  | .ok disk => .ok disk
  | .error fault => .error (.io fault)

/-- Writes the document to the file the store is bound to, if it is bound. -/
def save (store : Store) (disk : Disk) : Except TrafficError Disk :=
  match store.path with
  | some path => saveTo disk path store.document
  | none => .ok disk

/-- The platforms of a scope. -/
def platforms (store : Store) (scope : Scope) : List Platform :=
  store.document.platforms.filter fun platform => scope.includes platform.visibility

end Store

/-- A store and the disk that its file is on. -/
structure Workspace where
  disk : Disk := {}
  store : Store := {}
deriving Inhabited

namespace Workspace

/-- Carries out a change of the document: computes it, writes it, then keeps it. -/
def commit (w : Workspace) (change : Store.Document → Except TrafficError (α × Store.Document)) :
    Except TrafficError α × Workspace :=
  match change w.store.document with
  | .error e => (.error e, w)
  | .ok (result, document) =>
    let store := { w.store with document := document }
    match store.save w.disk with
    | .error e => (.error e, w)
    | .ok disk => (.ok result, { disk, store })

/-- Adds a resource to the store. -/
def create (now : Instant) (w : Workspace) {kind : Kind} (item : kind.Item) :
    Except TrafficError kind.Item × Workspace :=
  w.commit fun doc => doc.create now item

/-- Deletes a resource of the store by its id. -/
def delete (w : Workspace) (kind : Kind) (id : Nat) : Except TrafficError Unit × Workspace :=
  w.commit fun doc => (doc.delete kind id).map fun doc => ((), doc)

end Workspace

end Steering
