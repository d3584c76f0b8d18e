import Steering.Store.Basic
import Steering.Store.Cache

/-!
# The catalog

A catalog stands before a service that lists, creates and deletes resources, and caches what the
service lists. There is a cache for each *shelf*: one for the resources of each kind that belong
to the user, and one for the community platforms, which never change through the catalog. A
resource is named to the catalog by its name. Creating and deleting invalidate the cache of
that kind even when they fail.
-/

namespace Steering.Store

open Traffic

/-- A listing of its own. -/
inductive Shelf where
  /-- The user's resources of a kind; of the platforms, the private ones. -/
  | own (kind : Kind)
  | community
deriving Repr, DecidableEq

@[reducible] def Shelf.kind : Shelf → Kind
  | .own kind => kind
  | .community => .platform

/-- A service that keeps resources, and whose state is `σ`. -/
structure Service (σ : Type) where
  list : (shelf : Shelf) → ExceptT TrafficError (StateM σ) (List shelf.kind.Item)
  create : (kind : Kind) → kind.Item → ExceptT TrafficError (StateM σ) kind.Item
  delete : (kind : Kind) → Nat → ExceptT TrafficError (StateM σ) Unit

/-- What a shelf of a document holds. -/
def Document.shelf (doc : Document) : (shelf : Shelf) → List shelf.kind.Item
  | .own .platform => doc.platforms.filter fun p => Scope.private_.includes p.visibility
  | .own .alert => doc.alerts
  | .own .application => doc.applications
  | .own .zone => doc.zones
  | .community => doc.platforms.filter fun p => Scope.community.includes p.visibility

/-- The service that a workspace's store is, at the given time. -/
def service (now : Instant) : Service Workspace where
  list shelf := fun w => (.ok (w.store.document.shelf shelf), w)
  create _ item := fun w => w.create now item
  delete kind id := fun w => w.delete kind id

/-- The caches of a catalog. -/
structure Caches where
  community : Cache Platform := {}
  platforms : Cache Platform := {}
  alerts : Cache Alert := {}
  applications : Cache Application := {}
  zones : Cache Zone := {}

namespace Caches

def get (caches : Caches) : (shelf : Shelf) → Cache shelf.kind.Item
  | .community => caches.community
  | .own .platform => caches.platforms
  | .own .alert => caches.alerts
  | .own .application => caches.applications
  | .own .zone => caches.zones

def set (caches : Caches) : (shelf : Shelf) → Cache shelf.kind.Item → Caches
  | .community, cache => { caches with community := cache }
  | .own .platform, cache => { caches with platforms := cache }
  | .own .alert, cache => { caches with alerts := cache }
  | .own .application, cache => { caches with applications := cache }
  | .own .zone, cache => { caches with zones := cache }

end Caches

/-- A service with the caches before it. -/
structure Catalog (σ : Type) where
  backend : σ
  caches : Caches := {}

/-- An operation on a catalog. Its state counts also if it fails. -/
abbrev CatalogM (σ : Type) := ExceptT TrafficError (StateM (Catalog σ))

namespace Catalog

/-- Passes a call on to the service. -/
def call (request : ExceptT TrafficError (StateM σ) α) : CatalogM σ α := fun catalog =>
  let (result, backend) := request.run catalog.backend
  (result, { catalog with backend := backend })

/-- The resources on a shelf. -/
def list (s : Service σ) (shelf : Shelf) : CatalogM σ (List shelf.kind.Item) := do
  let (items, cache) ← ((← get).caches.get shelf).list (call (s.list shelf))
  modify fun catalog => { catalog with caches := catalog.caches.set shelf cache }
  pure items

/-- The platforms of a scope, the community ones first. -/
def platforms (s : Service σ) (scope : Scope) : CatalogM σ (List Platform) := do
  let community ← if scope.includes .community then list s .community else pure []
  let own ← if scope.includes .private_ then list s (.own .platform) else pure []
  pure (community ++ own)

/-- The first of the resources with the given name. -/
def named {kind : Kind} (name : String) (items : List kind.Item) :
    Except TrafficError kind.Item :=
  match items.find? fun item => Kind.nameOf item = name with
  | some item => .ok item
  | none => .error (.notFound kind name)

/-- The platform of the given name within a scope. -/
def platformByName (s : Service σ) (name : String) (scope : Scope) : CatalogM σ Platform := do
  let items ← platforms s scope
  liftM (@named .platform name items)

/-- The user's resource of the given kind and name. -/
def byName (s : Service σ) (kind : Kind) (name : String) : CatalogM σ kind.Item := do
  let items ← list s (.own kind)
  liftM (named name items)

def invalidate (shelf : Shelf) : CatalogM σ Unit :=
  modify fun catalog =>
    { catalog with caches := catalog.caches.set shelf (catalog.caches.get shelf).invalidate }

def invalidateAll : CatalogM σ Unit := modify fun catalog => { catalog with caches := {} }

/-- Passes a change on to the service and invalidates the cache of its kind, whether or not the
change succeeds. -/
def change (kind : Kind) (request : ExceptT TrafficError (StateM σ) α) : CatalogM σ α :=
  fun catalog =>
    let (result, catalog) := (call request).run catalog
    (result, ((invalidate (.own kind)).run catalog).2)

def create (s : Service σ) (kind : Kind) (item : kind.Item) : CatalogM σ kind.Item :=
  change kind (s.create kind item)

/-- Deletes the user's resource of the given kind and name. -/
def delete (s : Service σ) (kind : Kind) (name : String) : CatalogM σ Unit := do
  let item ← byName s kind name
  change kind (s.delete kind (Kind.id item))

end Catalog

end Steering.Store
