import Steering.Proofs.Store.Workspace

/-!
# Caches cannot be seen

A catalog is *coherent* if every listing it has cached is what the store holds now. On a coherent
catalog each operation does exactly what it would do if every listing were fetched anew, and
leaves the catalog coherent (`Implements`). A change only concerns the shelf whose cache it
invalidates, so the other caches stay true.

`trace_eq_uncached` says this of runs of any length: whatever is asked of a catalog, in whatever
order and whether or not the file can be written, the answers and the stores are those of a catalog
without caches.
-/

namespace Steering.Store

open Traffic

variable {α β : Type}

/-! ### Operations with a state and errors -/

theorem run_bind {ε σ : Type} (first : ExceptT ε (StateM σ) α)
    (next : α → ExceptT ε (StateM σ) β) (s : σ) :
    (first >>= next).run s =
      match first.run s with
      | (.ok a, s) => (next a).run s
      | (.error e, s) => (.error e, s) := by
  change (ExceptT.bindCont next (first.run s).1) (first.run s).2 = _
  rcases first.run s with ⟨_ | _, _⟩ <;> rfl

theorem run_map {ε σ : Type} (f : α → β) (program : ExceptT ε (StateM σ) α) (s : σ) :
    (f <$> program).run s = ((program.run s).1.map f, (program.run s).2) := by
  rw [← bind_pure_comp, run_bind]
  rcases program.run s with ⟨_ | _, _⟩ <;> rfl

theorem run_get {ε σ : Type} (s : σ) : (get : ExceptT ε (StateM σ) σ).run s = (.ok s, s) := rfl

theorem run_modify {ε σ : Type} (f : σ → σ) (s : σ) :
    (modify f : ExceptT ε (StateM σ) PUnit).run s = (.ok ⟨⟩, f s) := rfl

theorem run_pure {ε σ : Type} (a : α) (s : σ) :
    (Pure.pure a : ExceptT ε (StateM σ) α).run s = (.ok a, s) := rfl

theorem run_liftM {ε σ : Type} (result : Except ε α) (s : σ) :
    (liftM result : ExceptT ε (StateM σ) α).run s = (result, s) := by
  cases result <;> rfl

/-! ### Caches by shelf -/

namespace Caches

@[simp] theorem get_set_self (caches : Caches) (shelf : Shelf) (cache : Cache shelf.kind.Item) :
    (caches.set shelf cache).get shelf = cache := by
  rcases shelf with (_ | _ | _ | _) | _ <;> rfl

theorem get_set_of_ne (caches : Caches) {shelf other : Shelf} (different : other ≠ shelf)
    (cache : Cache shelf.kind.Item) : (caches.set shelf cache).get other = caches.get other := by
  rcases shelf with (_ | _ | _ | _) | _ <;> rcases other with (_ | _ | _ | _) | _ <;>
    first | rfl | exact absurd rfl different

@[simp] theorem get_empty (shelf : Shelf) : ({} : Caches).get shelf = {} := by
  rcases shelf with (_ | _ | _ | _) | _ <;> rfl

end Caches

namespace Catalog

def document (catalog : Catalog Workspace) : Document := catalog.backend.store.document

/-- Every listing that is cached is what the store holds. -/
def Coherent (catalog : Catalog Workspace) : Prop :=
  ∀ shelf items, (catalog.caches.get shelf).listing = some items →
    items = catalog.document.shelf shelf

/-- A catalog that has fetched nothing is coherent. -/
theorem coherent_new (w : Workspace) : ({ backend := w } : Catalog Workspace).Coherent := by
  intro shelf items cached
  simp at cached

/-- Listings stay true while the document does not change. -/
theorem Coherent.of_document {catalog : Catalog Workspace} (coherent : catalog.Coherent)
    {w : Workspace} (same : w.store.document = catalog.document) :
    ({ catalog with backend := w } : Catalog Workspace).Coherent := by
  intro shelf items cached
  rw [coherent shelf items cached, ← same]
  rfl

/-- A listing may be cached if it is what the store holds. -/
theorem Coherent.set {catalog : Catalog Workspace} (coherent : catalog.Coherent) (shelf : Shelf) :
    ({ catalog with
        caches := catalog.caches.set shelf { listing := some (catalog.document.shelf shelf) } } :
      Catalog Workspace).Coherent := by
  intro other items cached
  by_cases same : other = shelf
  · subst same
    rw [Caches.get_set_self, Option.some.injEq] at cached
    exact cached.symm
  · simp only [Caches.get_set_of_ne _ same] at cached
    exact coherent other items cached

/-- With the cache of the changed shelf emptied, the others are still true. -/
theorem Coherent.changed {catalog : Catalog Workspace} (coherent : catalog.Coherent) {shelf : Shelf}
    {w : Workspace} (kept : ∀ other ≠ shelf,
      w.store.document.shelf other = catalog.document.shelf other) :
    ({ backend := w, caches := catalog.caches.set shelf {} } : Catalog Workspace).Coherent := by
  intro other items cached
  by_cases same : other = shelf
  · subst same
    simp at cached
  · simp only [Caches.get_set_of_ne _ same] at cached
    rw [coherent other items cached]
    exact (kept other same).symm

end Catalog

/-! ### A catalog without caches

The operations of a catalog, with each listing fetched from the service when it is looked at. -/

section Service

variable (now : Instant) (w : Workspace)

theorem run_list (shelf : Shelf) :
    ((service now).list shelf).run w = (.ok (w.store.document.shelf shelf), w) := rfl

theorem run_create {kind : Kind} (item : kind.Item) :
    ((service now).create kind item).run w = w.create now item := rfl

end Service

namespace Uncached

variable {σ : Type} (s : Service σ)

def platforms (scope : Scope) : ExceptT TrafficError (StateM σ) (List Platform) := do
  let community ← if scope.includes .community then s.list .community else pure []
  let own ← if scope.includes .private_ then s.list (.own .platform) else pure []
  pure (community ++ own)

def platformByName (name : String) (scope : Scope) :
    ExceptT TrafficError (StateM σ) Platform := do
  let items ← platforms s scope
  liftM (@Catalog.named .platform name items)

def byName (kind : Kind) (name : String) : ExceptT TrafficError (StateM σ) kind.Item := do
  let items ← s.list (.own kind)
  liftM (Catalog.named name items)

def delete (kind : Kind) (name : String) : ExceptT TrafficError (StateM σ) Unit := do
  let item ← byName s kind name
  s.delete kind (Kind.id item)

end Uncached

/-! ### Operations on a coherent catalog -/

/-- On coherent catalogs the operation does what `direct` does to the workspace. -/
def Implements (operation : CatalogM Workspace α)
    (direct : ExceptT TrafficError (StateM Workspace) α) : Prop :=
  ∀ catalog : Catalog Workspace, catalog.Coherent →
    (operation.run catalog).1 = (direct.run catalog.backend).1 ∧
      (operation.run catalog).2.backend = (direct.run catalog.backend).2 ∧
      (operation.run catalog).2.Coherent

namespace Implements

theorem pure (a : α) : Implements (Pure.pure a) (Pure.pure a) :=
  fun _ coherent => ⟨rfl, rfl, coherent⟩

theorem lift (result : Except TrafficError α) : Implements (liftM result) (liftM result) :=
  fun _ coherent => by simp only [run_liftM, coherent, and_self]

theorem bind {first : CatalogM Workspace α} {direct : ExceptT TrafficError (StateM Workspace) α}
    {next : α → CatalogM Workspace β} {after : α → ExceptT TrafficError (StateM Workspace) β}
    (begins : Implements first direct) (goesOn : ∀ a, Implements (next a) (after a)) :
    Implements (first >>= next) (direct >>= after) := by
  intro catalog coherent
  obtain ⟨result, backend, between⟩ := begins catalog coherent
  rw [run_bind, run_bind]
  revert result backend between
  rcases first.run catalog with ⟨_ | a, catalog'⟩ <;>
    rcases direct.run catalog.backend with ⟨_ | b, w⟩ <;>
    intro result backend between <;> cases result <;> cases backend
  · exact ⟨rfl, rfl, between⟩
  · exact goesOn a catalog' between

variable (now : Instant)

theorem list (shelf : Shelf) :
    Implements (Catalog.list (service now) shelf) ((service now).list shelf) := by
  intro catalog coherent
  have fetched : ((catalog.caches.get shelf).list
      (Catalog.call ((service now).list shelf))).run catalog =
      (.ok (catalog.document.shelf shelf, { listing := some (catalog.document.shelf shelf) }),
        catalog) := by
    cases cached : catalog.caches.get shelf with
    | mk listing =>
      cases listing with
      | none => rfl
      | some items =>
        rw [coherent shelf items (by rw [cached])]
        rfl
  simp only [Catalog.list, run_bind, run_get, fetched, run_modify, run_pure]
  exact ⟨rfl, rfl, coherent.set shelf⟩

/-- A change that only concerns the own shelf of a kind needs no other cache invalidated. -/
theorem change (kind : Kind) {request : ExceptT TrafficError (StateM Workspace) α}
    (kept : ∀ w, ∀ shelf ≠ Shelf.own kind, (request.run w).2.store.document.shelf shelf =
      w.store.document.shelf shelf) : Implements (Catalog.change kind request) request :=
  fun catalog coherent => ⟨rfl, rfl, coherent.changed (kept catalog.backend)⟩

theorem platforms (scope : Scope) :
    Implements (Catalog.platforms (service now) scope)
      (Uncached.platforms (service now) scope) := by
  have withOwn (community : List Platform) :
      Implements (if scope.includes .private_ then
          Catalog.list (service now) (.own .platform) >>= fun own => Pure.pure (community ++ own)
        else Pure.pure [] >>= fun own => Pure.pure (community ++ own))
        (if scope.includes .private_ then
          (service now).list (.own .platform) >>= fun own => Pure.pure (community ++ own)
        else Pure.pure [] >>= fun own => Pure.pure (community ++ own)) := by
    split
    · exact bind (list now _) fun _ => pure _
    · exact bind (pure _) fun _ => pure _
  unfold Catalog.platforms Uncached.platforms
  dsimp only
  split
  · exact bind (list now _) withOwn
  · exact bind (pure _) withOwn

theorem platformByName (name : String) (scope : Scope) :
    Implements (Catalog.platformByName (service now) name scope)
      (Uncached.platformByName (service now) name scope) :=
  bind (platforms now scope) fun _ => lift _

theorem byName (kind : Kind) (name : String) :
    Implements (Catalog.byName (service now) kind name)
      (Uncached.byName (service now) kind name) :=
  bind (list now (.own kind)) fun _ => lift _

theorem create (kind : Kind) (item : kind.Item) :
    Implements (Catalog.create (service now) kind item) ((service now).create kind item) := by
  refine change kind fun w shelf different => ?_
  change (w.create now item).2.store.document.shelf shelf = w.store.document.shelf shelf
  rcases done : w.create now item with ⟨_ | stored, after⟩
  · rw [Workspace.eq_of_commit_error done]
  · obtain ⟨disk, created, -, rfl⟩ := Workspace.create_eq_ok_iff.mp done
    obtain ⟨-, -, rfl, -⟩ := Document.create_eq_ok_iff.mp created
    exact Document.shelf_add_of_ne _ (Document.deletable_asStored now _ item) different

theorem delete (kind : Kind) (name : String) :
    Implements (Catalog.delete (service now) kind name)
      (Uncached.delete (service now) kind name) := by
  refine bind (byName now kind name) fun item => change kind fun w shelf different => ?_
  change (w.delete kind (Kind.id item)).2.store.document.shelf shelf = w.store.document.shelf shelf
  rcases done : w.delete kind (Kind.id item) with ⟨_ | _, after⟩
  · rw [Workspace.eq_of_commit_error done]
  · obtain ⟨disk, -, -, rfl⟩ := Workspace.delete_eq_ok_iff.mp done
    exact Document.shelf_remove_of_ne _ _ different

theorem invalidateAll : Implements Catalog.invalidateAll (Pure.pure ()) :=
  fun catalog _ => ⟨rfl, rfl, Catalog.coherent_new catalog.backend⟩

end Implements

/-! ### Runs -/

/-- What can be asked of a catalog. -/
inductive Request where
  | platforms (scope : Scope)
  | list (kind : Kind)
  | platformByName (name : String) (scope : Scope)
  | byName (kind : Kind) (name : String)
  | create (kind : Kind) (item : kind.Item)
  | delete (kind : Kind) (name : String)
  | invalidateAll

namespace Request

/-- What a request is answered with. -/
@[reducible] def Answer : Request → Type
  | .platforms _ => List Platform
  | .list kind => List kind.Item
  | .platformByName _ _ => Platform
  | .byName kind _ => kind.Item
  | .create kind _ => kind.Item
  | .delete _ _ => Unit
  | .invalidateAll => Unit

variable (now : Instant)

/-- How a catalog carries out a request. -/
def onCatalog : (request : Request) → CatalogM Workspace request.Answer
  | .platforms scope => Catalog.platforms (service now) scope
  | .list kind => Catalog.list (service now) (.own kind)
  | .platformByName name scope => Catalog.platformByName (service now) name scope
  | .byName kind name => Catalog.byName (service now) kind name
  | .create kind item => Catalog.create (service now) kind item
  | .delete kind name => Catalog.delete (service now) kind name
  | .invalidateAll => Catalog.invalidateAll

/-- How a request is carried out without caches. -/
def uncached : (request : Request) → ExceptT TrafficError (StateM Workspace) request.Answer
  | .platforms scope => Uncached.platforms (service now) scope
  | .list kind => (service now).list (.own kind)
  | .platformByName name scope => Uncached.platformByName (service now) name scope
  | .byName kind name => Uncached.byName (service now) kind name
  | .create kind item => (service now).create kind item
  | .delete kind name => Uncached.delete (service now) kind name
  | .invalidateAll => pure ()

theorem onCatalog_implements (request : Request) :
    Implements (request.onCatalog now) (request.uncached now) :=
  match request with
  | .platforms scope => .platforms now scope
  | .list kind => .list now (.own kind)
  | .platformByName name scope => .platformByName now name scope
  | .byName kind name => .byName now kind name
  | .create kind item => .create now kind item
  | .delete kind name => .delete now kind name
  | .invalidateAll => .invalidateAll

end Request

/-- A request, the time at which it is made, and the disk as it is then. Files may come and go and
may or may not be writable between any two requests. -/
structure Event where
  request : Request
  now : Instant
  disk : Disk

/-- What is seen of a request: the answer or the error, and the disk and the store after it. -/
structure Seen where
  request : Request
  result : Except TrafficError request.Answer
  after : Workspace

namespace Event

def onCatalog (event : Event) (catalog : Catalog Workspace) :
    Except TrafficError event.request.Answer × Catalog Workspace :=
  (event.request.onCatalog event.now).run
    { catalog with backend := catalog.backend.onDisk event.disk }

def uncached (event : Event) (w : Workspace) :
    Except TrafficError event.request.Answer × Workspace :=
  (event.request.uncached event.now).run (w.onDisk event.disk)

/-- One event on a coherent catalog. -/
theorem onCatalog_eq_uncached (event : Event) {catalog : Catalog Workspace}
    (coherent : catalog.Coherent) :
    (event.onCatalog catalog).1 = (event.uncached catalog.backend).1 ∧
      (event.onCatalog catalog).2.backend = (event.uncached catalog.backend).2 ∧
      (event.onCatalog catalog).2.Coherent :=
  event.request.onCatalog_implements event.now _ (coherent.of_document rfl)

end Event

namespace Catalog

/-- The catalog after a list of events. -/
def after (catalog : Catalog Workspace) : List Event → Catalog Workspace
  | [] => catalog
  | event :: events => (event.onCatalog catalog).2.after events

/-- What is seen of a list of events. -/
def trace (catalog : Catalog Workspace) : List Event → List Seen
  | [] => []
  | event :: events =>
    let (result, catalog) := event.onCatalog catalog
    { request := event.request, result, after := catalog.backend } :: catalog.trace events

/-- What is seen of a list of events if nothing is cached. -/
def uncachedTrace (w : Workspace) : List Event → List Seen
  | [] => []
  | event :: events =>
    let (result, w) := event.uncached w
    { request := event.request, result, after := w } :: uncachedTrace w events

theorem Coherent.after {catalog : Catalog Workspace} (coherent : catalog.Coherent)
    (events : List Event) : (catalog.after events).Coherent := by
  induction events generalizing catalog with
  | nil => exact coherent
  | cons event events ih => exact ih (event.onCatalog_eq_uncached coherent).2.2

theorem Coherent.trace_eq {catalog : Catalog Workspace} (coherent : catalog.Coherent)
    (events : List Event) : catalog.trace events = uncachedTrace catalog.backend events := by
  induction events generalizing catalog with
  | nil => rfl
  | cons event events ih =>
    obtain ⟨result, backend, still⟩ := event.onCatalog_eq_uncached coherent
    simp only [trace, uncachedTrace, ih still, result, backend]

/-- **Caches cannot be seen**: a catalog answers every request of a run, and leaves the store and
the disk after each, as if it fetched every listing anew; and at any time of the run, every listing
it has cached is what the store holds. -/
theorem trace_eq_uncached (w : Workspace) (events : List Event) :
    ({ backend := w } : Catalog Workspace).trace events = uncachedTrace w events ∧
      ∀ n, (({ backend := w } : Catalog Workspace).after (events.take n)).Coherent :=
  ⟨(coherent_new w).trace_eq events, fun _ => (coherent_new w).after _⟩

end Catalog

end Steering.Store
