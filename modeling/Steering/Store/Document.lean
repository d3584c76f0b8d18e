import Steering.Json.Printer
import Steering.Json.Reader
import Steering.Traffic.Item

/-!
# The document of a store

All resources of a store are in one document, with the next free id. Ids are given out from one
counter for all kinds, so no two resources made by the store share one, even if the first has
been deleted.

The counter is a natural number without a bound, while ids in files have 64 bits. Raising it to
`2 ^ 64` (`settled`, `create`) is a fault that no error of the program stands for, so a document
with such a counter is no state of a store. What is said of a store is said of it as long as its
counter is below, and this is a hypothesis wherever a file is read back.
-/

namespace Steering.Store

open Traffic

structure Document where
  nextId : Nat := 0
  platforms : List Platform := []
  alerts : List Alert := []
  applications : List Application := []
  zones : List Zone := []
deriving Repr, DecidableEq, Inhabited

namespace Document

def items (doc : Document) : (kind : Kind) → List kind.Item
  | .platform => doc.platforms
  | .alert => doc.alerts
  | .application => doc.applications
  | .zone => doc.zones

/-- The document with other resources of one kind. -/
def withItems (doc : Document) : (kind : Kind) → List kind.Item → Document
  | .platform, items => { doc with platforms := items }
  | .alert, items => { doc with alerts := items }
  | .application, items => { doc with applications := items }
  | .zone, items => { doc with zones := items }

def ids (doc : Document) : List Nat :=
  doc.platforms.map (·.id) ++ doc.alerts.map (·.id) ++ doc.applications.map (·.id) ++
    doc.zones.map (·.id)

/-- The largest id of a resource, and 0 if there are none. -/
def maxId (doc : Document) : Nat := doc.ids.foldl max 0

/-- The id that the next resource gets. There is no id 0, and no last id. -/
def freeId (doc : Document) : Nat := max doc.nextId 1

/-- The document with a counter above every id in it, however large that is. -/
def settled (doc : Document) : Document := { doc with nextId := max doc.nextId (doc.maxId + 1) }

def find? (doc : Document) (kind : Kind) (id : Nat) : Option kind.Item :=
  (doc.items kind).find? fun item => Kind.id item = id

def noSuchId (kind : Kind) (id : Nat) : TrafficError := .notFound kind ("#" ++ toString id)

/-- The resource of a kind with the given id. -/
def get (doc : Document) (kind : Kind) (id : Nat) : Except TrafficError kind.Item :=
  match doc.find? kind id with
  | some item => .ok item
  | none => .error (noSuchId kind id)

/-- What a new resource needs to find in the document: an alert its platform. -/
def check (doc : Document) : {kind : Kind} → kind.Item → Except TrafficError Unit
  | .alert, alert => (doc.get .platform (Alert.platform alert)).map fun _ => ()
  | _, _ => .ok ()

/-- A new resource as it is stored: with its id, and a platform as private and made now. -/
def asStored (now : Instant) (id : Nat) : {kind : Kind} → kind.Item → kind.Item
  | .platform, platform =>
    { platform with id := id, visibility := .private_, created := some now, modified := some now }
  | .alert, alert => { alert with id := id }
  | .application, application => { application with id := id }
  | .zone, zone => { zone with id := id }

/-- Adds a resource, whose name must be new among those of its kind. -/
def create (now : Instant) (doc : Document) {kind : Kind} (item : kind.Item) :
    Except TrafficError (kind.Item × Document) :=
  if (doc.items kind).any fun other => Kind.nameOf other = Kind.nameOf item then
    .error (.duplicate kind (Kind.nameOf item))
  else
    match doc.check item with
    | .error e => .error e
    | .ok () =>
      let created := asStored now doc.freeId item
      .ok (created,
        { doc.withItems kind (doc.items kind ++ [created]) with nextId := doc.freeId + 1 })

/-- Community platforms cannot be deleted. -/
def deletable : {kind : Kind} → kind.Item → Bool
  | .platform, platform => Platform.visibility platform == .private_
  | _, _ => true

/-- Removes the first resource with the given id that can be deleted. -/
def delete (doc : Document) (kind : Kind) (id : Nat) : Except TrafficError Document :=
  let doomed := fun item : kind.Item => Kind.id item = id && deletable item
  if (doc.items kind).any doomed then
    .ok (doc.withItems kind ((doc.items kind).eraseP doomed))
  else .error (noSuchId kind id)

/-! ### Documents as JSON -/

def fieldNames : List String := ["nextId", "platforms", "alerts", "applications", "zones"]

def ofJson? (json : Json) : Option Document := do
  let fields ← json.fields? fieldNames
  some {
    nextId := ← Json.defaulted fields "nextId" 0 (Json.asNat? 64)
    platforms := ← Json.defaulted fields "platforms" [] (Json.asList? Platform.ofJson?)
    alerts := ← Json.defaulted fields "alerts" [] (Json.asList? Alert.ofJson?)
    applications := ← Json.defaulted fields "applications" [] (Json.asList? Application.ofJson?)
    zones := ← Json.defaulted fields "zones" [] (Json.asList? Zone.ofJson?) }

def toJson (doc : Document) : Json :=
  .object
    [("nextId", .natural doc.nextId),
      ("platforms", .array (doc.platforms.map Platform.toJson)),
      ("alerts", .array (doc.alerts.map Alert.toJson)),
      ("applications", .array (doc.applications.map Application.toJson)),
      ("zones", .array (doc.zones.map Zone.toJson))]

def parse? (text : String) : Option Document := (Json.parse? text).bind ofJson?

/-- The text of a state file. -/
def toText (doc : Document) : String := doc.toJson.pretty

end Document

end Steering.Store
