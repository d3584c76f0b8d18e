import Steering.Shell.Console
import Steering.Shell.Table
import Steering.Shell.Value
import Steering.Traffic.Filter

/-!
# Reporting

The commands that only report: `list` prints a table, `show` the JSON text of one resource,
`help` the list of commands.
-/

namespace Steering.Shell

open Grammar Store Traffic

def truthText (b : Bool) : String := if b then "true" else "false"

/-- The name of the first platform with an id, and no text if there is none. -/
def platformName (platforms : List Platform) (id : Nat) : String :=
  match platforms.find? fun p => p.id = id with
  | some platform => platform.name
  | none => ""

/-- A table of platforms, where `known` are those that may be archetypes. -/
def platformTable (known platforms : List Platform) : Table where
  columns := ["Name", "ID", "Category", "Alias"]
  rows := platforms.map fun p =>
    [p.name, toString p.id, p.category.title, (p.archetype.map (platformName known)).getD ""]

def alertTable (known : List Platform) (alerts : List Alert) : Table where
  columns := ["Name", "Enabled", "Platform"]
  rows := alerts.map fun a => [a.name, truthText a.enabled, platformName known a.platform]

def applicationTable (applications : List Application) : Table where
  columns := ["Name", "Enabled", "CNAME"]
  rows := applications.map fun a => [a.name, truthText a.enabled, a.cname.getD ""]

def zoneTable (zones : List Zone) : Table where
  columns := ["Domain", "Records", "Description"]
  rows := zones.map fun z => [z.domainName, toString z.recordCount, z.description.getD ""]

/-- The scope of the platforms of one visibility. -/
def scopeOf : Visibility → Scope
  | .private_ => .private_
  | .community => .community

section Lists

variable [FilterEngine]

def runListPlatforms (s : Service Workspace) (width : Nat) (visibility : Visibility)
    (filter : String) : ConsoleM Unit := do
  let known ← onCatalog (Catalog.platforms s .all)
  let platforms ← onCatalog (Catalog.platforms s (scopeOf visibility))
  let kept ← checkTraffic (filterByName Platform.name filter platforms)
  say ((platformTable known kept).print width)

def runListAlerts (s : Service Workspace) (width : Nat) (filter : String) : ConsoleM Unit := do
  let known ← onCatalog (Catalog.platforms s .all)
  let alerts ← onCatalog (Catalog.list s (.own .alert))
  let kept ← checkTraffic (filterByName Alert.name filter alerts)
  say ((alertTable known kept).print width)

def runListApplications (s : Service Workspace) (width : Nat) (filter : String) :
    ConsoleM Unit := do
  let applications ← onCatalog (Catalog.list s (.own .application))
  let kept ← checkTraffic (filterByName Application.name filter applications)
  say ((applicationTable kept).print width)

def runListZones (s : Service Workspace) (width : Nat) (filter : String) : ConsoleM Unit := do
  let zones ← onCatalog (Catalog.list s (.own .zone))
  let kept ← checkTraffic (filterByName Zone.domainName filter zones)
  say ((zoneTable kept).print width)

end Lists

/-- The resource that `show` means by a name: a platform of any scope, or a resource of the
user's. -/
def findShown (s : Service Workspace) (kind : Kind) (name : String) :
    CatalogM Workspace kind.Item :=
  match kind with
  | .platform => Catalog.platformByName s name .all
  | .alert => Catalog.byName s .alert name
  | .application => Catalog.byName s .application name
  | .zone => Catalog.byName s .zone name

def runShow (s : Service Workspace) (kind : Kind) (args : Args Code) : ConsoleM Unit := do
  let item ← onCatalog (findShown s kind (args.argOrEmpty "name"))
  sayLine (Kind.toJson item).pretty

/-! ### Help -/

/-- A command with its positional arguments, as help shows it. -/
def usage (words : List String) (fragment : CommandFragment) : String :=
  String.intercalate " " (words ++ fragment.positional.map fun arg =>
    if arg.optional then "[<" ++ arg.name ++ ">]" else "<" ++ arg.name ++ ">")

/-- Commands and their descriptions. -/
def helpEntries : List (String × String) :=
  spec.commands.map fun (words, fragment) => (usage words fragment, fragment.description)

/-- The commands with their descriptions in a column. -/
def helpText (entries : List (String × String)) : String :=
  let width := (entries.map fun entry => entry.1.utf8ByteSize).foldl max 0
  String.join (entries.map fun (usage, description) =>
    "  " ++ usage ++ String.ofList (List.replicate (width - usage.length) ' ') ++ "  " ++
      description ++ "\n")

def runHelp : ConsoleM Unit := say (helpText helpEntries)

end Steering.Shell
