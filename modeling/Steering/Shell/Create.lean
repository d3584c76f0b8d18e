import Steering.Shell.Console
import Steering.Shell.Value
import Steering.Text.Pieces

/-!
# Creating resources

The create commands. All argument values are read before the catalog is asked for anything.
-/

namespace Steering.Shell

open Grammar Store Traffic

/-- The health check settings of a platform. A check without a method uses GET. -/
def readSonar (args : Args Code) : Except ShellError Sonar := do
  let value := args.argOrEmpty
  let market ←
    if (value "sonarMarket").isEmpty then pure none
    else ((Market.parse (value "sonarMarket")).map some).mapError .traffic
  let enabled ← readBool "sonarEnabled" (value "sonarEnabled")
  let url ← readUrl "sonarUrl" (value "sonarUrl")
  let pollIntervalSeconds ← readNumber "sonarPollInterval" (value "sonarPollInterval")
  let timeoutSeconds ← readNumber "sonarTimeout" (value "sonarTimeout")
  let ignoreSslErrors ← readBool "sonarIgnoreSslErrors" (value "sonarIgnoreSslErrors")
  let maintenanceMode ← readBool "sonarMaintenanceMode" (value "sonarMaintenanceMode")
  let sonar : Sonar := {
    enabled, url, pollIntervalSeconds, timeoutSeconds, ignoreSslErrors, maintenanceMode, market
    method := (given? args "sonarMethod").map Text.upperAscii
    host := given? args "sonarHost"
    requestContentType := given? args "sonarRequestContentType"
    responseBodyMatch := given? args "sonarResponseBodyMatch"
    responseMatchType := given? args "sonarResponseMatchType" }
  if sonar ≠ {} ∧ sonar.method = none then pure { sonar with method := some "GET" }
  else pure sonar

/-- The short name of a platform that is given none. -/
def shortNameOf (name : String) : String :=
  String.ofList (name.toList.map fun c => if c = ' ' then '_' else c)

/-- The cloud platform that a region names. -/
def regionNamed (region : String) (platforms : List Platform) : Except TrafficError Platform :=
  match platforms.find? fun p => p.name = region && p.category == .cloudComputing with
  | some platform => .ok platform
  | none => .error (.notFound .platform region)

/-- What a create command reports. -/
def createdReport {kind : Kind} (item : kind.Item) : String :=
  "Created " ++ kind.name ++ " '" ++ Kind.nameOf item ++ "' (id " ++ toString (Kind.id item)

/-- Makes a private platform from a cloud region. With `-force` a private platform of that name
is deleted first. -/
def runCreatePlatform (s : Service Workspace) (args : Args Code) : ConsoleM Unit := do
  let name ← check (neededName args)
  let region ← check (needed args "region")
  let sonar ← check (readSonar args)
  if sonar.enabled = some true ∧ sonar.url = none then
    throw .checkWithoutUrl
  let regions ← onCatalog (Catalog.platforms s .community)
  let archetype ← checkTraffic (regionNamed region regions)
  if args.has "force" then
    let old ← onCatalog (Catalog.platforms s .private_)
    if old.any fun p => p.name = name then
      onCatalog (Catalog.delete s .platform name)
  let platform ← onCatalog (Catalog.create s .platform {
    id := 0
    name
    shortName := (given? args "shortName").getD (shortNameOf name)
    description := given? args "description"
    category := .cloudComputing
    visibility := .private_
    tags := Text.splitList (args.argOrEmpty "tags")
    archetype := some archetype.id
    sonar := if sonar = {} then none else some sonar })
  sayLine (@createdReport .platform platform ++ ")")

/-- The seconds of a number of minutes, at most 2^32 - 1. -/
def minutesToSeconds (minutes : Nat) : Nat := min (minutes * 60) 0xFFFFFFFF

def runCreateAlert (s : Service Workspace) (args : Args Code) : ConsoleM Unit := do
  let name ← check (neededName args)
  let type ← checkTraffic (AlertType.parse (args.argOrEmpty "type"))
  let change ← checkTraffic (AlertChange.parse (args.argOrEmpty "change"))
  let timing ← checkTraffic (AlertTiming.parse (args.argOrEmpty "timing"))
  let interval ← check (readNumber "interval" (args.argOrEmpty "interval"))
  let platformName ← check (needed args "platform")
  let platform ← onCatalog (Catalog.platformByName s platformName .private_)
  let alert ← onCatalog (Catalog.create s .alert {
    id := 0
    name
    type
    platform := platform.id
    change
    timing
    emails := Text.splitList (args.argOrEmpty "emails")
    intervalSeconds := minutesToSeconds (interval.getD 5)
    enabled := true })
  sayLine (@createdReport .alert alert ++ ")")

def runCreateApplication (s : Service Workspace) (args : Args Code) : ConsoleM Unit := do
  let name ← check (neededName args)
  let typeName ← check (needed args "type")
  let type ← checkTraffic (ApplicationType.parse typeName)
  let availabilityThreshold ←
    check (readNumber "availabilityThreshold" (args.argOrEmpty "availabilityThreshold"))
  let sonarEnabled ← check (readBool "sonarEnabled" (args.argOrEmpty "sonarEnabled"))
  let targetName ← check (needed args "targetPlatform")
  let target ← onCatalog (Catalog.platformByName s targetName .all)
  let application ← onCatalog (Catalog.create s .application {
    id := 0
    name
    description := given? args "description"
    type
    fallbackCname := given? args "fallbackCname"
    availabilityThreshold
    platforms := [{
      id := target.id
      cname := given? args "targetCname"
      sonarEnabled := sonarEnabled.getD true }]
    enabled := true })
  sayLine (@createdReport .application application ++ ")")

/-- The text of a file that is named on the line. -/
def readFile (path : String) : ConsoleM String := do
  match (← get).catalog.backend.disk.readText path with
  | .ok text => pure text
  | .error fault => throw (.io fault)

/-- Makes a zone. The zone file is read before anything else is looked at. -/
def runCreateZone (s : Service Workspace) (args : Args Code) : ConsoleM Unit := do
  let zoneFile ←
    match given? args "zoneFile" with
    | some path => some <$> readFile path
    | none => pure none
  let domainName ← check (neededName args)
  let zone ← onCatalog (Catalog.create s .zone {
    id := 0
    domainName
    description := given? args "description"
    tags := Text.splitList (args.argOrEmpty "tags")
    zoneFile })
  sayLine (@createdReport .zone zone ++ ", " ++ toString (Zone.recordCount zone) ++
    " records)")

end Steering.Shell
