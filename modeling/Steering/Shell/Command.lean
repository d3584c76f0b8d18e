import Steering.Grammar.Basic
import Steering.Suggestion
import Steering.Traffic.Item

/-!
# The commands of the console

The commands with their arguments. Every command has the shape *verb object arguments*, as in
`create platform cloud "West Edge" -region "Azure - West Europe"`.
-/

namespace Steering.Shell

open Grammar Traffic

inductive Command where
  | createCloudPlatform
  | createAlert
  | createApplication
  | createZone
  /-- Lists platforms of one visibility. -/
  | listPlatforms (visibility : Visibility)
  | listAlerts
  | listApplications
  | listZones
  | showOne (kind : Kind)
  | delete (kind : Kind)
  | help
  | exit
deriving Repr, DecidableEq

/-- Where candidates for an argument come from. -/
inductive Source where
  | fixed (offer : Suggestion.Offer)
  /-- Names of platforms of a scope, and of one category if given. -/
  | platforms (scope : Scope) (category : Option Category)
  /-- Names of the user's resources of a kind. -/
  | resources (kind : Kind)
deriving DecidableEq

/-- A grammar of console commands. The command says what to do, so there are no handlers. -/
abbrev CommandFragment := Fragment Command Empty Source

namespace Source

/-- Candidates that are offered if they begin with what has been typed, in any case. -/
def words (candidates : List (String × String)) : Source :=
  .fixed {
    candidates := candidates.map fun (text, description) => { text, description }
    matching := .start
    ignoreCase := true }

def truthValues : Source := words [("true", ""), ("false", "")]

def httpMethods : Source := words [("GET", ""), ("HEAD", ""), ("POST", "")]

def markets : Source :=
  words [("GL", "Global"), ("AF", "Africa"), ("AS", "Asia"), ("EU", "Europe"),
    ("NA", "North America"), ("OC", "Oceania"), ("SA", "South America"), ("XX", "Unknown")]

def applicationTypes : Source := words (ApplicationType.words.map fun word => (word, ""))

end Source

/-- A named argument with a value. -/
def value (name description : String) (source : Option Source := none) :
    String × NamedArg Source :=
  (name, { description, source })

/-- A complete command that takes no handler. -/
def command (code : Command) (description : String)
    (positional : List (PositionalArg Source) := [])
    (named : List (String × NamedArg Source) := []) : CommandFragment :=
  { description, positional, named := Dict.ofList named, code := some code }

/-- A fragment that only leads to others. -/
def group (description : String) (sub : List (String × CommandFragment))
    (named : List (String × NamedArg Source) := []) : CommandFragment :=
  { description, named := Dict.ofList named, sub }

/-- The name of the resource to make. -/
def newName (description : String) : PositionalArg Source := { name := "name", description }

/-- The name of an existing resource. -/
def knownName (description : String) (optional : Bool) (source : Source) : PositionalArg Source :=
  { name := "name", description, optional, source := some source }

def createCloudPlatform : CommandFragment :=
  command .createCloudPlatform "New private platform measured against a public cloud"
    [newName "Name of platform"]
    [value "shortName" "Set the short name",
      value "region" "Set the public cloud region"
        (some (.platforms .community (some .cloudComputing))),
      value "tags" "Comma-separated tags",
      ("force", { description := "Replace a private platform with the same name", isFlag := true }),
      value "sonarEnabled" "Enable health checks (true/false)" (some .truthValues),
      value "sonarUrl" "Health check URL",
      value "sonarPollInterval" "Seconds between health checks",
      value "sonarTimeout" "Health check timeout in seconds",
      value "sonarMethod" "HTTP method (default GET)" (some .httpMethods),
      value "sonarIgnoreSslErrors" "Ignore TLS errors (true/false)" (some .truthValues),
      value "sonarMaintenanceMode" "Maintenance mode (true/false)" (some .truthValues),
      value "sonarHost" "Host header for health checks",
      value "sonarMarket" "Market the checks run from" (some .markets),
      value "sonarRequestContentType" "Request content type",
      value "sonarResponseBodyMatch" "Expected response body",
      value "sonarResponseMatchType" "How the body is matched"]

def createAlert : CommandFragment :=
  command .createAlert "Create a health alert"
    [newName "Name of alert"]
    [value "type" "Alert type" (some (.words [("sonar", "Health check alert")])),
      value "platform" "Private platform to watch" (some (.platforms .private_ none)),
      value "change" "Which transitions alert"
        (some (.words [("any", "Any change"), ("down", "Platform goes down"),
          ("up", "Platform comes back up")])),
      value "timing" "When to alert" (some (.words [("immediate", "Immediately")])),
      value "emails" "Comma-separated recipients",
      value "interval" "Minutes between repeats (default 5)"]

def createApplication : CommandFragment :=
  command .createApplication "Create a traffic-steering application"
    [newName "Name of application"]
    [value "type" "Application type" (some .applicationTypes),
      value "fallbackCname" "CNAME used when no platform is available",
      value "availabilityThreshold" "Minimum availability percentage",
      value "targetPlatform" "Platform receiving traffic" (some (.platforms .all none)),
      value "targetCname" "CNAME of the target platform",
      value "sonarEnabled" "Use health checks (default true)" (some .truthValues)]

def createZone : CommandFragment :=
  command .createZone "Create a DNS zone"
    [newName "Domain name"]
    [value "tags" "Comma-separated tags",
      value "zoneFile" "BIND zone file to import"]

def createGroup : CommandFragment :=
  group "Creates platforms, alerts, applications and zones"
    [("platform", group "Create a new platform" [("cloud", createCloudPlatform)]),
      ("alert", createAlert),
      ("application", createApplication),
      ("zone", createZone)]
    [value "description" "Set the description"]

def listGroup : CommandFragment :=
  group "List platforms, alerts, applications and zones"
    [("platform",
        group "List platforms"
          [("community", command (.listPlatforms .community) "List community platforms"),
            ("private", command (.listPlatforms .private_) "List private platforms")]),
      ("alert", command .listAlerts "List alerts"),
      ("application", command .listApplications "List applications"),
      ("zone", command .listZones "List DNS zones")]
    [value "filter" "Regex filter on names"]

def showGroup : CommandFragment :=
  group "Show one resource as JSON"
    [("platform",
        command (.showOne .platform) "Show a platform"
          [knownName "Name of platform" false (.platforms .all none)]),
      ("alert",
        command (.showOne .alert) "Show an alert"
          [knownName "Name of alert" false (.resources .alert)]),
      ("application",
        command (.showOne .application) "Show an application"
          [knownName "Name of application" false (.resources .application)]),
      ("zone",
        command (.showOne .zone) "Show a DNS zone"
          [knownName "Domain name" false (.resources .zone)])]

def deleteGroup : CommandFragment :=
  group "Delete resources by name or by filter"
    [("platform",
        command (.delete .platform) "Delete private platforms"
          [knownName "Name of platform" true (.platforms .private_ none)]),
      ("alert",
        command (.delete .alert) "Delete alerts"
          [knownName "Name of alert" true (.resources .alert)]),
      ("application",
        command (.delete .application) "Delete applications"
          [knownName "Name of application" true (.resources .application)]),
      ("zone",
        command (.delete .zone) "Delete DNS zones"
          [knownName "Domain name" true (.resources .zone)])]
    [value "filter" "Delete everything whose name matches this regex"]

/-- The grammar of the console. -/
def spec : Spec Command Empty Source :=
  .ofCommands
    [("create", createGroup),
      ("list", listGroup),
      ("show", showGroup),
      ("delete", deleteGroup),
      ("help", command .help "List available commands"),
      ("exit", command .exit "Exit")]

end Steering.Shell
