import Steering.Instant
import Steering.Json.Fields
import Steering.Text.Lowercase
import Steering.Traffic.Error

/-!
# Platforms

A platform is a place that traffic can be steered to. Community platforms are shared and fixed;
private ones are made from a community platform, their archetype. A platform may be watched by
a health check, called sonar.
-/

namespace Steering.Traffic

inductive Visibility where
  | private_
  | community
deriving Repr, DecidableEq, Inhabited

namespace Visibility

def all : List Visibility := [.private_, .community]

def name : Visibility → String
  | .private_ => "private"
  | .community => "community"

end Visibility

/-- Which platforms a listing holds. -/
inductive Scope where
  | private_
  | community
  | all
deriving Repr, DecidableEq, Inhabited

def Scope.includes : Scope → Visibility → Bool
  | .private_, visibility => visibility == .private_
  | .community, visibility => visibility == .community
  | .all, _ => true

inductive Category where
  | cloudComputing
  | dynamicContent
  | deliveryNetwork
  | cloudStorage
deriving Repr, DecidableEq, Inhabited

namespace Category

def all : List Category := [.cloudComputing, .dynamicContent, .deliveryNetwork, .cloudStorage]

/-- The name in files. -/
def name : Category → String
  | .cloudComputing => "cloudComputing"
  | .dynamicContent => "dynamicContent"
  | .deliveryNetwork => "deliveryNetwork"
  | .cloudStorage => "cloudStorage"

/-- The name in tables. -/
def title : Category → String
  | .cloudComputing => "Cloud Computing"
  | .dynamicContent => "Dynamic Content"
  | .deliveryNetwork => "Delivery Network"
  | .cloudStorage => "Cloud Storage"

end Category

/-- A part of the world, named by two letters. -/
inductive Market where
  | global
  | africa
  | asia
  | europe
  | northAmerica
  | oceania
  | southAmerica
  | unknown
deriving Repr, DecidableEq, Inhabited

namespace Market

def all : List Market :=
  [.global, .africa, .asia, .europe, .northAmerica, .oceania, .southAmerica, .unknown]

def name : Market → String
  | .global => "GL"
  | .africa => "AF"
  | .asia => "AS"
  | .europe => "EU"
  | .northAmerica => "NA"
  | .oceania => "OC"
  | .southAmerica => "SA"
  | .unknown => "XX"

/-- Reads a market from a command line, in either case. -/
def parse (text : String) : Except TrafficError Market :=
  match all.find? fun market => market.name = Text.upperAscii text with
  | some market => .ok market
  | none => .error (.invalidValue "market" text)

end Market

/-- Settings of a health check. Those not given are left to the service. -/
structure Sonar where
  enabled : Option Bool := none
  url : Option String := none
  pollIntervalSeconds : Option Nat := none
  timeoutSeconds : Option Nat := none
  method : Option String := none
  ignoreSslErrors : Option Bool := none
  maintenanceMode : Option Bool := none
  host : Option String := none
  market : Option Market := none
  requestContentType : Option String := none
  responseBodyMatch : Option String := none
  responseMatchType : Option String := none
deriving Repr, DecidableEq, Inhabited

namespace Sonar

def fieldNames : List String :=
  ["enabled", "url", "pollIntervalSeconds", "timeoutSeconds", "method", "ignoreSslErrors",
    "maintenanceMode", "host", "market", "requestContentType", "responseBodyMatch",
    "responseMatchType"]

def ofJson? (json : Json) : Option Sonar := do
  let fields ← json.fields? fieldNames
  some {
    enabled := ← Json.optional fields "enabled" Json.asBool?
    url := ← Json.optional fields "url" Json.asString?
    pollIntervalSeconds := ← Json.optional fields "pollIntervalSeconds" (Json.asNat? 32)
    timeoutSeconds := ← Json.optional fields "timeoutSeconds" (Json.asNat? 32)
    method := ← Json.optional fields "method" Json.asString?
    ignoreSslErrors := ← Json.optional fields "ignoreSslErrors" Json.asBool?
    maintenanceMode := ← Json.optional fields "maintenanceMode" Json.asBool?
    host := ← Json.optional fields "host" Json.asString?
    market := ← Json.optional fields "market" (Json.asChoice? Market.all Market.name)
    requestContentType := ← Json.optional fields "requestContentType" Json.asString?
    responseBodyMatch := ← Json.optional fields "responseBodyMatch" Json.asString?
    responseMatchType := ← Json.optional fields "responseMatchType" Json.asString? }

def toJson (s : Sonar) : Json :=
  .object (
    Json.member "enabled" .bool s.enabled ++
    Json.member "url" .string s.url ++
    Json.member "pollIntervalSeconds" .natural s.pollIntervalSeconds ++
    Json.member "timeoutSeconds" .natural s.timeoutSeconds ++
    Json.member "method" .string s.method ++
    Json.member "ignoreSslErrors" .bool s.ignoreSslErrors ++
    Json.member "maintenanceMode" .bool s.maintenanceMode ++
    Json.member "host" .string s.host ++
    Json.member "market" (fun market => .string market.name) s.market ++
    Json.member "requestContentType" .string s.requestContentType ++
    Json.member "responseBodyMatch" .string s.responseBodyMatch ++
    Json.member "responseMatchType" .string s.responseMatchType)

end Sonar

structure Platform where
  id : Nat
  name : String
  shortName : String
  description : Option String := none
  category : Category
  visibility : Visibility
  tags : List String := []
  /-- The id of the community platform that this one is made from. -/
  archetype : Option Nat := none
  sonar : Option Sonar := none
  created : Option Instant := none
  modified : Option Instant := none
deriving Repr, DecidableEq, Inhabited

namespace Platform

def fieldNames : List String :=
  ["id", "name", "shortName", "description", "category", "visibility", "tags", "archetype",
    "sonar", "created", "modified"]

def instant? (json : Json) : Option Instant := json.asString?.bind Instant.parse?

def ofJson? (json : Json) : Option Platform := do
  let fields ← json.fields? fieldNames
  some {
    id := ← Json.required fields "id" (Json.asNat? 64)
    name := ← Json.required fields "name" Json.asString?
    shortName := ← Json.required fields "shortName" Json.asString?
    description := ← Json.optional fields "description" Json.asString?
    category := ← Json.required fields "category" (Json.asChoice? Category.all Category.name)
    visibility :=
      ← Json.required fields "visibility" (Json.asChoice? Visibility.all Visibility.name)
    tags := ← Json.defaulted fields "tags" [] (Json.asList? Json.asString?)
    archetype := ← Json.optional fields "archetype" (Json.asNat? 64)
    sonar := ← Json.optional fields "sonar" Sonar.ofJson?
    created := ← Json.optional fields "created" instant?
    modified := ← Json.optional fields "modified" instant? }

def toJson (p : Platform) : Json :=
  .object (
    [("id", .natural p.id), ("name", .string p.name), ("shortName", .string p.shortName)] ++
    Json.member "description" .string p.description ++
    [("category", .string p.category.name), ("visibility", .string p.visibility.name),
      ("tags", Json.strings p.tags)] ++
    Json.member "archetype" .natural p.archetype ++
    Json.member "sonar" Sonar.toJson p.sonar ++
    Json.member "created" (fun t => .string t.toText) p.created ++
    Json.member "modified" (fun t => .string t.toText) p.modified)

end Platform

end Steering.Traffic
