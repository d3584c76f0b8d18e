import Steering.Json.Fields
import Steering.Text.Lowercase
import Steering.Traffic.Error

/-!
# Applications

An application decides, by the method its type names, to which of its platforms a request goes.
-/

namespace Steering.Traffic

inductive ApplicationType where
  | javascript
  | optimalRtt
  | failover
  | roundRobin
  | staticRouting
  | throughput
deriving Repr, DecidableEq, Inhabited

namespace ApplicationType

def all : List ApplicationType :=
  [.javascript, .optimalRtt, .failover, .roundRobin, .staticRouting, .throughput]

/-- The name in files. -/
def name : ApplicationType → String
  | .javascript => "JS_V1"
  | .optimalRtt => "RT_HTTP_PERFORMANCE"
  | .failover => "STATIC_FAILOVER"
  | .roundRobin => "RR_PURE_WEIGHTED"
  | .staticRouting => "STATIC_ROUTING"
  | .throughput => "KBPS_HTTP_PERFORMANCE"

/-- The name on a command line. -/
def word : ApplicationType → String
  | .javascript => "javascript"
  | .optimalRtt => "optimal-rtt"
  | .failover => "failover"
  | .roundRobin => "round-robin"
  | .staticRouting => "static-routing"
  | .throughput => "throughput"

/-- The names on a command line, in order. -/
def words : List String :=
  ["failover", "javascript", "optimal-rtt", "round-robin", "static-routing", "throughput"]

/-- Reads a type from a command line, by either of its names and in either case. -/
def parse (text : String) : Except TrafficError ApplicationType :=
  let given := Text.lowerAscii text
  match all.find? fun type => type.word = given || Text.lowerAscii type.name = given with
  | some type => .ok type
  | none => .error (.invalidValue "type" text)

end ApplicationType

/-- A platform of an application. -/
structure Target where
  id : Nat
  cname : Option String := none
  sonarEnabled : Bool
deriving Repr, DecidableEq, Inhabited

namespace Target

def ofJson? (json : Json) : Option Target := do
  let fields ← json.fields? ["id", "cname", "sonarEnabled"]
  some {
    id := ← Json.required fields "id" (Json.asNat? 64)
    cname := ← Json.optional fields "cname" Json.asString?
    sonarEnabled := ← Json.required fields "sonarEnabled" Json.asBool? }

def toJson (t : Target) : Json :=
  .object (
    [("id", .natural t.id)] ++ Json.member "cname" .string t.cname ++
    [("sonarEnabled", .bool t.sonarEnabled)])

end Target

structure Application where
  id : Nat
  name : String
  description : Option String := none
  type : ApplicationType
  cname : Option String := none
  fallbackCname : Option String := none
  availabilityThreshold : Option Nat := none
  platforms : List Target := []
  enabled : Bool
deriving Repr, DecidableEq, Inhabited

namespace Application

def fieldNames : List String :=
  ["id", "name", "description", "type", "cname", "fallbackCname", "availabilityThreshold",
    "platforms", "enabled"]

def ofJson? (json : Json) : Option Application := do
  let fields ← json.fields? fieldNames
  some {
    id := ← Json.required fields "id" (Json.asNat? 64)
    name := ← Json.required fields "name" Json.asString?
    description := ← Json.optional fields "description" Json.asString?
    type := ← Json.required fields "type" (Json.asChoice? ApplicationType.all ApplicationType.name)
    cname := ← Json.optional fields "cname" Json.asString?
    fallbackCname := ← Json.optional fields "fallbackCname" Json.asString?
    availabilityThreshold := ← Json.optional fields "availabilityThreshold" (Json.asNat? 32)
    platforms := ← Json.defaulted fields "platforms" [] (Json.asList? Target.ofJson?)
    enabled := ← Json.required fields "enabled" Json.asBool? }

def toJson (a : Application) : Json :=
  .object (
    [("id", .natural a.id), ("name", .string a.name)] ++
    Json.member "description" .string a.description ++
    [("type", .string a.type.name)] ++
    Json.member "cname" .string a.cname ++
    Json.member "fallbackCname" .string a.fallbackCname ++
    Json.member "availabilityThreshold" .natural a.availabilityThreshold ++
    [("platforms", .array (a.platforms.map Target.toJson)), ("enabled", .bool a.enabled)])

end Application

end Steering.Traffic
