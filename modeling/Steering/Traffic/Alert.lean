import Steering.Json.Fields
import Steering.Text.Lowercase
import Steering.Traffic.Error

/-!
# Alerts

An alert sends mail when a platform goes down or comes back up.
-/

namespace Steering.Traffic

/-- What an alert listens to. -/
inductive AlertType where
  | sonar
deriving Repr, DecidableEq, Inhabited

namespace AlertType

def all : List AlertType := [.sonar]

def name : AlertType → String
  | .sonar => "sonar"

/-- Reads a type from a command line, in either case; no text is the only type there is. -/
def parse (text : String) : Except TrafficError AlertType :=
  match Text.lowerAscii text with
  | "" | "sonar" => .ok .sonar
  | _ => .error (.invalidValue "type" text)

end AlertType

/-- Which changes of a platform an alert reports. -/
inductive AlertChange where
  | any
  | toUp
  | toDown
deriving Repr, DecidableEq, Inhabited

namespace AlertChange

def all : List AlertChange := [.any, .toUp, .toDown]

def name : AlertChange → String
  | .any => "any"
  | .toUp => "toUp"
  | .toDown => "toDown"

/-- Reads a change from a command line, in either case; no text is any change. -/
def parse (text : String) : Except TrafficError AlertChange :=
  match Text.lowerAscii text with
  | "" | "any" => .ok .any
  | "up" | "toup" => .ok .toUp
  | "down" | "todown" => .ok .toDown
  | _ => .error (.invalidValue "change" text)

end AlertChange

/-- When an alert is sent. -/
inductive AlertTiming where
  | immediate
deriving Repr, DecidableEq, Inhabited

namespace AlertTiming

def all : List AlertTiming := [.immediate]

def name : AlertTiming → String
  | .immediate => "immediate"

def parse (text : String) : Except TrafficError AlertTiming :=
  match Text.lowerAscii text with
  | "" | "immediate" => .ok .immediate
  | _ => .error (.invalidValue "timing" text)

end AlertTiming

structure Alert where
  id : Nat
  name : String
  type : AlertType
  /-- The id of the platform that is watched. -/
  platform : Nat
  change : AlertChange
  timing : AlertTiming
  emails : List String := []
  intervalSeconds : Nat
  enabled : Bool
deriving Repr, DecidableEq, Inhabited

namespace Alert

def fieldNames : List String :=
  ["id", "name", "type", "platform", "change", "timing", "emails", "intervalSeconds", "enabled"]

def ofJson? (json : Json) : Option Alert := do
  let fields ← json.fields? fieldNames
  some {
    id := ← Json.required fields "id" (Json.asNat? 64)
    name := ← Json.required fields "name" Json.asString?
    type := ← Json.required fields "type" (Json.asChoice? AlertType.all AlertType.name)
    platform := ← Json.required fields "platform" (Json.asNat? 64)
    change := ← Json.required fields "change" (Json.asChoice? AlertChange.all AlertChange.name)
    timing := ← Json.required fields "timing" (Json.asChoice? AlertTiming.all AlertTiming.name)
    emails := ← Json.defaulted fields "emails" [] (Json.asList? Json.asString?)
    intervalSeconds := ← Json.required fields "intervalSeconds" (Json.asNat? 32)
    enabled := ← Json.required fields "enabled" Json.asBool? }

def toJson (a : Alert) : Json :=
  .object
    [("id", .natural a.id), ("name", .string a.name), ("type", .string a.type.name),
      ("platform", .natural a.platform), ("change", .string a.change.name),
      ("timing", .string a.timing.name), ("emails", Json.strings a.emails),
      ("intervalSeconds", .natural a.intervalSeconds), ("enabled", .bool a.enabled)]

end Alert

end Steering.Traffic
