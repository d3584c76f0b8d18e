import Steering.Json.Fields
import Steering.Text.Pieces
import Steering.Traffic.Error

/-!
# Zones

A zone is a domain whose name records are kept here, as the text of a zone file.
-/

namespace Steering.Traffic

structure Zone where
  id : Nat
  domainName : String
  description : Option String := none
  tags : List String := []
  zoneFile : Option String := none
deriving Repr, DecidableEq, Inhabited

namespace Zone

/-- Holds of a line that is neither blank nor a comment nor a directive. -/
def isRecord (line : List Char) : Bool :=
  match Text.trimStart line with
  | [] => false
  | c :: _ => c != ';' && c != '$'

/-- The number of records in the zone file. -/
def recordCount (z : Zone) : Nat :=
  match z.zoneFile with
  | some content => (Text.lines content.toList).countP isRecord
  | none => 0

def fieldNames : List String := ["id", "domainName", "description", "tags", "zoneFile"]

def ofJson? (json : Json) : Option Zone := do
  let fields ← json.fields? fieldNames
  some {
    id := ← Json.required fields "id" (Json.asNat? 64)
    domainName := ← Json.required fields "domainName" Json.asString?
    description := ← Json.optional fields "description" Json.asString?
    tags := ← Json.defaulted fields "tags" [] (Json.asList? Json.asString?)
    zoneFile := ← Json.optional fields "zoneFile" Json.asString? }

def toJson (z : Zone) : Json :=
  .object (
    [("id", .natural z.id), ("domainName", .string z.domainName)] ++
    Json.member "description" .string z.description ++
    [("tags", Json.strings z.tags)] ++
    Json.member "zoneFile" .string z.zoneFile)

end Zone

end Steering.Traffic
