import Steering.Disk
import Steering.Traffic.Resource

/-!
# Errors of the resource store

The causes for which an operation on resources fails, and their wording. Of malformed files and
filters only the fact is kept.
-/

namespace Steering.Traffic

inductive TrafficError where
  | io (fault : DiskFault)
  | badJson
  | badYaml
  | badFilter
  | notFound (kind : Kind) (name : String)
  | duplicate (kind : Kind) (name : String)
  | invalidValue (field value : String)
deriving Repr, DecidableEq, Inhabited

def TrafficError.message : TrafficError → String
  | .io fault => "I/O error: " ++ fault.message
  | .badJson => "JSON error"
  | .badYaml => "YAML error"
  | .badFilter => "invalid filter"
  | .notFound kind name => kind.name ++ " '" ++ name ++ "' not found"
  | .duplicate kind name => kind.name ++ " '" ++ name ++ "' already exists"
  | .invalidValue field value => "invalid value '" ++ value ++ "' for " ++ field

end Steering.Traffic
