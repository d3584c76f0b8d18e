import Steering.Json.Printer
import Steering.Suggestion
import Steering.Yaml.Printer

/-!
# Lists of suggestions as text

For use by other programs, suggestions are written as JSON, as YAML, or one a line with a tab
between text and description.
-/

namespace Steering.Suggestion

inductive Format where
  | json
  | yaml
  | text
deriving Repr, DecidableEq

def toJson (s : Suggestion) : Json :=
  .object [("text", .string s.text), ("description", .string s.description)]

def yamlFields (s : Suggestion) : List (String × Yaml.FieldValue) :=
  [("text", .text s.text), ("description", .text s.description)]

/-- The list in a format. -/
def render (format : Format) (suggestions : List Suggestion) : String :=
  match format with
  | .json => (Json.array (suggestions.map toJson)).pretty ++ "\n"
  | .yaml => String.ofList (Yaml.writeMappings (suggestions.map yamlFields))
  | .text => String.join (suggestions.map fun s => s.text ++ "\t" ++ s.description ++ "\n")

end Steering.Suggestion
