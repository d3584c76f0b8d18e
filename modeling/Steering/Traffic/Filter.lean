import Steering.Traffic.Error

/-!
# Filtering by name

A filter is a regular expression that may match anywhere in a name. The empty filter keeps
everything. Which texts are filters, and which names they match, is up to an engine, and nothing
else here depends on how filters are written.
-/

namespace Steering.Traffic

/-- An engine for filters. A text that is a filter tells which names it matches. -/
class FilterEngine where
  read? (filter : String) : Option (String → Bool)

/-- The items whose name the filter matches, in their order. -/
def filterByName [FilterEngine] (name : α → String) (filter : String) (items : List α) :
    Except TrafficError (List α) :=
  if filter.isEmpty then .ok items
  else
    match FilterEngine.read? filter with
    | some isMatch => .ok (items.filter fun item => isMatch (name item))
    | none => .error .badFilter

end Steering.Traffic
