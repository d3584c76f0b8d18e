import Steering.Pattern.Basic
import Steering.Traffic.Filter

/-!
# Patterns as filters

The engine that the program runs with: filters are patterns.
-/

namespace Steering.Pattern

instance engine : Traffic.FilterEngine where
  read? filter := (parse? filter).map isMatch

end Steering.Pattern
