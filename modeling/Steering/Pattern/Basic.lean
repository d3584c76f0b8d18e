import Steering.Pattern.Automaton
import Steering.Pattern.Flags
import Steering.Pattern.Parser
import Steering.Pattern.Weight

/-!
# Patterns

Regular expressions over Unicode text, without references to groups and without looking ahead or
back, so that matching takes linear time.
-/

namespace Steering

/-- A pattern that is ready to be matched. -/
structure Pattern where
  automaton : Pattern.Automaton

namespace Pattern

/-- Reads a pattern. It is refused if it is badly written, names a property of characters that
there is not, has a class that its flags forbid, or is too heavy. -/
def parse? (text : String) : Option Pattern := do
  let tree ← ast? text
  let (shape, _) ← shape? {} tree
  if shape.isLight then some ⟨.ofShape shape⟩ else none

/-- Whether the pattern matches anywhere in a text. -/
def isMatch (p : Pattern) (text : String) : Bool := p.automaton.matchesFrom none [] text.toList

end Pattern

end Steering
