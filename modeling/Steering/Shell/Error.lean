import Steering.Grammar.ParseError
import Steering.Traffic.Error

/-!
# Errors of a command line

Why a line could not be carried out, and the wording.
-/

namespace Steering.Shell

open Traffic

inductive ShellError where
  | parse (e : Grammar.ParseError)
  | traffic (e : TrafficError)
  /-- A file named on the line cannot be read. -/
  | io (fault : DiskFault)
  | invalidArgument (name value : String)
  | missingArgument (name : String)
  /-- Health checks are to be enabled, but there is nothing to check. -/
  | checkWithoutUrl
  /-- A delete command says neither what nor which. -/
  | nothingToDelete (kind : Kind)
deriving Repr, DecidableEq

def ShellError.message : ShellError → String
  | .parse e => e.message
  | .traffic e => e.message
  | .io fault => "I/O error: " ++ fault.message
  | .invalidArgument name value => "invalid value '" ++ value ++ "' for -" ++ name
  | .missingArgument name => "-" ++ name ++ " is required"
  | .checkWithoutUrl => "health checks need -sonarUrl to be enabled"
  | .nothingToDelete kind => "no " ++ kind.name ++ " specified by name or by filter"

end Steering.Shell
