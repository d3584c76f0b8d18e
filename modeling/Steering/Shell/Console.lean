import Steering.Shell.Command
import Steering.Shell.Error
import Steering.Store.Catalog

/-!
# The console

What the console keeps from line to line is a catalog over its store. While a line is carried
out there is also the text it has written. A line that fails keeps what it has done and written
before it failed.
-/

namespace Steering.Shell

open Store Traffic

/-- The console while it carries out a line. -/
structure Console where
  catalog : Catalog Workspace
  /-- What has been written so far. -/
  output : String := ""

/-- Part of carrying out a line. -/
abbrev ConsoleM := ExceptT ShellError (StateM Console)

/-- What happens after a line. -/
inductive Outcome where
  | proceed
  | quit
deriving Repr, DecidableEq

def say (text : String) : ConsoleM Unit :=
  modify fun console => { console with output := console.output ++ text }

/-- Writes a line. -/
def sayLine (text : String) : ConsoleM Unit := say (text ++ "\n")

/-- Carries out an operation on the catalog. -/
def onCatalog (operation : CatalogM Workspace α) : ConsoleM α := fun console =>
  let (result, catalog) := operation.run console.catalog
  (result.mapError .traffic, { console with catalog := catalog })

/-- Continues with the value of a computation that needs nothing of the console. -/
def check (result : Except ShellError α) : ConsoleM α := fun console => (result, console)

def checkTraffic (result : Except TrafficError α) : ConsoleM α :=
  check (result.mapError .traffic)

end Steering.Shell
