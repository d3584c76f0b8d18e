import Steering.Shell.Console
import Steering.Shell.Value
import Steering.Traffic.Filter

/-!
# Deleting resources

A delete command names one resource, or deletes all of the user's resources of a kind whose
names match a filter, one after the other.
-/

namespace Steering.Shell

open Grammar Store Traffic

variable [FilterEngine]

/-- The names of the resources to delete. A name that is given comes before a filter. -/
def doomedNames (s : Service Workspace) (kind : Kind) (args : Args Code) :
    ConsoleM (List String) := do
  match given? args "name", given? args "filter" with
  | some name, _ => pure [name]
  | none, some filter =>
    let items ← onCatalog (Catalog.list s (.own kind))
    let kept ← checkTraffic (filterByName Kind.nameOf filter items)
    pure (kept.map Kind.nameOf)
  | none, none => throw (.nothingToDelete kind)

/-- Deletes resources by name, up to the first that cannot be deleted. -/
def deleteAll (s : Service Workspace) (kind : Kind) : List String → CatalogM Workspace Unit
  | [] => pure ()
  | name :: names => do
    Catalog.delete s kind name
    deleteAll s kind names

def runDelete (s : Service Workspace) (kind : Kind) (args : Args Code) : ConsoleM Unit := do
  let names ← doomedNames s kind args
  onCatalog (deleteAll s kind names)
  sayLine ("Deleted " ++ toString names.length ++ " " ++ kind.name ++ "(s)")

end Steering.Shell
