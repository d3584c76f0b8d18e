import Steering.Grammar.Completion
import Steering.Shell.Create
import Steering.Shell.Delete
import Steering.Shell.Report

/-!
# The shell

A shell is a catalog over a store, and the width that tables may have. It carries out command
lines, with some engine for their filters, and completes lines that are being typed.
-/

namespace Steering

open Store Traffic Grammar

structure Shell where
  catalog : Catalog Workspace
  tableWidth : Nat := 80

namespace Shell

/-- A shell over a store, with nothing fetched yet. -/
def new (workspace : Workspace) (tableWidth : Nat) : Shell :=
  { catalog := { backend := workspace }, tableWidth }

def document (shell : Shell) : Document := shell.catalog.backend.store.document

section Lines

variable [FilterEngine]

/-- Carries out a command at the given time. -/
def runCommand (now : Instant) (width : Nat) (args : Args Command) : ConsoleM Outcome := do
  let s := service now
  let filter := args.argOrEmpty "filter"
  match args.code with
  | .createCloudPlatform => runCreatePlatform s args
  | .createAlert => runCreateAlert s args
  | .createApplication => runCreateApplication s args
  | .createZone => runCreateZone s args
  | .listPlatforms visibility => runListPlatforms s width visibility filter
  | .listAlerts => runListAlerts s width filter
  | .listApplications => runListApplications s width filter
  | .listZones => runListZones s width filter
  | .showOne kind => runShow s kind args
  | .delete kind => runDelete s kind args
  | .help => runHelp
  | .exit => pure ()
  pure (if args.code = .exit then .quit else .proceed)

/-- What a line has come to. -/
structure Reply where
  result : Except ShellError Outcome
  /-- What was written, also by a line that failed. -/
  output : String

/-- Carries out a line at the given time. -/
def execute (now : Instant) (shell : Shell) (line : String) : Reply × Shell :=
  match spec.parse line with
  | .error e => ({ result := .error (.parse e), output := "" }, shell)
  | .ok args =>
    let (result, console) := (runCommand now shell.tableWidth args).run { catalog := shell.catalog }
    ({ result, output := console.output }, { shell with catalog := console.catalog })

end Lines

/-! ### Completion -/

/-- The suggestions that name resources and contain what has been typed, in any case. -/
def nameSuggestions (typed : String) (named : List (String × String)) : List Suggestion :=
  Suggestion.containing true typed
    (named.map fun (name, description) => Suggestion.quoted name description)

/-- What a source answers when the catalog cannot be asked. -/
def answerAlone : Source → String → List Suggestion
  | .fixed offer, typed => offer.answer typed
  | _, _ => []

/-- What a source answers. -/
def answer (s : Service Workspace) (source : Source) (typed : String) :
    CatalogM Workspace (List Suggestion) :=
  match source with
  | .fixed offer => pure (offer.answer typed)
  | .platforms scope category => do
    let platforms ← Catalog.platforms s scope
    let kept := platforms.filter fun p => category.all (p.category == ·)
    pure (nameSuggestions typed (kept.map fun p => (p.name, p.category.title)))
  | .resources kind => do
    let items ← Catalog.list s (.own kind)
    pure (nameSuggestions typed (items.map fun item => (Kind.nameOf item, kind.name)))

/-- The suggestions at the end of a line. Looking for them may fill caches; a catalog that fails
offers nothing. -/
def complete (now : Instant) (shell : Shell) (line : String) : List Suggestion × Shell :=
  match spec.complete line with
  | .list suggestions => (suggestions, shell)
  | .ask source typed =>
    let (result, catalog) := (answer (service now) source typed).run shell.catalog
    (match result with
      | .ok suggestions => suggestions
      | .error _ => [],
      { shell with catalog := catalog })

/-- The suggestions at the end of a line while the catalog cannot be asked. -/
def completeBusy (line : String) : List Suggestion := spec.suggest answerAlone line

end Shell

end Steering
