import Steering.Pattern.Engine
import Steering.Program.Arguments
import Steering.Program.Session
import Steering.Settings

/-!
# The program

One run of the program, on a disk and with all of its input at hand: what it prints, the code that
it ends with, and what becomes of the disk. Filters are patterns (`Pattern.engine`).
-/

namespace Steering.Program

/-- How a run ends. -/
structure Exit where
  code : Nat := 0
  output : String := ""
  /-- What is printed beside the output, of errors. -/
  errors : String := ""
  disk : Disk

/-- The end of a run that fails, after some output. -/
def fail (disk : Disk) (output message : String) : Exit :=
  { code := 1, output, errors := "error: " ++ message ++ "\n", disk }

/-- The settings that a request asks for. -/
def settingsFor (disk : Disk) (request : Request) : Except String Settings := do
  let settings ← match request.config with
    | none => .ok {}
    | some path =>
      (Settings.load disk path).mapError fun e =>
        "Failed to load config '" ++ path ++ "': " ++ e.message
  match request.state with
  | some stateFile => .ok { settings with stateFile }
  | none => .ok settings

/-- The shell over the state file of the settings. -/
def openShell (disk : Disk) (columns : Option String) (settings : Settings) :
    Except String Shell :=
  match Store.openAt disk settings.stateFile with
  | .ok store => .ok (.new { disk, store } (settings.resolveWidth columns))
  | .error e => .error ("Failed to open state file '" ++ settings.stateFile ++ "': " ++ e.message)

/-! ### The tasks -/

/-- Ends a session: the lines entered in it are kept. -/
def endSession (settings : Settings) (output : String) (s : Session) : Exit :=
  match settings.historyFile with
  | none => { output, disk := s.disk }
  | some path =>
    match s.history.save s.disk path with
    | .ok disk => { output, disk }
    | .error fault => fail s.disk output ("Line editor failed: " ++ fault.message)

def startSession (disk : Disk) (settings : Settings) (shell : Shell) : Session :=
  { shell, history := (settings.historyFile.map (History.load disk)).getD {} }

/-- Carries out the lines of the input. -/
def runShell (now : Instant) (disk : Disk) (settings : Settings) (shell : Shell)
    (input : String) : Exit :=
  let lines := (Text.lines input.toList).map String.ofList
  let (output, s) := (startSession disk settings shell).readLines now lines
  endSession settings (Session.banner ++ output) s

/-- Carries out one line. -/
def runExec (now : Instant) (shell : Shell) (words : List String) : Exit :=
  let (reply, shell) := shell.execute now (Line.ofWords words)
  let disk := shell.catalog.backend.disk
  match reply.result with
  | .ok .proceed => { output := reply.output, disk }
  | .ok .quit => { output := reply.output ++ Session.farewell, disk }
  | .error e => fail disk reply.output e.message

/-- Lists the suggestions at the end of a line. -/
def runComplete (now : Instant) (shell : Shell) (line : String) (format : Suggestion.Format) :
    Exit :=
  let (suggestions, shell) := shell.complete now line
  { output := Suggestion.render format suggestions, disk := shell.catalog.backend.disk }

/-- Writes a state file with the community platforms. One that is there is kept, unless its loss
is asked for. -/
def runInit (disk : Disk) (settings : Settings) (force : Bool) : Exit :=
  let path := "'" ++ settings.stateFile ++ "'"
  if disk.has settings.stateFile && !force then
    fail disk "" (path ++ " already exists (use --force to overwrite)")
  else
    match Store.saveTo disk settings.stateFile Store.seed with
    | .ok disk => { output := "Wrote seeded state to " ++ path ++ ".\n", disk }
    | .error e => fail disk "" ("Failed to write " ++ path ++ ": " ++ e.message)

/-- Does what a request asks for. -/
def runTask (now : Instant) (disk : Disk) (columns : Option String) (input : String)
    (request : Request) : Exit :=
  match settingsFor disk request with
  | .error message => fail disk "" message
  | .ok settings =>
    match request.task with
    | .init force => runInit disk settings force
    | task =>
      match openShell disk columns settings with
      | .error message => fail disk "" message
      | .ok shell =>
        match task with
        | .exec words => runExec now shell words
        | .complete line format => runComplete now shell line format
        | _ => runShell now disk settings shell input

/-- Runs the program with the given words. -/
def run (now : Instant) (disk : Disk) (columns : Option String) (input : String)
    (words : List String) : Exit :=
  match Request.ofWords words with
  | .ok request => runTask now disk columns input request
  | .error .helpWanted => { output := usage, disk }
  | .error .misused => { code := 2, errors := usage, disk }

end Steering.Program
