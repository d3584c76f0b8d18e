import Std.Time.DateTime.Timestamp
import Steering.Program.Basic

/-!
# Main

The program as it is started. The files that a run may touch are fetched from the file system, the
run takes place on them, and those that it has changed are put back.
-/

namespace Steering.Main

open Program

def now : IO Instant := do
  let t ← Std.Time.Timestamp.now
  pure (.ofSeconds t.val.second.val t.val.nano.val.toNat)

/-- Whether a path leads to a directory: only then does it go on with a dot. -/
def isDirectory (path : String) : IO Bool := do
  try
    let _ ← IO.FS.Handle.mk (path ++ "/.") .read
    pure true
  catch _ => pure false

/-- Whether a file can be opened for writing. -/
def isWritable (path : String) : IO Bool := do
  try
    let _ ← IO.FS.Handle.mk path .readWrite
    pure true
  catch _ => pure false

/-- Fetches what is at a path, and whether the directory is there that it lies in. -/
def fetch (disk : Disk) (path : String) : IO Disk := do
  let p := Path.ofText path
  if ← isDirectory path then
    return { disk with directories := p :: disk.directories }
  let parent := String.intercalate "/" ((if p.absolute then "" else ".") :: p.names.dropLast)
  let disk ←
    if ← isDirectory parent then
      pure { disk with directories := Disk.directoryOf p :: disk.directories }
    else pure disk
  try
    let bytes ← IO.FS.readBinFile path
    let disk := disk.put path (.ofBytes bytes.toList)
    if ← isWritable path then pure disk
    else pure { disk with readOnly := p :: disk.readOnly }
  catch _ => pure disk

def fetchAll (disk : Disk) (paths : List String) : IO Disk := paths.foldlM fetch disk

/-- Puts back those of the files at the given paths that differ. -/
def store (before after : Disk) (paths : List String) : IO Unit :=
  for path in paths do
    match after.readText path with
    | .ok text =>
      match before.readText path with
      | .ok old => unless old = text do IO.FS.writeFile path text
      | .error _ => IO.FS.writeFile path text
    | .error _ => pure ()

/-- Carries out the lines of the input one by one, and prints what each comes to. What a line
changes is put back before the next line is read. -/
partial def converse (prompt : String) (kept : List String) (s : Session) : IO Session := do
  let stdin ← IO.getStdin
  let stdout ← IO.getStdout
  if ← stdin.isTty then stdout.putStr prompt
  stdout.flush
  let input ← stdin.getLine
  match Text.lines input.toList with
  | [] => pure s
  | line :: _ =>
    let line := String.ofList line
    let workspace := s.shell.catalog.backend
    let disk ← fetchAll workspace.disk (Session.fileNamed? line).toList
    let s := { s with shell.catalog.backend := { workspace with disk } }
    let (printed, s) := s.readLine (← now) line
    stdout.putStr printed
    store disk s.disk kept
    if s.done then pure s else converse prompt kept s

/-- Prints the end of a run and puts back what it has changed. -/
def finish (before : Disk) (kept : List String) (exit : Exit) : IO UInt32 := do
  IO.print exit.output
  IO.eprint exit.errors
  store before exit.disk kept
  pure exit.code.toUInt32

def runSession (disk : Disk) (kept : List String) (settings : Settings) (shell : Shell) :
    IO UInt32 := do
  IO.print Session.banner
  let s ← converse settings.prompt kept (startSession disk settings shell)
  finish s.disk kept (endSession settings "" s)

def runRequest (request : Request) : IO UInt32 := do
  let columns ← IO.getEnv "COLUMNS"
  let disk ← fetchAll {} request.config.toList
  match settingsFor disk request with
  | .error message => finish disk [] (fail disk "" message)
  | .ok settings =>
    let kept := settings.stateFile :: settings.historyFile.toList
    let disk ← fetchAll disk kept
    match request.task with
    | .shell =>
      match openShell disk columns settings with
      | .error message => finish disk [] (fail disk "" message)
      | .ok shell => runSession disk kept settings shell
    | .exec words =>
      let disk ← fetchAll disk (Session.fileNamed? (Line.ofWords words)).toList
      finish disk kept (runTask (← now) disk columns "" request)
    | _ => finish disk kept (runTask (← now) disk columns "" request)

end Steering.Main

open Steering Program

def main (words : List String) : IO UInt32 :=
  match Request.ofWords words with
  | .ok request => Main.runRequest request
  | .error .helpWanted => Main.finish {} [] { output := usage, disk := {} }
  | .error .misused => Main.finish {} [] { code := 2, errors := usage, disk := {} }
