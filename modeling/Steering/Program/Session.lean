import Steering.Program.History
import Steering.Shell.Basic

/-!
# Sessions

In a session lines are read one after the other, until there are no more or one ends the session.
A line that fails does not end it.
-/

namespace Steering.Program

open Steering.Shell (Outcome)

structure Session where
  shell : Shell
  history : History := {}
  done : Bool := false

namespace Session

/-- What a session begins with. -/
def banner : String := "### Traffic shell ### (type 'help' for commands)\n"

def farewell : String := "Bye!\n"

/-- The file that carrying out a line reads. -/
def fileNamed? (line : String) : Option String :=
  match Shell.spec.parse line with
  | .ok args => if args.code = .createZone then args.arg? "zoneFile" else none
  | .error _ => none

/-- What a line has written, with what the session adds to it. -/
def report (reply : Shell.Reply) : String :=
  reply.output ++
    match reply.result with
    | .ok .proceed => ""
    | .ok .quit => farewell
    | .error e => "error: " ++ e.message ++ "\n"

section Lines

variable [Traffic.FilterEngine]

/-- Carries out a line at the given time, and gives what is printed. Blank lines do not count. -/
def readLine (now : Instant) (s : Session) (line : String) : String × Session :=
  if Text.allBlank line then ("", s)
  else
    let (reply, shell) := s.shell.execute now line
    let done := match reply.result with
      | .ok .quit => true
      | _ => false
    (report reply, { shell, history := s.history.add line, done })

/-- Carries out lines up to the end of the session. -/
def readLines (now : Instant) (s : Session) : List String → String × Session
  | [] => ("", s)
  | line :: rest =>
    if s.done then ("", s)
    else
      let (printed, s) := s.readLine now line
      let (more, s) := s.readLines now rest
      (printed ++ more, s)

end Lines

def disk (s : Session) : Disk := s.shell.catalog.backend.disk

end Session

end Steering.Program
