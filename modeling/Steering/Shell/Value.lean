import Steering.Grammar.Walk
import Steering.Shell.Error
import Steering.Text.Blank
import Steering.Text.Lowercase
import Steering.Text.Numeral
import Steering.Url.Basic

/-!
# Argument values

How the values of arguments are read. An empty value means that the argument is not given.
-/

namespace Steering.Shell

open Grammar

/-- A command line that has been read; console commands have no handlers. -/
abbrev Args (Code : Type) := ParsedCommand Code Empty

/-- The value of an argument, if it has one that is not empty. -/
def given? (args : Args Code) (name : String) : Option String :=
  (args.arg? name).filter fun value => !value.isEmpty

/-- The value of an argument that has to be given. -/
def needed (args : Args Code) (name : String) : Except ShellError String :=
  match given? args name with
  | some value => .ok value
  | none => .error (.missingArgument name)

/-- The name of the resource to make, which may not be blank. -/
def neededName (args : Args Code) : Except ShellError String :=
  match args.arg? "name" with
  | some name => if Text.allBlank name then .error (.missingArgument "name") else .ok name
  | none => .error (.missingArgument "name")

/-- A truth value, in any case; no text is no value. -/
def readBool (name value : String) : Except ShellError (Option Bool) :=
  match Text.lowerAscii value with
  | "" => .ok none
  | "1" | "t" | "true" => .ok (some true)
  | "0" | "f" | "false" => .ok (some false)
  | _ => .error (.invalidArgument name value)

/-- A number below 2^32; no text is no value. -/
def readNumber (name value : String) : Except ShellError (Option Nat) :=
  if value.isEmpty then .ok none
  else
    match Text.decimal? 0x100000000 value.toList with
    | some n => .ok (some n)
    | none => .error (.invalidArgument name value)

/-- The address of a web page, kept as it was given; no text is no value. -/
def readUrl (name value : String) : Except ShellError (Option String) :=
  if value.isEmpty then .ok none
  else if Url.isWebAddress value then .ok (some value)
  else .error (.invalidArgument name value)

end Steering.Shell
