import Steering.Grammar.Basic
import Steering.Grammar.ParseError
import Steering.Line
import Steering.Text.Lowercase

/-!
# Walking down a grammar

A walk takes the tokens of a line one by one. It first descends along command words until it
stands on a complete command, then fills positional arguments, then reads named ones. What a
token means is its *role*; it depends on the walk so far and, where a positional argument is
optional, on whether the token looks like an argument name.

`Spec.parse` takes every token of a line and asks that the walk is complete at its end.
-/

namespace Steering.Grammar

variable {Code Handler Source : Type}

/-- A token that begins with the marker names an argument. -/
def isMarked (token : String) : Bool := token.toList.head? == some marker

/-- The token without its leading markers. -/
def unmarked (token : String) : String := String.ofList (token.toList.dropWhile (· == marker))

/-- What a token means where it stands. -/
inductive Role (Source : Type) where
  | commandWord
  | positional (arg : PositionalArg Source)
  | argName
  | argValue (name : String) (arg : NamedArg Source)

/-- Where a walk stands, and what it has collected. -/
structure Walk (Code Handler Source : Type) where
  fragment : Fragment Code Handler Source
  /-- Values given so far. -/
  args : Dict String := {}
  /-- Positional arguments that may still be given. -/
  pending : List (PositionalArg Source) := []
  /-- The named argument whose value comes next. -/
  awaiting : Option (String × NamedArg Source) := none
  /-- Named arguments declared on the way down. -/
  valid : Dict (NamedArg Source) := {}
  /-- Names of the named arguments given so far. -/
  supplied : List String := []
  /-- The handler declared deepest on the way down. -/
  handler : Option Handler := none

/-- A complete command: its code, the values of its arguments, and its handler if it has one. -/
structure ParsedCommand (Code Handler : Type) where
  code : Code
  args : Dict String
  handler : Option Handler

namespace ParsedCommand

def arg? (cmd : ParsedCommand Code Handler) (name : String) : Option String := cmd.args.get? name

/-- The value of an argument, and no text for one that is not given. -/
def argOrEmpty (cmd : ParsedCommand Code Handler) (name : String) : String :=
  (cmd.arg? name).getD ""

def has (cmd : ParsedCommand Code Handler) (name : String) : Bool := cmd.args.contains name

end ParsedCommand

namespace Walk

/-- The walk that has not taken any token. -/
def start (root : Fragment Code Handler Source) : Walk Code Handler Source := { fragment := root }

def role (w : Walk Code Handler Source) (token : String) : Role Source :=
  if w.fragment.isTerminal then
    match w.awaiting with
    | some (name, arg) => .argValue name arg
    | none =>
      match w.pending with
      | arg :: _ => if isMarked token && arg.optional then .argName else .positional arg
      | [] => .argName
  else .commandWord

/-- Goes down to a fragment. Its declarations override those made above it. -/
def descend (w : Walk Code Handler Source) (child : Fragment Code Handler Source) :
    Walk Code Handler Source :=
  { w with
    fragment := child
    pending := child.positional
    valid := w.valid.override child.named
    handler := child.handler <|> w.handler }

/-- Takes one token of `line`. -/
def step (line : String) (w : Walk Code Handler Source) (token : String) :
    Except ParseError (Walk Code Handler Source) :=
  match w.role token with
  | .commandWord =>
    match Entries.find? (Text.lower token) w.fragment.sub with
    | some child => .ok (w.descend child)
    | none => .error (.unrecognizedToken token line)
  | .positional arg =>
    if isMarked token then
      -- The name of a known argument shows that the positional value has been left out.
      if w.valid.contains (unmarked token) then .error (.missingPositional arg.name)
      else .error (.unexpectedNamedArg token arg.name)
    else .ok { w with args := w.args.insert arg.name token, pending := w.pending.tail }
  | .argName =>
    if isMarked token then
      let name := unmarked token
      match w.valid.get? name with
      | none => .error (.unknownArgument name)
      | some arg =>
        let named := { w with pending := [], supplied := name :: w.supplied }
        if arg.isFlag then .ok { named with args := w.args.insert name "" }
        else .ok { named with awaiting := some (name, arg) }
    else .error (.expectedNamedArg token)
  | .argValue name _ =>
    if isMarked token then .error (.incompleteArgument name)
    else .ok { w with args := w.args.insert name token, awaiting := none }

/-- Takes tokens of `line` in order, up to the first that is refused. -/
def steps (line : String) (w : Walk Code Handler Source) :
    List String → Except ParseError (Walk Code Handler Source)
  | [] => .ok w
  | token :: tokens =>
    match w.step line token with
    | .ok next => next.steps line tokens
    | .error e => .error e

/-- The command the walk has arrived at, if nothing is missing. -/
def finish (w : Walk Code Handler Source) : Except ParseError (ParsedCommand Code Handler) :=
  match w.pending.head?.filter (fun arg => !arg.optional) with
  | some arg => .error (.missingPositional arg.name)
  | none =>
    match w.awaiting with
    | some (name, _) => .error (.incompleteArgument name)
    | none =>
      match w.fragment.code with
      | some code => .ok { code, args := w.args, handler := w.handler }
      | none => .error (.missingWord (w.fragment.sub.map (·.1)))

end Walk

/-- Walks down the grammar along the given tokens of `line`. -/
def Spec.walk (spec : Spec Code Handler Source) (line : String) (tokens : List String) :
    Except ParseError (Walk Code Handler Source) :=
  (Walk.start spec.root).steps line tokens

/-- Reads a line as one complete command. Command words may be written in capitals; the names of
arguments may not. -/
def Spec.parse (spec : Spec Code Handler Source) (line : String) :
    Except ParseError (ParsedCommand Code Handler) :=
  match (Line.split line).words with
  | [] => .error .emptyCommand
  | tokens => do (← spec.walk line tokens).finish

end Steering.Grammar
