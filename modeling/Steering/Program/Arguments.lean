import Steering.Suggestion.Format

/-!
# Arguments of the program

The words that the program is started with: a task, with options before and after its name.
Options stand for themselves or take the next word as their value, or what follows an equals sign.
After a word that is two hyphens, and within the line of the task that carries out a line, no word
is an option any more.
-/

namespace Steering.Program

/-- What the program is to do. -/
inductive Task where
  /-- Read lines and carry them out. -/
  | shell
  /-- Carry out one line, which is given as words. -/
  | exec (words : List String)
  /-- List the suggestions at the end of a line. -/
  | complete (line : String) (format : Suggestion.Format)
  /-- Write a state file to begin with. -/
  | init (force : Bool)
deriving Repr, DecidableEq

structure Request where
  /-- The file of the settings. -/
  config : Option String := none
  /-- The state file, if not the one of the settings. -/
  state : Option String := none
  verbose : Bool := false
  task : Task := .shell
deriving Repr, DecidableEq

/-- Why no task is to be done. -/
inductive Refusal where
  | misused
  | helpWanted
deriving Repr, DecidableEq

inductive TaskName where
  | shell
  | exec
  | complete
  | init
deriving Repr, DecidableEq

def taskName? : String → Option TaskName
  | "shell" => some .shell
  | "exec" => some .exec
  | "complete" => some .complete
  | "init" => some .init
  | _ => none

/-- Options without a value. -/
inductive Switch where
  | verbose
  | force
  | help
deriving Repr, DecidableEq

/-- Options with a value. -/
inductive Parameter where
  | config
  | state
  | format
deriving Repr, DecidableEq

/-- The options at one place: before the name of the task, or after it. -/
structure Given where
  switches : List Switch := []
  values : List (Parameter × String) := []

/-- Arguments of which some have been read. -/
structure Reading where
  task : Option TaskName := none
  /-- The options before the name of the task. -/
  before : Given := {}
  given : Given := {}
  /-- The option whose value comes next. -/
  pending : Option Parameter := none
  /-- The words that are not options, latest first. -/
  words : List String := []
  /-- Whether no word is an option any more. -/
  plain : Bool := false

namespace Reading

def parameter? (r : Reading) (name : String) : Option Parameter :=
  match name with
  | "config" => some .config
  | "state" => some .state
  | "format" => if r.task = some .complete then some .format else none
  | _ => none

def switch? (r : Reading) (name : String) : Option Switch :=
  match name with
  | "verbose" => some .verbose
  | "help" => some .help
  | "force" => if r.task = some .init then some .force else none
  | _ => none

/-- Adds a word that is no option. -/
def addWord (r : Reading) (word : String) : Except Refusal Reading :=
  match r.task with
  | some .exec => .ok { r with words := word :: r.words, plain := true }
  | some .complete => if r.words.isEmpty then .ok { r with words := [word] } else .error .misused
  | _ => .error .misused

def format? : String → Option Suggestion.Format
  | "json" => some .json
  | "yaml" => some .yaml
  | "text" => some .text
  | _ => none

/-- Gives an option its value. No option may be given twice at one place. -/
def addValue (r : Reading) (p : Parameter) (value : String) : Except Refusal Reading :=
  if value.isEmpty || (p = .format ∧ (format? value).isNone) ||
      (r.given.values.lookup p).isSome then
    .error .misused
  else
    .ok { r with
      pending := none
      given := { r.given with values := (p, value) :: r.given.values } }

def addSwitch (r : Reading) (s : Switch) : Except Refusal Reading :=
  if r.pending.isSome then .error .misused
  else if s = .help then .error .helpWanted
  else if r.given.switches.contains s then .error .misused
  else .ok { r with given := { r.given with switches := s :: r.given.switches } }

/-- Whether the next word may be one that looks like an unknown option. -/
def takesAnyWord (r : Reading) : Bool :=
  r.task == some .exec || (r.task == some .complete && r.words.isEmpty)

/-- A word that is no option, unless it is the value of one. -/
def readPlain (r : Reading) (word : String) : Except Refusal Reading :=
  match r.pending with
  | some p => r.addValue p word
  | none => r.addWord word

/-- A word that begins with two hyphens, which `text` follows. -/
def readLong (r : Reading) (word : String) (text : List Char) : Except Refusal Reading :=
  let name := String.ofList (text.takeWhile (· != '='))
  let value := ((text.dropWhile (· != '=')).head?).map fun _ =>
    String.ofList ((text.dropWhile (· != '=')).drop 1)
  if name.isEmpty then .error .misused
  else
    match r.parameter? name, r.switch? name with
    | some p, _ =>
      if r.pending.isSome then .error .misused
      else
        match value with
        | some value => r.addValue p value
        | none => .ok { r with pending := some p }
    | none, some s => if value.isSome then .error .misused else r.addSwitch s
    | none, none => if r.takesAnyWord then r.readPlain word else .error .misused

def letterSwitch? : Char → Option Switch
  | 'v' => some .verbose
  | 'h' => some .help
  | _ => none

def addLetter (r : Reading) (letter : Char) : Except Refusal Reading :=
  match letterSwitch? letter with
  | some s => r.addSwitch s
  | none => .error .misused

/-- A word that begins with one hyphen, which letters follow. -/
def readShort (r : Reading) (word : String) (letters : List Char) : Except Refusal Reading :=
  if r.takesAnyWord && letters.any (fun c => (letterSwitch? c).isNone) then r.readPlain word
  else letters.foldlM addLetter r

/-- Reads one word. -/
def readWord (r : Reading) (word : String) : Except Refusal Reading :=
  if r.plain then r.addWord word
  else
    match word.toList with
    | ['-', '-'] => if r.pending.isSome then .error .misused else .ok { r with plain := true }
    | '-' :: '-' :: text => r.readLong word text
    | '-' :: c :: letters => r.readShort word (c :: letters)
    | _ => r.readPlain word

/-- Whether words may follow the word that asks for help: the name of one task. -/
def mayAskFor : List String → Bool
  | [] => true
  | [word] => word = "help" || (taskName? word).isSome
  | _ => false

/-- Reads words up to the end. The first that is neither an option nor the value of one names the
task. -/
def readWords (r : Reading) : List String → Except Refusal Reading
  | [] => if r.pending.isSome then .error .misused else .ok r
  | word :: rest =>
    let mayBeTask := r.task.isNone && r.pending.isNone && !r.plain
    if mayBeTask && word = "help" then .error (if mayAskFor rest then .helpWanted else .misused)
    else
      match if mayBeTask then taskName? word else none with
      | some task => readWords { task := some task, before := r.given } rest
      | none => do readWords (← r.readWord word) rest

/-- The value of an option, which counts before the one in front of the task. -/
def value? (r : Reading) (p : Parameter) : Option String :=
  (r.given.values.lookup p).orElse fun _ => r.before.values.lookup p

def request (r : Reading) : Except Refusal Request := do
  let task ← match r.task, r.words with
    | none, _ | some .shell, _ => .ok Task.shell
    | some .exec, [] | some .complete, [] => .error .misused
    | some .exec, words => .ok (.exec words.reverse)
    | some .complete, line :: _ =>
      .ok (.complete line (((r.value? .format).bind format?).getD .text))
    | some .init, _ => .ok (.init (r.given.switches.contains .force))
  .ok {
    config := r.value? .config
    state := r.value? .state
    verbose := r.given.switches.contains .verbose || r.before.switches.contains .verbose
    task }

end Reading

/-- The task that the words ask for. -/
def Request.ofWords (words : List String) : Except Refusal Request := do
  let r ← Reading.readWords {} words
  r.request

/-- How the program is used. -/
def usage : String := String.join ([
  "Usage: traffic-shell [--config FILE] [--state FILE] [-v] [TASK]",
  "",
  "Tasks:",
  "  shell                           read lines and carry them out",
  "  exec WORD...                    carry out one line",
  "  complete LINE [--format json|yaml|text]",
  "                                  list what may come next on a line",
  "  init [--force]                  write a state file to begin with"].map (· ++ "\n"))

end Steering.Program
