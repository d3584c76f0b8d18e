import Steering.Disk
import Steering.Text.Blank
import Steering.Traffic.Error
import Steering.Yaml.Document
import Steering.Yaml.Printer

/-!
# Settings of the console

Settings are kept in a YAML file. Each has a default, so that a file may leave out any of them, and
fields that are no settings are passed over.
-/

namespace Steering

structure Settings where
  /-- What is printed before each line. -/
  prompt : String := "> "
  /-- The file that resources are kept in. -/
  stateFile : String := "traffic-shell.json"
  /-- The file that earlier lines are kept in. -/
  historyFile : Option String := none
  /-- What is logged unless the environment says otherwise. -/
  logLevel : String := "warn"
  /-- The width that tables are cut to. -/
  tableWidth : Option Nat := none
deriving Repr, DecidableEq

namespace Settings

open Traffic (TrafficError)
open Yaml (Node)

/-- The width of tables where nothing says another. -/
def defaultWidth : Nat := 80

/-- The width of tables: that of the settings, else the number of columns if it is given and is a
number. Tables are not cut to nothing. -/
def resolveWidth (s : Settings) (columns : Option String) : Nat :=
  let width := s.tableWidth.orElse fun _ =>
    columns.bind fun text => Text.decimal? 0x10000000000000000 (Text.trim text).toList
  match width with
  | none | some 0 => defaultWidth
  | some width => width

/-! ### Reading -/

/-- A text, which any scalar is. -/
def readText : Node → Option String
  | .scalar text _ _ => some text
  | _ => none

/-- Whether a node stands for no value. A tag keeps a scalar from that, but the tag for no value,
which in turn may stand only before a word for it. -/
def readAbsent : Node → Option Bool
  | .scalar text .plain none => some (text.isEmpty || Yaml.isNull text)
  | .scalar text .plain (some tag) =>
    if tag = "tag:yaml.org,2002:null" then if Yaml.isNull text then some true else none
    else some false
  | _ => some false

/-- A value that may be absent. -/
def readOptional (read : Node → Option α) (node : Node) : Option (Option α) := do
  if ← readAbsent node then some none else (read node).map some

/-- A number of at most 64 bits, written plain, or as a block with the tag for integers. -/
def readNumber : Node → Option Nat
  | .scalar text .plain _ => wideNumber? text.toList
  | .scalar text .literal (some "tag:yaml.org,2002:int") => wideNumber? text.toList
  | _ => none
where
  wideNumber? (cs : List Char) : Option Nat := Yaml.natural? 0x10000000000000000 cs

/-- The settings with one of them read. -/
def readField (s : Settings) (name : String) (node : Node) : Option Settings :=
  match name with
  | "prompt" => (readText node).map fun prompt => { s with prompt }
  | "state_file" => (readText node).map fun stateFile => { s with stateFile }
  | "history_file" => (readOptional readText node).map fun historyFile => { s with historyFile }
  | "log_level" => (readText node).map fun logLevel => { s with logLevel }
  | "table_width" => (readOptional readNumber node).map fun tableWidth => { s with tableWidth }
  | _ => some s

def fieldNames : List String :=
  ["prompt", "state_file", "history_file", "log_level", "table_width"]

/-- Reads the fields of a mapping, of which `seen` have been read. No setting may be given
twice. -/
def readFields (d : Yaml.Document) (seen : List String) (s : Settings) :
    List (Node × Node) → Option Settings
  | [] => some s
  | (key, value) :: rest => do
    let name ← readText (d.target key)
    if fieldNames.contains name && seen.contains name then none
    else readFields d (name :: seen) (← readField s name (d.target value)) rest

/-- The settings that a document says. An empty one leaves all as they are by default. -/
def ofDocument? (d : Yaml.Document) : Option Settings :=
  match d.root.map d.target with
  | none | some (.scalar "" .plain _) => some {}
  | some (.mapping entries) => readFields d [] {} entries
  | _ => none

/-- The settings that a text says. -/
def parse? (text : String) : Option Settings := (Yaml.Document.ofText? text).bind ofDocument?

/-- The settings in a file. A directory can be opened like a file, but holds no settings. -/
def load (disk : Disk) (path : String) : Except TrafficError Settings :=
  match disk.read path with
  | .ok (.text text) =>
    match parse? text with
    | some s => .ok s
    | none => .error .badYaml
  | .ok (.binary _) | .error .isDirectory => .error .badYaml
  | .error fault => .error (.io fault)

/-! ### Writing -/

def fields (s : Settings) : List (String × Yaml.FieldValue) :=
  [("prompt", .text s.prompt), ("state_file", .text s.stateFile)] ++
    (s.historyFile.map fun path => ("history_file", Yaml.FieldValue.text path)).toList ++
    [("log_level", .text s.logLevel)] ++
    (s.tableWidth.map fun width => ("table_width", Yaml.FieldValue.number width)).toList

/-- The text of a file with the settings. -/
def render (s : Settings) : String := String.ofList (Yaml.writeMapping 0 s.fields)

end Settings

end Steering
