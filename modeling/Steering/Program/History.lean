import Steering.Disk

/-!
# Earlier lines

The lines that have been entered are kept in a file, if the settings name one, after the lines
that were in it before. A line that is entered twice in a row is kept once, and of all lines only
the latest hundred.
-/

namespace Steering.Program

structure History where
  lines : List String := []
  /-- Whether lines have been added since the file was read. -/
  changed : Bool := false
deriving Repr, DecidableEq

namespace History

def limit : Nat := 100

def add (h : History) (line : String) : History :=
  if line.isEmpty ∨ h.lines.getLast? = some line then h
  else
    let lines := h.lines ++ [line]
    { lines := lines.drop (lines.length - limit), changed := true }

/-- The first line of the file. -/
def heading : String := "#V2"

/-- A backslash within a line is written twice, and a line end as a letter after one. -/
def escape (c : Char) : List Char :=
  match c with
  | '\\' => ['\\', '\\']
  | '\n' => ['\\', 'n']
  | _ => [c]

def unescape : List Char → List Char
  | '\\' :: '\\' :: rest => '\\' :: unescape rest
  | '\\' :: 'n' :: rest => '\n' :: unescape rest
  | c :: rest => c :: unescape rest
  | [] => []

/-- The lines of a file. A file without the heading has its lines as they are. -/
def ofText (text : String) : History :=
  let lines := match Text.lines text.toList with
    | first :: rest => if String.ofList first = heading then rest.map unescape else first :: rest
    | [] => []
  let h := lines.foldl (fun (h : History) line => h.add (String.ofList line)) {}
  { h with changed := false }

def toText (h : History) : String :=
  String.join ((heading :: h.lines.map fun line =>
    String.ofList (line.toList.flatMap escape)).map (· ++ "\n"))

/-- The lines in a file, none if it cannot be read. -/
def load (disk : Disk) (path : String) : History :=
  match disk.readText path with
  | .ok text => ofText text
  | .error _ => {}

/-- Writes the file, if there is anything new. -/
def save (h : History) (disk : Disk) (path : String) : Except DiskFault Disk :=
  if h.changed then disk.write path h.toText else .ok disk

end History

end Steering.Program
