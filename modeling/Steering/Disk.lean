import Steering.Text.Pieces

/-!
# Files

A disk holds files by path, as seen from a working directory. A file is a text, or bytes that are
no text. The directories are those that lead to a file, and any that are there without files.
Reading and writing fail in the ways in which opening a file fails; a file that can be opened is
written whole.
-/

namespace Steering

/-- Why a file operation fails. -/
inductive DiskFault where
  | noSuchFile
  | isDirectory
  | notDirectory
  | permissionDenied
  | nameTooLong
  | nulInPath
  | notText
deriving Repr, DecidableEq, Inhabited

def DiskFault.message : DiskFault → String
  | .noSuchFile => "No such file or directory (os error 2)"
  | .isDirectory => "Is a directory (os error 21)"
  | .notDirectory => "Not a directory (os error 20)"
  | .permissionDenied => "Permission denied (os error 13)"
  | .nameTooLong => "File name too long (os error 36)"
  | .nulInPath => "file name contained an unexpected NUL byte"
  | .notText => "stream did not contain valid UTF-8"

inductive FileContent where
  | text (text : String)
  /-- Bytes that are not UTF-8. -/
  | binary (bytes : List UInt8)
deriving Repr, DecidableEq, Inhabited

/-- The content that is made of the given bytes. -/
def FileContent.ofBytes (bytes : List UInt8) : FileContent :=
  match String.fromUTF8? ⟨bytes.toArray⟩ with
  | some s => .text s
  | none => .binary bytes

/-- A path taken apart: the names on it, whether it begins at the root, and whether it ends like
the path of a directory. -/
structure Path where
  names : List String
  absolute : Bool
  asDirectory : Bool
deriving Repr, DecidableEq

namespace Path

/-- Takes a path apart. Empty names and single dots do not count. -/
def ofText (path : String) : Path :=
  let parts := (Text.pieces '/' path.toList).map String.ofList
  { names := parts.filter fun name => name ≠ "" ∧ name ≠ "."
    absolute := parts.head? = some "" && path ≠ ""
    asDirectory := match parts.getLast? with
      | some last => last = "" || last = "." || last = ".."
      | none => true }

/-- Whether the one path leads, by at least one step, to the other. -/
def above (p q : Path) : Bool :=
  p.absolute == q.absolute && p.names.isPrefixOf q.names && p.names.length < q.names.length

end Path

/-- The files of a disk, each path once. -/
structure Disk where
  files : List (Path × FileContent) := []
  /-- Paths of directories. Those that lead to a file need not be among them. -/
  directories : List Path := []
  /-- Paths of files that cannot be opened for writing. -/
  readOnly : List Path := []
deriving Repr, Inhabited

namespace Disk

/-- The file that a path leads to. -/
def find? (disk : Disk) (p : Path) : Option FileContent :=
  (disk.files.find? fun file => file.1.names = p.names && file.1.absolute == p.absolute).map (·.2)

/-- The working directory and those above it are always there. -/
def hasDirectory (disk : Disk) (p : Path) : Bool :=
  p.names.all (· = "..") || (disk.files.any fun file => p.above file.1) ||
    disk.directories.any fun d => d.names = p.names && d.absolute == p.absolute

/-- Why a path that leads to no file does not: a name on it may be that of a file. -/
def missing (disk : Disk) (p : Path) : DiskFault :=
  if disk.files.any fun file => file.1.above p then .notDirectory
  else if p.names.any fun name => 255 < name.utf8ByteSize then .nameTooLong
  else .noSuchFile

def directoryOf (p : Path) : Path := { p with names := p.names.dropLast }

/-- The content of the file at a path. -/
def read (disk : Disk) (path : String) : Except DiskFault FileContent :=
  let p := Path.ofText path
  if path.toList.contains '\x00' then .error .nulInPath
  else if path = "" then .error .noSuchFile
  else if disk.hasDirectory p then .error .isDirectory
  else
    match disk.find? p with
    | some content => if p.asDirectory then .error .notDirectory else .ok content
    | none => .error (disk.missing p)

/-- The content of the file at a path, as a text. -/
def readText (disk : Disk) (path : String) : Except DiskFault String :=
  match disk.read path with
  | .ok (.text text) => .ok text
  | .ok (.binary _) => .error .notText
  | .error fault => .error fault

/-- Whether there is a file or a directory at a path. -/
def has (disk : Disk) (path : String) : Bool :=
  match disk.read path with
  | .ok _ | .error .isDirectory => true
  | .error _ => false

/-- The disk with a file added or replaced, whatever is in its way. -/
def put (disk : Disk) (path : String) (content : FileContent) : Disk :=
  let p := Path.ofText path
  let others := disk.files.filter fun file =>
    !(file.1.names = p.names && file.1.absolute == p.absolute)
  { disk with files := (p, content) :: others }

/-- Writes a file, which replaces the one at its path. The directory it goes into has to be
there. -/
def write (disk : Disk) (path : String) (text : String) : Except DiskFault Disk :=
  let p := Path.ofText path
  if path.toList.contains '\x00' then .error .nulInPath
  else if path = "" then .error .noSuchFile
  else if disk.hasDirectory p then .error .isDirectory
  else if (disk.find? p).isSome then
    if p.asDirectory then .error .notDirectory
    else if disk.readOnly.contains p then .error .permissionDenied
    else .ok (disk.put path (.text text))
  else if disk.hasDirectory (directoryOf p) then
    if p.names.any fun name => 255 < name.utf8ByteSize then .error .nameTooLong
    else if p.asDirectory then .error .isDirectory
    else .ok (disk.put path (.text text))
  else .error (disk.missing p)

end Disk

end Steering
