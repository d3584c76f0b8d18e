import Steering.Grammar.Walk
import Steering.Text.Blank
import Steering.Text.Lowercase

/-!
# Defects of a grammar

A grammar may hold commands that can never be reached or whose arguments cannot be told apart:
a word that no line can give, a fragment that leads nowhere, argument names that collide or look
like markers, a required positional argument after an optional one. `Spec.defects` lists them all,
fragment by fragment in the order of the tree.
-/

namespace Steering.Grammar

variable {Code Handler Source : Type}

/-- A defect, with the words that lead to its fragment. -/
inductive Defect where
  /-- A word under `path` is blank. -/
  | emptyWord (path : List String)
  | uppercaseWord (word : String)
  /-- The fragment is no command and nothing is below it. -/
  | deadEnd (path : List String)
  | invalidArgName (path : List String) (name : String)
  | requiredAfterOptional (path : List String) (name : String)
  | duplicateArgument (path : List String) (name : String)
deriving Repr, DecidableEq

/-- A path as it is shown: its words, or a name for the root. -/
def showPath (path : List String) : String :=
  if path.isEmpty then "<root>" else String.intercalate " " path

def Defect.message : Defect → String
  | .emptyWord path => "empty command word under '" ++ showPath path ++ "'"
  | .uppercaseWord word => "command word must be lowercase: " ++ word
  | .deadEnd path => "fragment is neither a command nor has sub-commands: " ++ showPath path
  | .invalidArgName path name => "invalid argument name '" ++ name ++ "' at: " ++ showPath path
  | .requiredAfterOptional path name =>
    "required positional '" ++ name ++ "' follows an optional one at: " ++ showPath path
  | .duplicateArgument path name => "duplicate argument '" ++ name ++ "' at: " ++ showPath path

/-- A name that can be written after a marker as one plain word. -/
def isArgName (name : String) : Bool :=
  !name.isEmpty && !isMarked name && !name.toList.any Text.isBlank

def nameDefects (path : List String) (name : String) : List Defect :=
  if isArgName name then [] else [.invalidArgName path name]

/-- Defects of the positional arguments, where `names` are the argument names already taken and
`optionalSeen` says whether an optional argument came before. -/
def positionalDefects (path : List String) (names : List String) (optionalSeen : Bool) :
    List (PositionalArg Source) → List Defect
  | [] => []
  | arg :: rest =>
    nameDefects path arg.name ++
    (if names.contains arg.name then [.duplicateArgument path arg.name] else []) ++
    (if optionalSeen && !arg.optional then [.requiredAfterOptional path arg.name] else []) ++
    positionalDefects path (arg.name :: names) (optionalSeen || arg.optional) rest

/-- Defects of one fragment, found at `path`; `inherited` are the names of the named arguments
declared above it. -/
def Fragment.ownDefects (path inherited : List String) (f : Fragment Code Handler Source) :
    List Defect :=
  (if f.isTerminal || !f.sub.isEmpty then [] else [.deadEnd path]) ++
  f.named.keys.flatMap (nameDefects path) ++
  positionalDefects path (f.named.keys ++ inherited) false f.positional

mutual

/-- Defects below a fragment. -/
def Fragment.defectsBelow (path inherited : List String) :
    Fragment Code Handler Source → List Defect
  | ⟨_, _, _, _, _, sub⟩ => defectsAmong path inherited sub

/-- Defects at and below the fragments under `path`. What is below a blank word is not looked
at. -/
def defectsAmong (path inherited : List String) :
    List (String × Fragment Code Handler Source) → List Defect
  | [] => []
  | (word, child) :: rest =>
    (if Text.allBlank word then [.emptyWord path]
    else
      let here := path ++ [word]
      (if Text.lower word = word then [] else [.uppercaseWord word]) ++
      child.ownDefects here inherited ++
      child.defectsBelow here (child.named.keys ++ inherited)) ++
    defectsAmong path inherited rest

end

/-- All defects of the grammar. -/
def Spec.defects (spec : Spec Code Handler Source) : List Defect :=
  defectsAmong [] [] spec.topLevel

end Steering.Grammar
