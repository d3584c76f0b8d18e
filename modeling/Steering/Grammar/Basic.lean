import Steering.Dict

/-!
# Command grammars

A grammar is a tree of fragments, one for each command word. A fragment with a code is a complete
command and says which arguments follow it: positional ones in order, then named ones in any
order. Named arguments, and the handler, that a fragment declares also hold for the fragments
below it.

The grammar does not care what codes and handlers are. An argument may name a *source* of
candidate values; what a source answers is not the grammar's business either.
-/

namespace Steering.Grammar

/-- The character that introduces the name of an argument on a line. -/
def marker : Char := '-'

structure PositionalArg (Source : Type) where
  name : String
  description : String
  /-- Optional arguments may be left out by starting the named ones. -/
  optional : Bool := false
  source : Option Source := none
deriving DecidableEq, Inhabited

structure NamedArg (Source : Type) where
  description : String
  /-- A flag is given by its name alone; the other named arguments have a value. -/
  isFlag : Bool := false
  source : Option Source := none
deriving DecidableEq, Inhabited

/-- A node of the grammar. The fragments below it are kept with their command words. -/
structure Fragment (Code Handler Source : Type) where
  description : String
  positional : List (PositionalArg Source) := []
  named : Dict (NamedArg Source) := {}
  code : Option Code := none
  handler : Option Handler := none
  sub : List (String × Fragment Code Handler Source) := []

variable {Code Handler Source : Type}

namespace Fragment

instance : Inhabited (Fragment Code Handler Source) := ⟨{ description := "" }⟩

/-- A terminal fragment is a complete command. -/
def isTerminal (f : Fragment Code Handler Source) : Bool := f.code.isSome

/-- The fragment that the given words lead to. -/
def find? (f : Fragment Code Handler Source) : List String → Option (Fragment Code Handler Source)
  | [] => some f
  | word :: words => (Entries.find? word f.sub).bind fun child => child.find? words

mutual

/-- The command words under the fragment, and under every fragment below it, increase. -/
def Ordered : Fragment Code Handler Source → Prop
  | ⟨_, _, _, _, _, sub⟩ => Entries.Sorted sub ∧ BranchesOrdered sub

/-- Every one of the fragments is ordered. -/
def BranchesOrdered : List (String × Fragment Code Handler Source) → Prop
  | [] => True
  | (_, child) :: rest => child.Ordered ∧ BranchesOrdered rest

end

mutual

/-- The fragment with the words under it, at every depth, in increasing order; of two equal words
the later one counts. -/
def arrange : Fragment Code Handler Source → Fragment Code Handler Source
  | ⟨description, positional, named, code, handler, sub⟩ =>
    ⟨description, positional, named, code, handler, arrangeInto [] sub⟩

/-- Adds fragments, arranged, to fragments that are in order. -/
def arrangeInto (done : List (String × Fragment Code Handler Source)) :
    List (String × Fragment Code Handler Source) → List (String × Fragment Code Handler Source)
  | [] => done
  | (word, child) :: rest => arrangeInto (Entries.insert word child.arrange done) rest

end

theorem branchesOrdered_iff {sub : List (String × Fragment Code Handler Source)} :
    BranchesOrdered sub ↔ ∀ e ∈ sub, e.2.Ordered := by
  induction sub with
  | nil => simp [BranchesOrdered]
  | cons head rest ih =>
    obtain ⟨word, child⟩ := head
    simp [BranchesOrdered, ih]

mutual

theorem ordered_arrange : (f : Fragment Code Handler Source) → f.arrange.Ordered
  | ⟨_, _, _, _, _, sub⟩ => by
    rw [arrange, Ordered]
    exact arrangeInto_ordered [] sub Entries.Sorted.nil trivial

theorem arrangeInto_ordered (done : List (String × Fragment Code Handler Source)) :
    (sub : List (String × Fragment Code Handler Source)) →
    Entries.Sorted done → BranchesOrdered done →
    Entries.Sorted (arrangeInto done sub) ∧ BranchesOrdered (arrangeInto done sub)
  | [], sorted, ordered => ⟨sorted, ordered⟩
  | (word, child) :: rest, sorted, ordered => by
    rw [arrangeInto]
    refine arrangeInto_ordered _ rest (sorted.insert _ _) (branchesOrdered_iff.2 fun e he => ?_)
    rcases Entries.mem_insert he with rfl | he
    · exact ordered_arrange child
    · exact branchesOrdered_iff.1 ordered e he

end

mutual

/-- The terminal fragments below this one, with the words that lead to them after `path`. -/
def commandsBelow (path : List String) :
    Fragment Code Handler Source → List (List String × Fragment Code Handler Source)
  | ⟨_, _, _, _, _, sub⟩ => commandsAmong path sub

/-- The terminal fragments at and below the given ones. -/
def commandsAmong (path : List String) :
    List (String × Fragment Code Handler Source) →
      List (List String × Fragment Code Handler Source)
  | [] => []
  | (word, child) :: rest =>
    let here := path ++ [word]
    (if child.isTerminal then [(here, child)] else []) ++ child.commandsBelow here ++
      commandsAmong path rest

end

end Fragment

/-- A whole grammar: the fragments of the first word of a line, in increasing order of word at
every depth. -/
structure Spec (Code Handler Source : Type) where
  topLevel : List (String × Fragment Code Handler Source)
  sorted : Entries.Sorted topLevel
  ordered : Fragment.BranchesOrdered topLevel

namespace Spec

/-- The grammar of the given commands, which may come in any order; of two with one word the
later counts. -/
def ofCommands (commands : List (String × Fragment Code Handler Source)) :
    Spec Code Handler Source :=
  have h := Fragment.arrangeInto_ordered [] commands Entries.Sorted.nil trivial
  { topLevel := Fragment.arrangeInto [] commands, sorted := h.1, ordered := h.2 }

/-- The fragment above all command words. It is no command and declares nothing. -/
def root (spec : Spec Code Handler Source) : Fragment Code Handler Source :=
  { description := "", sub := spec.topLevel }

theorem root_ordered (spec : Spec Code Handler Source) : spec.root.Ordered := by
  rw [root, Fragment.Ordered]
  exact ⟨spec.sorted, spec.ordered⟩

def find? (spec : Spec Code Handler Source) (words : List String) :
    Option (Fragment Code Handler Source) :=
  spec.root.find? words

/-- Every complete command with the words that lead to it, in the order of the tree. -/
def commands (spec : Spec Code Handler Source) :
    List (List String × Fragment Code Handler Source) :=
  spec.root.commandsBelow []

end Spec

end Steering.Grammar
