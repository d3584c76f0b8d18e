import Steering.Pattern.Bracket
import Steering.Text.Property

/-!
# Reading patterns

Reads the text of a pattern into its syntax tree, or refuses it. Groups that are still open are
kept on a stack, each with what was read before it.
-/

namespace Steering.Pattern

/-- A group that is still open. -/
structure OpenGroup where
  /-- Whole branches of the pattern around the group, latest first. -/
  branches : List Ast
  /-- Items of the branch that the group is in, latest first. -/
  items : List Ast
  marks : Bool
  change : FlagChange
  /-- Whether blanks are ignored around the group. -/
  loose : Bool

/-- A pattern that is being read. -/
structure Reading where
  stack : List OpenGroup := []
  branches : List Ast := []
  items : List Ast := []
  loose : Bool := false
  /-- Names of groups. -/
  names : List String := []

namespace Reading

def push (r : Reading) (item : Ast) : Reading := { r with items := item :: r.items }

/-- The branches read so far, with the current one, as one pattern. -/
def whole (r : Reading) : Ast :=
  .ofBranches ((Ast.ofSequence r.items.reverse :: r.branches).reverse)

def endBranch (r : Reading) : Reading :=
  { r with branches := Ast.ofSequence r.items.reverse :: r.branches, items := [] }

/-- Whether blanks are ignored after flags have been changed. -/
def looseAfter (change : FlagChange) (loose : Bool) : Bool :=
  match change.find? (·.1 == .ignoreWhitespace) with
  | some (_, on) => on
  | none => loose

def openGroup (r : Reading) (marks : Bool) (change : FlagChange) : Reading :=
  let around := { branches := r.branches, items := r.items, marks, change, loose := r.loose }
  { r with
    stack := around :: r.stack
    branches := []
    items := []
    loose := looseAfter change r.loose }

def closeGroup (r : Reading) : Option Reading :=
  match r.stack with
  | [] => none
  | g :: stack =>
    some { r with
      stack
      branches := g.branches
      items := .group g.marks g.change r.whole :: g.items
      loose := g.loose }

/-- Takes the latest item for a repetition. Flags cannot be repeated. -/
def repeatLast (r : Reading) (least : Nat) (most : Option Nat) : Option Reading :=
  match r.items with
  | [] | .flags _ :: _ => none
  | item :: items => some { r with items := .repetition least most item :: items }

end Reading

/-! ### Groups -/

def flag? : Char → Option Flag
  | 'i' => some .caseInsensitive
  | 'm' => some .multiLine
  | 's' => some .dotMatchesNewLine
  | 'U' => some .swapGreed
  | 'u' => some .unicode
  | 'R' => some .crlf
  | 'x' => some .ignoreWhitespace
  | _ => none

/-- Flags up to a colon or a closing parenthesis, which is left. No flag may be given twice, and
a hyphen, after which flags are turned off, only once and not last. -/
def readFlags (on : Bool) (change : FlagChange) (hyphenLast : Bool) :
    List Char → Option (FlagChange × List Char)
  | [] => none
  | c :: rest =>
    if c = ':' ∨ c = ')' then if hyphenLast then none else some (change.reverse, c :: rest)
    else if c = '-' then if on then readFlags false change true rest else none
    else
      match flag? c with
      | some flag =>
        if change.any (·.1 == flag) then none
        else readFlags on ((flag, on) :: change) false rest
      | none => none

def alphabetic : Text.CodeSet := (Text.Property.named? "alphabetic").getD .empty

def numeric : Text.CodeSet := (Text.Property.named? "n").getD .empty

/-- Characters that the name of a group may have, and begin with. -/
def isNameChar (first : Bool) (c : Char) : Bool :=
  c == '_' || alphabetic.contains c ||
    (!first && (c == '.' || c == '[' || c == ']' || numeric.contains c))

/-- The name of a group up to its closing angle bracket. -/
def readGroupName (cs : List Char) : Option (String × List Char) :=
  match cs.dropWhile (· != '>') with
  | '>' :: rest =>
    match cs.takeWhile (· != '>') with
    | [] => none
    | c :: more =>
      if isNameChar true c && more.all (isNameChar false) then
        some (String.ofList (c :: more), rest)
      else none
  | _ => none

def namedGroup (r : Reading) (cs : List Char) : Option (Reading × List Char) := do
  let (name, rest) ← readGroupName cs
  if r.names.contains name then none
  else some ({ r with names := name :: r.names }.openGroup true [], rest)

/-- What follows an opening parenthesis. There is no way to look ahead or back. -/
def readGroup (r : Reading) (cs : List Char) : Option (Reading × List Char) :=
  match dropLoose r.loose cs with
  | '?' :: '=' :: _ | '?' :: '!' :: _ | '?' :: '<' :: '=' :: _ | '?' :: '<' :: '!' :: _ => none
  | '?' :: 'P' :: '<' :: rest => namedGroup r rest
  | '?' :: '<' :: rest => namedGroup r rest
  | '?' :: rest => do
    let (change, rest) ← readFlags true [] false rest
    match rest with
    | ':' :: rest => some (r.openGroup false change, rest)
    | _ :: rest =>
      if change.isEmpty then none
      else
        some ({ r.push (.flags change) with loose := Reading.looseAfter change r.loose }, rest)
    | [] => none
  | cs => some (r.openGroup true [], cs)

/-! ### Repetitions -/

/-- The digits of a number, between which there may be blanks if they are ignored. -/
def readCountDigits (loose : Bool) : Nat → List Char → List Char → List Char × List Char
  | fuel + 1, digits, c :: rest =>
    if c.isDigit then readCountDigits loose fuel (c :: digits) (dropLoose loose rest)
    else (digits.reverse, c :: rest)
  | _, digits, cs => (digits.reverse, cs)

/-- A number of repetitions, with blanks around it. -/
def readCount (loose : Bool) (cs : List Char) : Option (Nat × List Char) :=
  let start := cs.dropWhile Text.isBlank
  match readCountDigits loose start.length [] start with
  | ([], _) => none
  | (digits, rest) =>
    let n := digits.foldl (fun n d => n * 10 + (d.toNat - '0'.toNat)) 0
    if n < 0x100000000 then some (n, dropLoose loose (rest.dropWhile Text.isBlank)) else none

/-- A question mark after a repetition only says which match is preferred. -/
def dropLazy : List Char → List Char
  | '?' :: rest => rest
  | cs => cs

/-- A repetition count, after its opening brace. -/
def readCounts (loose : Bool) (cs : List Char) : Option (Nat × Option Nat × List Char) := do
  let (least, rest) ← readCount loose (dropLoose loose cs)
  match rest with
  | '\x7d' :: rest => some (least, some least, rest)
  | ',' :: rest =>
    match dropLoose loose rest with
    | '\x7d' :: rest => some (least, none, rest)
    | rest =>
      let (most, rest) ← readCount loose rest
      match rest with
      | '\x7d' :: rest => if least ≤ most then some (least, some most, rest) else none
      | _ => none
  | _ => none

/-! ### The whole pattern -/

/-- Reads one more part of a pattern, which begins with the given character. -/
def readPart (r : Reading) (c : Char) (rest : List Char) : Option (Reading × List Char) :=
  match c with
  | '(' => readGroup r rest
  | ')' => (r.closeGroup).map (·, rest)
  | '|' => some (r.endBranch, rest)
  | '[' => (readClass r.loose rest).map fun (set, rest) => (r.push set, rest)
  | '?' => (r.repeatLast 0 (some 1)).map (·, dropLazy rest)
  | '*' => (r.repeatLast 0 none).map (·, dropLazy rest)
  | '+' => (r.repeatLast 1 none).map (·, dropLazy rest)
  | '\x7b' => do
    let (least, most, rest) ← readCounts r.loose rest
    let r ← r.repeatLast least most
    some (r, dropLazy (dropLoose r.loose rest))
  | '\\' => (readEscape r.loose rest).map fun (p, rest) => (r.push (.primitive p), rest)
  | '.' => some (r.push (.primitive .dot), rest)
  | '^' => some (r.push (.primitive (.assertion .lineStart)), rest)
  | '$' => some (r.push (.primitive (.assertion .lineEnd)), rest)
  | c => some (r.push (.primitive (.literal c false)), rest)

/-- Reads parts up to the end of the text. -/
def readParts : Nat → Reading → List Char → Option Reading
  | 0, _, _ => none
  | fuel + 1, r, cs =>
    match dropLoose r.loose cs with
    | [] => if r.stack.isEmpty then some r else none
    | c :: rest =>
      match readPart r c rest with
      | some (r, rest) => readParts fuel r rest
      | none => none

/-- How deep a pattern may be nested. -/
def depthLimit : Nat := 250

/-- The syntax tree of a pattern. -/
def ast? (text : String) : Option Ast := do
  let cs := text.toList
  let r ← readParts (cs.length + 1) {} cs
  let tree := r.whole
  if tree.depth ≤ depthLimit then some tree else none

end Steering.Pattern
