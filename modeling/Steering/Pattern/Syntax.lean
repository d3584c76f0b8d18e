/-!
# Syntax of regular expressions

The syntax tree of a pattern, as it is written: flags and classes are not yet worked out.
-/

namespace Steering.Pattern

/-- A condition on the place between two characters. -/
inductive Assertion where
  | lineStart
  | lineEnd
  | textStart
  | textEnd
  | wordBoundary
  | notWordBoundary
  | wordStart
  | wordEnd
  | wordStartHalf
  | wordEndHalf
deriving Repr, DecidableEq

inductive Flag where
  | caseInsensitive
  | multiLine
  | dotMatchesNewLine
  | swapGreed
  | unicode
  | crlf
  | ignoreWhitespace
deriving Repr, DecidableEq

/-- Flags that are turned on or off together. -/
abbrev FlagChange := List (Flag × Bool)

/-- Classes of characters that have a letter of their own. -/
inductive ShortClass where
  | digit
  | space
  | word
deriving Repr, DecidableEq

/-- How a property of characters is named. -/
inductive PropertyQuery where
  | named (name : String)
  | valued (property value : String)
deriving Repr, DecidableEq

/-- Something that stands for one character, or for a place between two. -/
inductive Primitive where
  /-- A character. `asByte` says that it was written by two hexadecimal digits. -/
  | literal (c : Char) (asByte : Bool)
  | dot
  | assertion (a : Assertion)
  | short (kind : ShortClass) (negated : Bool)
  | property (query : PropertyQuery) (negated : Bool)
deriving Repr, DecidableEq

inductive SetOperator where
  | intersection
  | difference
  | symmetricDifference
deriving Repr, DecidableEq

/-- What stands between brackets. -/
inductive ClassSet where
  | range (first last : Char) (asByte : Bool)
  | short (kind : ShortClass) (negated : Bool)
  | property (query : PropertyQuery) (negated : Bool)
  /-- A class of ASCII characters, as the ranges it is made of. -/
  | ascii (ranges : List (Nat × Nat)) (negated : Bool)
  | union (items : List ClassSet)
  | bracketed (negated : Bool) (inside : ClassSet)
  | operation (op : SetOperator) (left right : ClassSet)

inductive Ast where
  | empty
  | flags (change : FlagChange)
  | primitive (p : Primitive)
  | bracketed (negated : Bool) (inside : ClassSet)
  /-- From `least` to `most` times; no bound if there is no `most`. -/
  | repetition (least : Nat) (most : Option Nat) (inside : Ast)
  /-- A group. `marks` says whether its place within a match is of interest. -/
  | group (marks : Bool) (change : FlagChange) (inside : Ast)
  | alternation (branches : List Ast)
  | sequence (items : List Ast)

/-! ### Nesting -/

mutual

/-- How deep classes are nested. -/
def ClassSet.depth : ClassSet → Nat
  | .union [item] => item.depth
  | .union [] => 0
  | .union (item :: rest) => max item.depth (depthAmong rest) + 1
  | .bracketed _ inside => inside.depth + 1
  | .operation _ left right => max left.depth right.depth + 1
  | _ => 0

def ClassSet.depthAmong : List ClassSet → Nat
  | [] => 0
  | item :: rest => max item.depth (ClassSet.depthAmong rest)

end

mutual

/-- How deep the parts of a pattern are nested. -/
def Ast.depth : Ast → Nat
  | .bracketed _ inside => inside.depth + 1
  | .repetition _ _ inside => inside.depth + 1
  | .group _ _ inside => inside.depth + 1
  | .alternation branches => Ast.depthAmong branches + 1
  | .sequence items => Ast.depthAmong items + 1
  | _ => 0

def Ast.depthAmong : List Ast → Nat
  | [] => 0
  | item :: rest => max item.depth (Ast.depthAmong rest)

end

/-- The union of the given items. -/
def ClassSet.ofItems : List ClassSet → ClassSet
  | [item] => item
  | items => .union items

/-- The pattern of the given parts, one after the other. -/
def Ast.ofSequence : List Ast → Ast
  | [] => .empty
  | [item] => item
  | items => .sequence items

/-- The pattern that matches what one of the branches does. -/
def Ast.ofBranches : List Ast → Ast
  | [branch] => branch
  | branches => .alternation branches

end Steering.Pattern
