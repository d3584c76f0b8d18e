import Steering.Text.CodeSet

/-!
# What a pattern matches

A pattern with its flags and classes worked out: sets of characters, conditions on places, and
the ways to combine them.
-/

namespace Steering.Pattern

/-- A condition on the characters before and after a place; `none` is an end of the text. -/
inductive Place where
  | textStart
  | textEnd
  /-- The start of a line, where lines end in a line feed. -/
  | lineStart
  | lineEnd
  /-- The start of a line, where lines end in a carriage return, a line feed or both. -/
  | anyLineStart
  | anyLineEnd
  | wordBoundary (word : Text.CodeSet)
  | notWordBoundary (word : Text.CodeSet)
  | wordStart (word : Text.CodeSet)
  | wordEnd (word : Text.CodeSet)
  | wordStartHalf (word : Text.CodeSet)
  | wordEndHalf (word : Text.CodeSet)

namespace Place

/-- Whether the condition holds between two characters. -/
def holds (before after : Option Char) : Place → Bool
  | textStart => before.isNone
  | textEnd => after.isNone
  | lineStart => before.isNone || before == some '\n'
  | lineEnd => after.isNone || after == some '\n'
  | anyLineStart =>
    before.isNone || before == some '\n' || (before == some '\r' && after != some '\n')
  | anyLineEnd =>
    after.isNone || after == some '\r' || (after == some '\n' && before != some '\r')
  | wordBoundary word => before.any word.contains != after.any word.contains
  | notWordBoundary word => before.any word.contains == after.any word.contains
  | wordStart word => !before.any word.contains && after.any word.contains
  | wordEnd word => before.any word.contains && !after.any word.contains
  | wordStartHalf word => !before.any word.contains
  | wordEndHalf word => !after.any word.contains

end Place

inductive Shape where
  | empty
  | char (set : Text.CodeSet)
  | place (p : Place)
  | repetition (least : Nat) (most : Option Nat) (inside : Shape)
  /-- A part of the pattern whose place within a match is of interest. -/
  | group (inside : Shape)
  | alternation (branches : List Shape)
  | sequence (items : List Shape)

namespace Shape

mutual

/-- Holds if a match is never longer than no character. -/
def onlyEmpty : Shape → Bool
  | .empty | .place _ => true
  | .char _ => false
  | .repetition _ _ inside => inside.onlyEmpty
  | .group inside => inside.onlyEmpty
  | .alternation branches => onlyEmptyAll branches
  | .sequence items => onlyEmptyAll items

def onlyEmptyAll : List Shape → Bool
  | [] => true
  | item :: rest => item.onlyEmpty && onlyEmptyAll rest

end

mutual

/-- Holds if there is a match of no character. -/
def canBeEmpty : Shape → Bool
  | .empty | .place _ => true
  | .char _ => false
  | .repetition least _ inside => least = 0 || inside.canBeEmpty
  | .group inside => inside.canBeEmpty
  | .alternation branches => anyCanBeEmpty branches
  | .sequence items => allCanBeEmpty items

def anyCanBeEmpty : List Shape → Bool
  | [] => false
  | item :: rest => item.canBeEmpty || anyCanBeEmpty rest

def allCanBeEmpty : List Shape → Bool
  | [] => true
  | item :: rest => item.canBeEmpty && allCanBeEmpty rest

end

/-- A repetition. What matches no character is repeated at most once, and no repetition at all is
empty. -/
def repeated (least : Nat) (most : Option Nat) (inside : Shape) : Shape :=
  let (least, most) :=
    if inside.onlyEmpty then (min least 1, some (min (most.getD 1) 1)) else (least, most)
  if most = some 0 then .empty
  else if least = 1 ∧ most = some 1 then inside
  else .repetition least most inside

/-- What may be chosen from in a shape. -/
def choices : Shape → List Shape
  | .alternation branches => branches
  | shape => [shape]

/-- The characters of a shape that matches one character. -/
def set? : Shape → Option Text.CodeSet
  | .char set => some set
  | _ => none

/-- An alternation. Branches that are alternations themselves are taken apart. Between single
characters, or between larger sets of them, it is one set. -/
def alternated (branches : List Shape) : Shape :=
  match branches.flatMap choices with
  | [branch] => branch
  | branches =>
    match branches.mapM set? with
    | some sets =>
      if sets.all (·.isSingle) || !sets.any (·.isSingle) then
        .char (.ofRanges (sets.flatMap fun set => set.ranges.toList))
      else .alternation branches
    | none => .alternation branches

end Shape

end Steering.Pattern
