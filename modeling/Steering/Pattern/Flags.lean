import Steering.Pattern.Shape
import Steering.Pattern.Syntax
import Steering.Text.Blank
import Steering.Text.CaseFold
import Steering.Text.Property

/-!
# Flags and classes worked out

Flags hold from where they are set to the end of the group around them, across its branches. With
the flags known, every class has a set of characters. Without the flag for Unicode, classes have
ASCII characters only, and a class that would have others is refused.
-/

namespace Steering.Pattern

open Text (CodeSet)

/-- The flags at a place in a pattern. -/
structure Flags where
  caseInsensitive : Bool := false
  multiLine : Bool := false
  dotMatchesNewLine : Bool := false
  unicode : Bool := true
  crlf : Bool := false

namespace Flags

/-- Sets one flag. Which match is preferred has no bearing on whether there is one, and blanks
have been dropped when the pattern was read. -/
def set (f : Flags) : Flag × Bool → Flags
  | (.caseInsensitive, on) => { f with caseInsensitive := on }
  | (.multiLine, on) => { f with multiLine := on }
  | (.dotMatchesNewLine, on) => { f with dotMatchesNewLine := on }
  | (.unicode, on) => { f with unicode := on }
  | (.crlf, on) => { f with crlf := on }
  | (.swapGreed, _) | (.ignoreWhitespace, _) => f

def change (f : Flags) (changes : FlagChange) : Flags := changes.foldl set f

end Flags

/-! ### Sets of characters -/

/-- Characters that words are made of. -/
def wordChars : CodeSet :=
  [Text.Property.named? "alphabetic", Text.Property.named? "m", Text.Property.named? "nd",
    Text.Property.named? "pc", Text.Property.named? "join_control"].reduceOption.foldl
      CodeSet.union .empty

def digits : CodeSet := (Text.Property.named? "nd").getD .empty

def blanks : CodeSet := (Text.Property.named? "white_space").getD .empty

def asciiWordChars : CodeSet := ⟨#[(48, 57), (65, 90), (95, 95), (97, 122)]⟩

/-- A class with a letter of its own. -/
def shortSet (f : Flags) (kind : ShortClass) : CodeSet :=
  if f.unicode then
    match kind with
    | .digit => digits
    | .space => blanks
    | .word => wordChars
  else
    match kind with
    | .digit => ⟨#[(48, 57)]⟩
    | .space => ⟨#[(9, 13), (32, 32)]⟩
    | .word => asciiWordChars

/-- Both cases of the ASCII letters in a set. -/
def asciiFoldClosure (s : CodeSet) : CodeSet :=
  s.union (.ofRanges ((List.range 26).flatMap fun i =>
    (if s.hasCode (65 + i) then [(97 + i, 97 + i)] else []) ++
      (if s.hasCode (97 + i) then [(65 + i, 65 + i)] else [])))

/-- All cases of the characters in a set, if case does not matter. -/
def foldCase (f : Flags) (s : CodeSet) : CodeSet :=
  if f.caseInsensitive then
    if f.unicode then s.foldClosure else asciiFoldClosure s
  else s

/-- The set or its complement. Without Unicode it must stay within ASCII. -/
def negateIf (f : Flags) (negated : Bool) (s : CodeSet) : Option CodeSet :=
  let s := if negated then s.complement else s
  if f.unicode || s.isAscii then some s else none

/-- The set of a property. -/
def propertySet? (f : Flags) (query : PropertyQuery) (negated : Bool) : Option CodeSet := do
  let set ← match query with
    | .named name => Text.Property.named? name
    | .valued property value => Text.Property.valued? property value
  if f.unicode then negateIf f negated (foldCase f set) else none

def SetOperator.apply : SetOperator → CodeSet → CodeSet → CodeSet
  | .intersection => CodeSet.inter
  | .difference => CodeSet.diff
  | .symmetricDifference => CodeSet.symmDiff

mutual

/-- The characters of a class. Case is worked out before a complement is taken. -/
def classSet? (f : Flags) : ClassSet → Option CodeSet
  | .range first last _ =>
    if f.unicode || last.toNat < 128 then some ⟨#[(first.toNat, last.toNat)]⟩ else none
  | .short kind negated => negateIf f negated (shortSet f kind)
  | .property query negated => propertySet? f query negated
  | .ascii ranges negated => negateIf f negated (foldCase f (.ofRanges ranges))
  | .union items => do
    let sets ← classSets? f items
    some (.ofRanges (sets.flatMap fun s => s.ranges.toList))
  | .bracketed negated inside => do
    let set ← classSet? f inside
    negateIf f negated (foldCase f set)
  | .operation op left right => do
    let left ← classSet? f left
    let right ← classSet? f right
    some (op.apply (foldCase f left) (foldCase f right))

def classSets? (f : Flags) : List ClassSet → Option (List CodeSet)
  | [] => some []
  | item :: rest => do
    let set ← classSet? f item
    let sets ← classSets? f rest
    some (set :: sets)

end

/-! ### Shapes -/

/-- The characters that a dot stands for. -/
def dotSet (f : Flags) : CodeSet :=
  if f.dotMatchesNewLine then .all
  else if f.crlf then CodeSet.complement ⟨#[(10, 10), (13, 13)]⟩
  else CodeSet.complement ⟨#[(10, 10)]⟩

def assertionPlace (f : Flags) (a : Assertion) : Place :=
  let word := if f.unicode then wordChars else asciiWordChars
  match a with
  | .lineStart =>
    if f.multiLine then if f.crlf then .anyLineStart else .lineStart else .textStart
  | .lineEnd => if f.multiLine then if f.crlf then .anyLineEnd else .lineEnd else .textEnd
  | .textStart => .textStart
  | .textEnd => .textEnd
  | .wordBoundary => .wordBoundary word
  | .notWordBoundary => .notWordBoundary word
  | .wordStart => .wordStart word
  | .wordEnd => .wordEnd word
  | .wordStartHalf => .wordStartHalf word
  | .wordEndHalf => .wordEndHalf word

/-- The shape of one character or place. A byte that is no character is refused. -/
def primitiveShape? (f : Flags) : Primitive → Option Shape
  | .literal c asByte =>
    if asByte && !f.unicode && 128 ≤ c.toNat then none
    else some (.char (foldCase f ⟨#[(c.toNat, c.toNat)]⟩))
  | .dot => if f.unicode then some (.char (dotSet f)) else none
  | .assertion a => some (.place (assertionPlace f a))
  | .short kind negated => (negateIf f negated (shortSet f kind)).map .char
  | .property query negated => (propertySet? f query negated).map .char

mutual

/-- The shape of a part of a pattern, and the flags after it. -/
def shape? (f : Flags) : Ast → Option (Shape × Flags)
  | .empty => some (.empty, f)
  | .flags change => some (.empty, f.change change)
  | .primitive p => (primitiveShape? f p).map (·, f)
  | .bracketed negated inside => (classSet? f (.bracketed negated inside)).map (.char ·, f)
  | .repetition least most inside => do
    let (inside, f) ← shape? f inside
    some (.repeated least most inside, f)
  | .group marks change inside => do
    let (inside, _) ← shape? (f.change change) inside
    some (if marks then .group inside else inside, f)
  | .alternation branches => do
    let (shapes, f) ← shapes? f branches
    some (.alternated shapes, f)
  | .sequence items => do
    let (shapes, f) ← shapes? f items
    some (.sequence shapes, f)

/-- The shapes of parts, with flags going on from each to the next. -/
def shapes? (f : Flags) : List Ast → Option (List Shape × Flags)
  | [] => some ([], f)
  | item :: rest => do
    let (shape, f) ← shape? f item
    let (shapes, f) ← shapes? f rest
    some (shape :: shapes, f)

end

end Steering.Pattern
