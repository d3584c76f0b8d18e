import Steering.Pattern.Syntax
import Steering.Text.Blank
import Steering.Text.CodeSet

/-!
# Escapes in patterns

Everything that begins with a backslash. If blanks are ignored in the pattern, they and comments
may also stand within longer escapes; the argument `loose` says so. Each function takes the text
from where it starts and gives what it has read, with the rest of the text.
-/

namespace Steering.Pattern

/-- Drops a comment, up to the end of the line. -/
def dropComment : List Char → List Char
  | [] => []
  | '\n' :: rest => rest
  | _ :: rest => dropComment rest

theorem length_dropComment_le : (cs : List Char) → (dropComment cs).length ≤ cs.length
  | [] => Nat.le_refl _
  | c :: rest => by
    rw [dropComment.eq_def]
    split
    · simp
    · next h => cases h; simp
    · next h =>
      cases h
      exact Nat.le_succ_of_le (length_dropComment_le rest)

/-- Drops blanks and comments. -/
def dropBlanks (cs : List Char) : List Char :=
  match cs with
  | [] => []
  | c :: rest =>
    if Text.isBlank c then dropBlanks rest
    else if c = '#' then
      have : (dropComment rest).length ≤ rest.length := length_dropComment_le rest
      dropBlanks (dropComment rest)
    else cs
termination_by cs.length
decreasing_by
  · simp_wf
  · simp_wf; omega

def dropLoose (loose : Bool) (cs : List Char) : List Char := if loose then dropBlanks cs else cs

/-- Characters that mean something in a pattern, or may come to. -/
def isMeta (c : Char) : Bool :=
  "\\.+*?()|[]\x7b\x7d^$#&-~".toList.contains c

/-- Holds of characters for which a backslash means themselves. -/
def escapesToItself (c : Char) : Bool :=
  isMeta c || (c.toNat < 128 && !c.isAlphanum && c != '<' && c != '>')

/-- The character with a code point, if there is one. -/
def charOf? (n : Nat) : Option Char := if n.isValidChar then some (Char.ofNat n) else none

/-- The given number of hexadecimal digits. -/
def readHexDigits (loose : Bool) : Nat → Nat → List Char → Option (Nat × List Char)
  | 0, value, cs => some (value, cs)
  | count + 1, value, c :: rest =>
    match Text.CodeSet.hexDigit? c with
    | some d => readHexDigits loose count (value * 16 + d) (dropLoose loose rest)
    | none => none
  | _ + 1, _, [] => none

/-- Hexadecimal digits up to a closing brace; `any` says that there has been one. -/
def readHexBrace (loose : Bool) : Nat → Bool → Nat → List Char → Option (Nat × List Char)
  | 0, _, _, _ => none
  | fuel + 1, any, value, cs =>
    match dropLoose loose cs with
    | '\x7d' :: rest => if any then some (value, dropLoose loose rest) else none
    | c :: rest =>
      match Text.CodeSet.hexDigit? c with
      | some d => readHexBrace loose fuel true (value * 16 + d) rest
      | none => none
    | [] => none

/-- A character by its code point, after the letter that announces it. -/
def readHex (loose : Bool) (letter : Char) (cs : List Char) : Option (Primitive × List Char) := do
  let digits := if letter = 'x' then 2 else if letter = 'u' then 4 else 8
  match dropLoose loose cs with
  | '\x7b' :: rest =>
    let (value, rest) ← readHexBrace loose (rest.length + 1) false 0 rest
    some (.literal (← charOf? value) false, rest)
  | cs =>
    let (value, rest) ← readHexDigits loose digits 0 cs
    some (.literal (← charOf? value) (letter = 'x'), rest)

/-- A text up to a closing brace. -/
def readBraced (loose : Bool) : Nat → List Char → List Char → Option (List Char × List Char)
  | 0, _, _ => none
  | fuel + 1, read, cs =>
    match dropLoose loose cs with
    | '\x7d' :: rest => some (read.reverse, rest)
    | c :: rest => readBraced loose fuel (c :: read) rest
    | [] => none

/-- The text before and after the first place where `mark` stands. -/
def cutAt (mark : List Char) : List Char → Option (List Char × List Char)
  | [] => none
  | c :: rest =>
    if mark.isPrefixOf (c :: rest) then some ([], (c :: rest).drop mark.length)
    else (cutAt mark rest).map fun (before, after) => (c :: before, after)

/-- The property that the text between braces names. A value may also follow `!=`, which means no
other than `=`. -/
def propertyQuery (text : List Char) : PropertyQuery :=
  let parts := match cutAt ['!', '='] text with
    | some parts => some parts
    | none => (cutAt [':'] text).orElse fun _ => cutAt ['='] text
  match parts with
  | some (property, value) => .valued (String.ofList property) (String.ofList value)
  | none => .named (String.ofList text)

/-- A property class, after the letter that announces it. -/
def readProperty (loose negated : Bool) (cs : List Char) : Option (Primitive × List Char) :=
  match dropLoose loose cs with
  | '\x7b' :: rest => do
    let (text, rest) ← readBraced loose (rest.length + 1) [] rest
    some (.property (propertyQuery text) negated, rest)
  | c :: rest =>
    if c = '\\' then none
    else some (.property (.named (String.singleton c)) negated, dropLoose loose rest)
  | [] => none

/-- What follows `\b`: a name in braces makes it a more special assertion. Braces that begin with
neither a letter nor a hyphen belong to a repetition. -/
def readWordBoundary (loose : Bool) (cs : List Char) : Option (Primitive × List Char) :=
  let isNameChar := fun c : Char => c.isAlpha || c == '-'
  match cs with
  | '\x7b' :: rest =>
    match dropLoose loose rest with
    | [] => none
    | c :: _ =>
      if isNameChar c then do
        let (name, rest) ← readBraced loose (rest.length + 1) [] rest
        match String.ofList name with
        | "start" => some (.assertion .wordStart, rest)
        | "end" => some (.assertion .wordEnd, rest)
        | "start-half" => some (.assertion .wordStartHalf, rest)
        | "end-half" => some (.assertion .wordEndHalf, rest)
        | _ => none
      else some (.assertion .wordBoundary, cs)
  | _ => some (.assertion .wordBoundary, cs)

/-- An escape, after its backslash. There are no references to groups. -/
def readEscape (loose : Bool) : List Char → Option (Primitive × List Char)
  | [] => none
  | c :: rest =>
    if c.isDigit then none
    else if escapesToItself c then some (.literal c false, rest)
    else
      match c with
      | 'x' | 'u' | 'U' => readHex loose c rest
      | 'p' => readProperty loose false rest
      | 'P' => readProperty loose true rest
      | 'd' => some (.short .digit false, rest)
      | 'D' => some (.short .digit true, rest)
      | 's' => some (.short .space false, rest)
      | 'S' => some (.short .space true, rest)
      | 'w' => some (.short .word false, rest)
      | 'W' => some (.short .word true, rest)
      | 'a' => some (.literal '\x07' false, rest)
      | 'f' => some (.literal '\x0c' false, rest)
      | 't' => some (.literal '\t' false, rest)
      | 'n' => some (.literal '\n' false, rest)
      | 'r' => some (.literal '\r' false, rest)
      | 'v' => some (.literal '\x0b' false, rest)
      | 'A' => some (.assertion .textStart, rest)
      | 'z' => some (.assertion .textEnd, rest)
      | 'b' => readWordBoundary loose rest
      | 'B' => some (.assertion .notWordBoundary, rest)
      | '<' => some (.assertion .wordStart, rest)
      | '>' => some (.assertion .wordEnd, rest)
      | _ => none

end Steering.Pattern
