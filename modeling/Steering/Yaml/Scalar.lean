import Steering.Text.Numeral
import Steering.Yaml.Cursor

/-!
# Reading scalars

The text of a scalar, by the ways in which it may be written: plain, in quotes, or as a block of
lines. Where a plain or quoted scalar goes over several lines, the lines are folded: one line end
becomes a space, and of several the first is dropped.
-/

namespace Steering.Yaml

/-- What stands between two words of a scalar; lists of characters begin with the latest. -/
structure Gap where
  spaces : List Char := []
  /-- Whether a line has ended; spaces do not count from there on. -/
  broken : Bool := false
  first : List Char := []
  more : List Char := []

/-- The text that a gap stands for. -/
def Gap.text (g : Gap) : List Char :=
  if !g.broken then g.spaces.reverse
  else if g.first = ['\n'] then if g.more.isEmpty then [' '] else g.more.reverse
  else g.first ++ g.more.reverse

/-- Reads a gap on. Tabs may not stand in front of the given column of a new line. -/
def readGap (indent : Nat) : Nat → Gap → Cursor → Option (Gap × Cursor)
  | 0, _, _ => none
  | fuel + 1, g, cur =>
    match cur.next? with
    | none => some (g, cur)
    | some c =>
      if isBlank c then
        if g.broken then
          if c = '\t' ∧ cur.column < indent then none else readGap indent fuel g (cur.skip 1)
        else readGap indent fuel { g with spaces := c :: g.spaces } (cur.skip 1)
      else if isBreak c then
        let (lineEnd, cur) := cur.takeBreak
        if g.broken then readGap indent fuel { g with more := lineEnd ++ g.more } cur
        else readGap indent fuel { broken := true, first := lineEnd } cur
      else some (g, cur)

/-! ### Quoted scalars -/

/-- The character that an escape with one letter stands for. -/
def simpleEscape? : Char → Option Char
  | '0' => some '\x00'
  | 'a' => some '\x07'
  | 'b' => some '\x08'
  | 't' | '\t' => some '\t'
  | 'n' => some '\n'
  | 'v' => some '\x0b'
  | 'f' => some '\x0c'
  | 'r' => some '\r'
  | 'e' => some '\x1b'
  | ' ' => some ' '
  | '"' => some '"'
  | '/' => some '/'
  | '\\' => some '\\'
  | 'N' => some '\u0085'
  | '_' => some '\u00a0'
  | 'L' => some '\u2028'
  | 'P' => some '\u2029'
  | _ => none

/-- How many hexadecimal digits follow a letter. -/
def escapeLength? : Char → Option Nat
  | 'x' => some 2
  | 'u' => some 4
  | 'U' => some 8
  | _ => none

/-- An escape, after its backslash. -/
def readEscape (cur : Cursor) : Option (Char × Cursor) := do
  let letter ← cur.next?
  match escapeLength? letter with
  | none => some (← simpleEscape? letter, cur.skip 1)
  | some count =>
    let digits := (cur.rest.drop 1).take count
    let value ← Text.digitsValue? 16 digits
    if digits.length = count ∧ value.isValidChar then
      some (Char.ofNat value, cur.skip (1 + count))
    else none

/-- Reads a quoted scalar on, up to its closing quote; `text` is what has been read, from its
end. -/
def readQuoted (double : Bool) : Nat → List Char → Cursor → Option (List Char × Cursor)
  | 0, _, _ => none
  | fuel + 1, text, cur =>
    if cur.atDocumentMark then none
    else
      match cur.next? with
      | none => none
      | some c =>
        if c = (if double then '"' else '\'') then
          if !double && cur.second? = some c then readQuoted double fuel (c :: text) (cur.skip 2)
          else some (text.reverse, cur.skip 1)
        else if double && c = '\\' then
          if cur.second?.any isBreak then do
            let (_, cur) := (cur.skip 1).takeBreak
            let (gap, cur) ← readGap 0 (cur.rest.length + 1) { broken := true } cur
            readQuoted double fuel (gap.text.reverse ++ text) cur
          else do
            let (d, cur) ← readEscape (cur.skip 1)
            readQuoted double fuel (d :: text) cur
        else if isBlank c || isBreak c then do
          let (gap, cur) ← readGap 0 (cur.rest.length + 1) {} cur
          readQuoted double fuel (gap.text.reverse ++ text) cur
        else readQuoted double fuel (c :: text) (cur.skip 1)

/-! ### Plain scalars -/

/-- The rest of a word of a plain scalar; `word` is its beginning, from the end. Between brackets
a colon may not stand right before a bracket or comma. -/
def readWord (flow : Bool) (word : List Char) : List Char → Option (List Char)
  | [] => some word.reverse
  | c :: rest =>
    if isBlank c || isBreak c then some word.reverse
    else if flow && c == ':' && rest.head?.any (",?[]\x7b\x7d".toList.contains ·) then none
    else if c == ':' && endsWord rest.head? then some word.reverse
    else if flow && ",[]\x7b\x7d".toList.contains c then some word.reverse
    else readWord flow (c :: word) rest

/-- Reads a plain scalar on, after `text`, which is given from its end, and a gap. New lines have
to be indented up to a column unless the scalar is between brackets. Gives the gap that is left
over after the scalar, too. -/
def readPlain (flow : Bool) (indent : Nat) :
    Nat → List Char → Gap → Cursor → Option (List Char × Gap × Cursor)
  | 0, _, _, _ => none
  | fuel + 1, text, gap, cur =>
    if cur.atDocumentMark || cur.next? = some '#' then some (text.reverse, gap, cur)
    else do
      let word ← readWord flow [] cur.rest
      if word.isEmpty then some (text.reverse, gap, cur)
      else
        let text := word.reverse ++ gap.text.reverse ++ text
        let (gap, cur) ← readGap indent (cur.rest.length + 1) {} (cur.skip word.length)
        if gap.spaces.isEmpty && !gap.broken then some (text.reverse, gap, cur)
        else if !flow && cur.column < indent then some (text.reverse, gap, cur)
        else readPlain flow indent fuel text gap cur

/-! ### Blocks of lines -/

/-- What becomes of the line ends at the end of a block. -/
inductive Chomping where
  | strip
  | clip
  | keep
deriving Repr, DecidableEq

/-- The sign and the digit after the mark of a block, in any order. The digit is an indentation
and not zero. -/
def readBlockHeader (cur : Cursor) : Option (Chomping × Option Nat × Cursor) :=
  let sign? : Cursor → Option Chomping := fun cur =>
    match cur.next? with
    | some '+' => some .keep
    | some '-' => some .strip
    | _ => none
  let digit? : Cursor → Option Nat := fun cur =>
    (cur.next?.filter Char.isDigit).map fun d => d.toNat - '0'.toNat
  match sign? cur with
  | some chomping =>
    match digit? (cur.skip 1) with
    | some 0 => none
    | some n => some (chomping, some n, cur.skip 2)
    | none => some (chomping, none, cur.skip 1)
  | none =>
    match digit? cur with
    | some 0 => none
    | some n =>
      match sign? (cur.skip 1) with
      | some chomping => some (chomping, some n, cur.skip 2)
      | none => some (.clip, some n, cur.skip 1)
    | none => some (.clip, none, cur)

/-- Passes empty lines and the indentation of the next line. Without an indentation all spaces are
passed. Gives the widest line passed and the line ends, from the last. -/
def readIndentation (indent : Option Nat) (widest : Nat) (breaks : List Char) :
    Nat → Cursor → Option (Nat × List Char × Cursor)
  | 0, _ => none
  | fuel + 1, cur =>
    let spaces := (cur.rest.takeWhile (· == ' ')).length
    let cur := cur.skip (match indent with
      | some n => min spaces (n - cur.column)
      | none => spaces)
    let widest := max widest cur.column
    match cur.next? with
    | none => some (widest, breaks, cur)
    | some c =>
      if c = '\t' ∧ indent.all (cur.column < ·) then none
      else if isBreak c then
        let (lineEnd, cur) := cur.takeBreak
        readIndentation indent widest (lineEnd ++ breaks) fuel cur
      else some (widest, breaks, cur)

/-- A block of lines that is being read; texts are given from their ends. -/
structure Block where
  text : List Char := []
  /-- The end of the latest line. -/
  lineEnd : List Char := []
  /-- The ends of empty lines after it. -/
  more : List Char := []
  /-- Whether the latest line begins with a blank, so that it is not folded. -/
  blank : Bool := false

/-- Reads the lines of a block. -/
def readLines (literal : Bool) (indent : Nat) : Nat → Block → Cursor → Option (Block × Cursor)
  | 0, _, _ => none
  | fuel + 1, b, cur =>
    if cur.column ≠ indent ∨ cur.rest.isEmpty then some (b, cur)
    else do
      let blank := cur.next?.any isBlank
      let joint :=
        if !literal && b.lineEnd = ['\n'] && !b.blank && !blank then
          if b.more.isEmpty then [' '] else []
        else b.lineEnd
      let (line, cur) := cur.span fun c => !isBreak c
      let (lineEnd, cur) := cur.takeBreak
      let (_, more, cur) ← readIndentation (some indent) 0 [] (cur.rest.length + 1) cur
      let text := line.reverse ++ b.more ++ joint ++ b.text
      readLines literal indent fuel { text, lineEnd, more, blank } cur

/-- A block of lines, after its mark. It is indented by the first line that is not empty if the
header does not say by how much, and more than `parent`, the column of what it belongs to. -/
def readBlock (literal : Bool) (parent : Option Nat) (cur : Cursor) :
    Option (List Char × Cursor) := do
  let (chomping, indent, cur) ← readBlockHeader cur
  let cur := (cur.span isBlank).2.skipComment
  if !endsLine cur.next? then none
  else
    let (_, cur) := cur.takeBreak
    let indent := indent.map (parent.getD 0 + ·)
    let (widest, more, cur) ← readIndentation indent 0 [] (cur.rest.length + 1) cur
    let indent := indent.getD (max widest (max 1 (parent.elim 0 (· + 1))))
    let (b, cur) ← readLines literal indent (cur.rest.length + 1) { more } cur
    let tail := match chomping with
      | .strip => []
      | .clip => b.lineEnd
      | .keep => b.more ++ b.lineEnd
    some ((tail ++ b.text).reverse, cur)

end Steering.Yaml
