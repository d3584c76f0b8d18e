/-!
# Places in a YAML text

A cursor is a place in a text, known by what follows it, its line and its column. The end of a
line has several spellings, which are read alike but for the two that Unicode keeps for
separators.
-/

namespace Steering.Yaml

/-- Characters that end a line. -/
def isBreak (c : Char) : Bool :=
  c == '\n' || c == '\r' || c == '\u0085' || c == '\u2028' || c == '\u2029'

def isBlank (c : Char) : Bool := c == ' ' || c == '\t'

/-- Characters of names. -/
def isNameChar (c : Char) : Bool := c.isAlphanum || c == '_' || c == '-'

/-- Characters that may stand in a text at all. -/
def isAllowed (c : Char) : Bool :=
  let n := c.toNat
  c == '\t' || c == '\n' || c == '\r' || (0x20 ≤ n && n ≤ 0x7E) || n == 0x85 ||
    (0xA0 ≤ n && n ≤ 0xFFFD) || 0x10000 ≤ n

/-- Holds at the end of a line or of the text. -/
def endsLine (c? : Option Char) : Bool := c?.all isBreak

/-- Holds where no word goes on. -/
def endsWord (c? : Option Char) : Bool := c?.all fun c => isBlank c || isBreak c

structure Cursor where
  rest : List Char
  line : Nat := 0
  column : Nat := 0
  /-- The number of characters before the cursor. -/
  index : Nat := 0

namespace Cursor

/-- The next character. -/
def next? (cur : Cursor) : Option Char := cur.rest.head?

/-- The character after the next one. -/
def second? (cur : Cursor) : Option Char := cur.rest[1]?

/-- Passes characters of the same line. -/
def skip (cur : Cursor) (count : Nat) : Cursor :=
  { cur with
    rest := cur.rest.drop count
    column := cur.column + count
    index := cur.index + count }

/-- Passes the longest run of characters that fit, which must not end lines. -/
def span (cur : Cursor) (fits : Char → Bool) : List Char × Cursor :=
  let run := cur.rest.takeWhile fits
  (run, cur.skip run.length)

/-- Passes the end of a line, and gives the character that it stands for. -/
def takeBreak (cur : Cursor) : List Char × Cursor :=
  let passed := fun (count : Nat) =>
    { rest := cur.rest.drop count, line := cur.line + 1, column := 0, index := cur.index + count }
  match cur.rest with
  | '\r' :: '\n' :: _ => (['\n'], passed 2)
  | c :: _ =>
    if isBreak c then ([if c == '\r' || c == '\u0085' then '\n' else c], passed 1) else ([], cur)
  | [] => ([], cur)

/-- Whether a line begins here with three of the same mark that make a word. -/
def hasMark (cur : Cursor) (mark : Char) : Bool :=
  cur.column == 0 && [mark, mark, mark].isPrefixOf cur.rest && endsWord cur.rest[3]?

/-- Whether a mark for the start or end of a document is here. -/
def atDocumentMark (cur : Cursor) : Bool := cur.hasMark '-' || cur.hasMark '.'

/-- Passes a comment, if one begins here. -/
def skipComment (cur : Cursor) : Cursor :=
  if cur.next? = some '#' then (cur.span fun c => !isBreak c).2 else cur

end Cursor

end Steering.Yaml
