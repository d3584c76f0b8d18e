/-!
# Command lines

A line is split into words at spaces. A double quote opens and closes a quoted section in which
spaces are ordinary characters; closing it always ends a word, so two quotes in a row are an
empty word, and opening one ends the word before it. Quotes never belong to a word. A section
that is never closed runs to the end of the line.

Besides the words this module has the two functions that go with them: `Line.ofWords` writes
words as a line, and `Line.typedStart` finds where the word under the cursor begins.
-/

namespace Steering.Line

/-- The words of a line, and whether a new word is about to begin: the line ends with a space
that is outside any quoted section. -/
structure Words where
  words : List String
  atNewWord : Bool
deriving Repr, DecidableEq

/-- The word made of the characters read so far, latest first; no characters are no word. -/
def pendingWord : List Char → List String
  | [] => []
  | cs => [String.ofList cs.reverse]

/-- The words of the rest of a line, where `quoted` says that a quoted section is open and `begun`
holds the characters of the current word, latest first. -/
def wordsFrom (quoted : Bool) (begun : List Char) : List Char → List String
  | [] => pendingWord begun
  | c :: rest =>
    if c = '"' then
      if quoted then String.ofList begun.reverse :: wordsFrom false [] rest
      else pendingWord begun ++ wordsFrom true [] rest
    else if c = ' ' ∧ quoted = false then pendingWord begun ++ wordsFrom false [] rest
    else wordsFrom quoted (c :: begun) rest

/-- Whether a quoted section is open after the given characters. -/
def quoteOpen (cs : List Char) : Bool := cs.count '"' % 2 == 1

def split (line : String) : Words :=
  let cs := line.toList
  { words := wordsFrom false [] cs
    atNewWord := !quoteOpen cs && cs.getLast? == some ' ' }

/-- A word as it is written on a line: in quotes if it is empty or has a space. -/
def writeWord (word : String) : String :=
  if word.isEmpty || word.toList.contains ' ' then "\"" ++ word ++ "\"" else word

/-- The line that has the given words, if none of them has a quote. -/
def ofWords (words : List String) : String := String.intercalate " " (words.map writeWord)

/-! ### The word under the cursor -/

/-- What the search for the word under the cursor knows after some characters. -/
structure TypedScan where
  /-- Number of characters read. -/
  index : Nat := 0
  /-- Index where the current word starts. -/
  start : Nat := 0
  quoted : Bool := false
  /-- A quoted section has been closed and no word begun since. -/
  closed : Bool := false
deriving Repr, DecidableEq

/-- Spaces outside quotes and opening quotes start a new word, and so does the first other
character after a closing quote. -/
def TypedScan.step (s : TypedScan) (c : Char) : TypedScan :=
  let next := { s with index := s.index + 1 }
  if c = '"' then
    if s.quoted then { next with quoted := false, closed := true }
    else { next with quoted := true, start := s.index }
  else if c = ' ' ∧ s.quoted = false then { next with start := s.index + 1, closed := false }
  else if s.closed then { next with start := s.index, closed := false }
  else next

/-- Index of the character at which the word under the cursor starts. -/
def typedIndex (cs : List Char) : Nat := (cs.foldl TypedScan.step {}).start

/-- The word under the cursor, as typed. -/
def typed (line : String) : String :=
  let cs := line.toList
  String.ofList (cs.drop (typedIndex cs))

/-- The number of UTF-8 bytes before the word under the cursor. -/
def typedStart (line : String) : Nat :=
  let cs := line.toList
  (String.ofList (cs.take (typedIndex cs))).utf8ByteSize

/-- The characters that fit into the first `bytes` bytes. -/
def takeBytes : Nat → List Char → List Char
  | _, [] => []
  | bytes, c :: rest => if c.utf8Size ≤ bytes then c :: takeBytes (bytes - c.utf8Size) rest else []

/-- The part of the line before the cursor, whose position is given in UTF-8 bytes. -/
def beforeCursor (line : String) (bytes : Nat) : String :=
  String.ofList (takeBytes bytes line.toList)

end Steering.Line
