import Steering.Yaml.Scalar
import Steering.Yaml.Tag

/-!
# Reading tokens

A key need not be announced: whether a scalar or a bracket begins a key is known only once a colon
follows. So the place where a key may have begun is remembered, and the token for the key is put
in there when the colon comes. A key has to be on one line and less than 1024 characters long.
-/

namespace Steering.Yaml

/-- A place where a key may have begun. -/
structure PossibleKey where
  /-- Whether nothing but a key can be here. -/
  required : Bool
  /-- The number of tokens before it. -/
  token : Nat
  start : Cursor

/-- A text that is being taken apart. -/
structure Lexing where
  cursor : Cursor
  tokens : Array Token := #[]
  /-- The columns of the block collections around the cursor, innermost first. -/
  indents : List Nat := []
  keyAllowed : Bool := true
  possibleKey : Option PossibleKey := none
  /-- The possible keys outside each pair of brackets around the cursor. -/
  outerKeys : List (Option PossibleKey) := []

namespace Lexing

/-- Whether the cursor is between brackets, where indentation does not count. -/
def inFlow (s : Lexing) : Bool := !s.outerKeys.isEmpty

def push (s : Lexing) (token : Token) : Lexing := { s with tokens := s.tokens.push token }

/-- Puts a token in at an earlier place. -/
def insert (s : Lexing) (place : Nat) (token : Token) : Lexing :=
  { s with tokens := s.tokens.insertIdxIfInBounds place token }

def skip (s : Lexing) (count : Nat) : Lexing := { s with cursor := s.cursor.skip count }

/-- Adds a token that is written with so many characters. -/
def pushOver (s : Lexing) (count : Nat) (token : Token) : Lexing := (s.push token).skip count

/-! ### Indentation -/

/-- Ends the block collections whose columns `ends` holds of. -/
def unrollWhile (s : Lexing) (ends : Nat → Bool) : Lexing :=
  if s.inFlow then s
  else
    let ended := s.indents.takeWhile ends
    { s with
      tokens := s.tokens ++ Array.replicate ended.length Token.blockEnd
      indents := s.indents.dropWhile ends }

/-- Ends the block collections further right than a column. -/
def unroll (s : Lexing) (column : Nat) : Lexing := s.unrollWhile (column < ·)

/-- Ends all block collections. -/
def unrollAll (s : Lexing) : Lexing := s.unrollWhile fun _ => true

/-- Starts a block collection if the column is further right than those around it. -/
def roll (s : Lexing) (column place : Nat) (token : Token) : Lexing :=
  if s.inFlow || !s.indents.head?.all (· < column) then s
  else { s.insert place token with indents := column :: s.indents }

/-! ### Keys -/

/-- Gives up the possible key. -/
def dropKey (s : Lexing) : Option Lexing :=
  if s.possibleKey.any (·.required) then none else some { s with possibleKey := none }

/-- Notes that a key may begin at the cursor. -/
def saveKey (s : Lexing) : Option Lexing :=
  if s.keyAllowed then do
    let s ← s.dropKey
    let required := !s.inFlow && s.indents.head? == some s.cursor.column
    some { s with possibleKey := some { required, token := s.tokens.size, start := s.cursor } }
  else some s

/-- Whether a key that began there can no longer end at the cursor. -/
def isStale (s : Lexing) (k : PossibleKey) : Bool :=
  k.start.line < s.cursor.line || k.start.index + 1024 < s.cursor.index

/-- A colon that is not after a simple key. -/
def readBareValue (s : Lexing) : Option Lexing :=
  let s := { s with possibleKey := none }
  if s.inFlow then some ({ s with keyAllowed := false }.pushOver 1 .value)
  else if s.keyAllowed then
    some (({ s with keyAllowed := true }.roll s.cursor.column s.tokens.size
      .blockMappingStart).pushOver 1 .value)
  else none

/-- A colon that makes a value. -/
def readValue (s : Lexing) : Option Lexing :=
  match s.possibleKey with
  | none => s.readBareValue
  | some k =>
    if s.isStale k then if k.required then none else s.readBareValue
    else
      let s := (s.insert k.token .key).roll k.start.column k.token .blockMappingStart
      some ({ s with possibleKey := none, keyAllowed := false }.pushOver 1 .value)

/-! ### Other indicators -/

/-- A mark or a directive, before which everything ends. -/
def endAll (s : Lexing) : Option Lexing := do
  let s ← s.unrollAll.dropKey
  some { s with keyAllowed := false }

/-- A hyphen or question mark that begins an entry of a block collection. -/
def readEntry (s : Lexing) (collection token : Token) : Option Lexing :=
  if !s.inFlow && !s.keyAllowed then none
  else (s.roll s.cursor.column s.tokens.size collection).dropKey.map (·.pushOver 1 token)

def openBracket (s : Lexing) (token : Token) : Option Lexing := do
  let s ← s.saveKey
  some ({ s with
    outerKeys := s.possibleKey :: s.outerKeys
    possibleKey := none
    keyAllowed := true }.pushOver 1 token)

def closeBracket (s : Lexing) (token : Token) : Option Lexing := do
  let s ← s.dropKey
  let s := match s.outerKeys with
    | [] => s
    | key :: outer => { s with possibleKey := key, outerKeys := outer }
  some ({ s with keyAllowed := false }.pushOver 1 token)

/-- The name of an anchor or alias, after its mark. -/
def readName (s : Lexing) : Option (String × Cursor) :=
  let (name, cur) := (s.cursor.skip 1).span isNameChar
  if name.isEmpty then none
  else if endsWord cur.next? || cur.next?.any ("?:,]\x7d%@\x60".toList.contains ·) then
    some (String.ofList name, cur)
  else none

/-- Notes a possible key, and then adds a token that ends at a cursor. -/
def pushNode (s : Lexing) (read : Option (Token × Cursor)) : Option Lexing := do
  let s ← s.saveKey
  let (token, cursor) ← read
  some ({ s with keyAllowed := false, cursor }.push token)

def readQuotedScalar (s : Lexing) (double : Bool) : Option (Token × Cursor) := do
  let (text, cur) ← readQuoted double (s.cursor.rest.length + 1) [] (s.cursor.skip 1)
  some (.scalar (String.ofList text) (if double then .doubleQuoted else .singleQuoted), cur)

/-- The first column that belongs to the innermost block collection. -/
def indent (s : Lexing) : Nat := s.indents.head?.elim 0 (· + 1)

/-- A plain scalar. If it goes to the end of a line, a key may begin after it. -/
def readPlainScalar (s : Lexing) : Option Lexing := do
  let s ← s.saveKey
  let (text, gap, cursor) ← readPlain s.inFlow s.indent (s.cursor.rest.length + 1) [] {} s.cursor
  some ({ s with keyAllowed := gap.broken, cursor }.push (.scalar (String.ofList text) .plain))

def readBlockScalar (s : Lexing) (literal : Bool) : Option Lexing := do
  let s ← s.dropKey
  let (text, cursor) ← readBlock literal s.indents.head? (s.cursor.skip 1)
  let style := if literal then ScalarStyle.literal else .folded
  some ({ s with keyAllowed := true, cursor }.push (.scalar (String.ofList text) style))

/-- Whether a plain scalar can begin with a character, before another. -/
def beginsPlain (flow : Bool) (c : Char) (next : Option Char) : Bool :=
  (!isBlank c && !"-?:,[]\x7b\x7d#&*!|>'\"%@\x60".toList.contains c) ||
    (c == '-' && !next.any isBlank) || (!flow && (c == '?' || c == ':') && !endsWord next)

/-- Reads the token that begins with a character at the cursor. -/
def readToken (s : Lexing) (c : Char) : Option Lexing :=
  let next := s.cursor.second?
  let indicates := endsWord next
  if s.cursor.column = 0 ∧ c = '%' then do
    let s ← s.endAll
    let (token, cursor) ← readDirective (s.cursor.skip 1)
    some ({ s with cursor }.push token)
  else if s.cursor.hasMark '-' then s.endAll.map (·.pushOver 3 .documentStart)
  else if s.cursor.hasMark '.' then s.endAll.map (·.pushOver 3 .documentEnd)
  else
    match c with
    | '[' => s.openBracket .flowSequenceStart
    | '\x7b' => s.openBracket .flowMappingStart
    | ']' => s.closeBracket .flowSequenceEnd
    | '\x7d' => s.closeBracket .flowMappingEnd
    | ',' => s.dropKey.map fun s => { s with keyAllowed := true }.pushOver 1 .flowEntry
    | '*' => s.pushNode (s.readName.map fun (name, cur) => (.alias name, cur))
    | '&' => s.pushNode (s.readName.map fun (name, cur) => (.anchor name, cur))
    | '!' => s.pushNode (readTag s.inFlow s.cursor)
    | '\'' => s.pushNode (s.readQuotedScalar false)
    | '"' => s.pushNode (s.readQuotedScalar true)
    | _ =>
      if c = '-' ∧ indicates then
        (s.readEntry .blockSequenceStart .blockEntry).map ({ · with keyAllowed := true })
      else if c = '?' ∧ (s.inFlow ∨ indicates) then
        (s.readEntry .blockMappingStart .key).map fun s => { s with keyAllowed := !s.inFlow }
      else if c = ':' ∧ (s.inFlow ∨ indicates) then s.readValue
      else if c = '|' ∧ !s.inFlow then s.readBlockScalar true
      else if c = '>' ∧ !s.inFlow then s.readBlockScalar false
      else if beginsPlain s.inFlow c next then s.readPlainScalar
      else none

/-- Passes blanks, comments and line ends. Tabs count as blanks only where no key may begin. A
byte order mark may begin a line, of which it then is the first column. -/
def toNextToken : Nat → Lexing → Lexing
  | 0, s => s
  | fuel + 1, s =>
    let cur := s.cursor
    let cur := if cur.column = 0 ∧ cur.next? = some '\ufeff' then cur.skip 1 else cur
    let tabs := s.inFlow || !s.keyAllowed
    let cur := (cur.span fun c => c == ' ' || (tabs && c == '\t')).2.skipComment
    if cur.next?.any isBreak then
      toNextToken fuel
        { s with cursor := cur.takeBreak.2, keyAllowed := s.keyAllowed || !s.inFlow }
    else { s with cursor := cur }

/-- Reads tokens to the end of the text. Each takes at least one character. -/
def readAll : Nat → Lexing → Option Lexing
  | 0, _ => none
  | fuel + 1, s =>
    let s := s.toNextToken (s.cursor.rest.length + 1)
    let s := s.unroll s.cursor.column
    match s.cursor.next? with
    | none => s.unrollAll.dropKey
    | some c => do readAll fuel (← s.readToken c)

end Lexing

/-- The tokens of a text. -/
def tokens? (text : String) : Option (List Token) :=
  let cs := text.toList
  if cs.all isAllowed then
    (Lexing.readAll (cs.length + 1) { cursor := { rest := cs } }).map (·.tokens.toList)
  else none

end Steering.Yaml
