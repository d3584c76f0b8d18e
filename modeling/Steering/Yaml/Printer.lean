import Steering.Yaml.Cursor
import Steering.Yaml.Plain
import Steering.Yaml.Token

/-!
# Writing YAML

Mappings and lists of mappings are written in blocks, a field a line. A text is written plain
where that means the same; else in single quotes, or in double quotes if it has characters that
need an escape. A text with line ends is written as a block of lines if that keeps all of it.
-/

namespace Steering.Yaml

/-- Characters that are written as they are. -/
def isPrintable (c : Char) : Bool :=
  let n := c.toNat
  c == '\n' || (0x20 ≤ n && n ≤ 0x7E) || (0xA0 ≤ n && n ≤ 0xFFFD && n != 0xFEFF) || 0x10000 ≤ n

/-- Whether a character is followed by another of the kind. -/
def hasPair (first second : Char → Bool) : List Char → Bool
  | a :: b :: rest => (first a && second b) || hasPair first second (b :: rest)
  | _ => false

/-- Whether a text begins with something that a plain scalar does not begin with. -/
def beginsWithIndicator (cs : List Char) : Bool :=
  match cs with
  | [] => false
  | c :: rest =>
    ['-', '-', '-'].isPrefixOf cs || ['.', '.', '.'].isPrefixOf cs ||
      "#,[]\x7b\x7d&*!|>'\"%@\x60".toList.contains c ||
      ((c == '?' || c == ':' || c == '-') && endsWord rest.head?)

/-- Whether a text has something within that would end a plain scalar. -/
def hasIndicator (cs : List Char) : Bool :=
  (1 < cs.length && cs.getLast? == some ':') ||
    hasPair (· == ':') (fun c => isBlank c || isBreak c) (cs.drop 1) ||
    hasPair (fun c => isBlank c || isBreak c) (· == '#') cs

/-- Whether there is a space or the end of a line at either end of a text. -/
def hasLooseEnd (cs : List Char) : Bool :=
  let isLoose := fun c => c == ' ' || isBreak c
  cs.head?.any isLoose || cs.getLast?.any isLoose

/-- Whether a text has to be written in double quotes if it is quoted. -/
def needsEscapes (cs : List Char) : Bool :=
  !cs.all isPrintable || hasPair (· == ' ') isBreak cs

/-- The style that a text is written in. -/
def styleOf (text : String) : ScalarStyle :=
  let cs := text.toList
  if cs.contains '\n' then
    if needsEscapes cs || cs.getLast? == some ' ' then .doubleQuoted else .literal
  else
    let plain := !isAmbiguous text && !beginsWithIndicator cs && !hasIndicator cs &&
      !hasLooseEnd cs && cs.all fun c => isPrintable c && !isBreak c
    if plain then .plain
    else if needsEscapes cs || hasPair isBreak (· == ' ') cs then .doubleQuoted
    else .singleQuoted

def spaces (count : Nat) : List Char := List.replicate count ' '

/-! ### The styles -/

/-- A number in hexadecimal with so many digits. -/
def hexDigits : Nat → Nat → List Char
  | 0, _ => []
  | count + 1, n => hexDigits count (n / 16) ++ [(Nat.digitChar (n % 16)).toUpper]

/-- A character within double quotes. -/
def escaped (c : Char) : List Char :=
  match c with
  | '\x00' => ['\\', '0']
  | '\x07' => ['\\', 'a']
  | '\x08' => ['\\', 'b']
  | '\t' => ['\\', 't']
  | '\n' => ['\\', 'n']
  | '\x0b' => ['\\', 'v']
  | '\x0c' => ['\\', 'f']
  | '\r' => ['\\', 'r']
  | '\x1b' => ['\\', 'e']
  | '"' => ['\\', '"']
  | '\\' => ['\\', '\\']
  | '\u0085' => ['\\', 'N']
  | '\u2028' => ['\\', 'L']
  | '\u2029' => ['\\', 'P']
  | _ =>
    if isPrintable c then [c]
    else if c.toNat < 256 then '\\' :: 'x' :: hexDigits 2 c.toNat
    else if c.toNat < 65536 then '\\' :: 'u' :: hexDigits 4 c.toNat
    else '\\' :: 'U' :: hexDigits 8 c.toNat

/-- A text over several lines, each with spaces in front of its first character. `started` says
whether a line has begun; at the end of the text one begins if `closed`. -/
def indented (indent : Nat) (closed : Bool) : Bool → List Char → List Char
  | started, [] => if closed && !started then spaces indent else []
  | started, c :: rest =>
    if isBreak c then c :: indented indent closed false rest
    else (if started then [] else spaces indent) ++ c :: indented indent closed true rest

/-- A text in single quotes, in which quotes are doubled. -/
def singleQuoted (indent : Nat) (cs : List Char) : List Char :=
  let doubled := cs.flatMap fun c => if c = '\'' then ['\'', '\''] else [c]
  '\'' :: indented indent true true doubled ++ ['\'']

/-- What the header of a block says about the ends of the text. -/
def blockHeader (cs : List Char) : List Char :=
  let hint := if cs.head?.any fun c => c == ' ' || isBreak c then ['2'] else []
  let chomp := match cs.reverse with
    | last :: before =>
      if !isBreak last then ['-']
      else if before.head?.all isBreak then ['+'] else []
    | [] => ['-']
  hint ++ chomp

/-- A text as a block of lines, which ends like its last line. -/
def literalBlock (indent : Nat) (cs : List Char) : List Char :=
  '|' :: blockHeader cs ++ '\n' :: indented indent false false cs

/-- A text, where lines go on with the given indentation. -/
def writeText (indent : Nat) (text : String) : List Char :=
  match styleOf text with
  | .plain => text.toList
  | .literal | .folded => literalBlock indent text.toList
  | .doubleQuoted => '"' :: text.toList.flatMap escaped ++ ['"']
  | .singleQuoted => singleQuoted indent text.toList

/-! ### Collections -/

/-- What a field holds. -/
inductive FieldValue where
  | text (text : String)
  | number (n : Nat)
deriving Repr, DecidableEq

/-- A field of a mapping whose fields are indented. A block ends the line by itself, if its text
does. -/
def writeField (indent : Nat) (field : String × FieldValue) : List Char :=
  let value := match field.2 with
    | .text text => writeText (indent + 2) text
    | .number n => Nat.toDigits 10 n
  let ended : Bool := match field.2 with
    | .text text => styleOf text == .literal && text.toList.getLast?.any isBreak
    | .number _ => false
  writeText indent field.1 ++ ':' :: ' ' :: value ++ (if ended then [] else ['\n'])

/-- A mapping, with its first field begun at the cursor. -/
def writeMapping (indent : Nat) (fields : List (String × FieldValue)) : List Char :=
  match fields with
  | [] => "\x7b\x7d\n".toList
  | first :: rest =>
    writeField indent first ++ rest.flatMap fun field => spaces indent ++ writeField indent field

/-- A list of mappings. -/
def writeMappings (mappings : List (List (String × FieldValue))) : List Char :=
  if mappings.isEmpty then "[]\n".toList
  else mappings.flatMap fun fields => '-' :: ' ' :: writeMapping 2 fields

end Steering.Yaml
