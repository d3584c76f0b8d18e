import Steering.Json.Basic
import Steering.Text.CodeSet

/-!
# JSON tokens

The tokens of a JSON text: punctuation, and scalars with their values. The scan goes through the
text once, character by character.
-/

namespace Steering.Json

inductive Token where
  | openArray
  | closeArray
  | openObject
  | closeObject
  | comma
  | colon
  /-- A string; `none` if it names half of a surrogate pair. -/
  | string (s : Option String)
  /-- A number, truth value or null. -/
  | scalar (value : Json)

/-- The digits at the front of a text, and what follows them. -/
def spanDigits (cs : List Char) : List Char × List Char := cs.span Char.isDigit

/-- Holds of an exponent, and of no text. -/
def isExponent : List Char → Bool
  | [] => true
  | e :: rest =>
    (e == 'e' || e == 'E') &&
      let digits := match rest with
        | '+' :: ds | '-' :: ds => ds
        | ds => ds
      !digits.isEmpty && digits.all Char.isDigit

/-- Holds of a fraction or an exponent or both, and of no text. -/
def isFraction : List Char → Bool
  | '.' :: rest =>
    let (digits, more) := spanDigits rest
    !digits.isEmpty && isExponent more
  | cs => isExponent cs

/-- Digits without a superfluous zero in front. -/
def isWhole (digits : List Char) : Bool :=
  match digits with
  | [] => false
  | ['0'] => true
  | d :: _ => d != '0'

/-- The value of decimal digits. -/
def digitsValue (digits : List Char) : Nat :=
  digits.foldl (fun n d => n * 10 + (d.toNat - '0'.toNat)) 0

def number? (cs : List Char) : Option Json :=
  match cs with
  | '-' :: rest =>
    let (digits, more) := spanDigits rest
    if isWhole digits && isFraction more then some (.number (String.ofList cs)) else none
  | _ =>
    let (digits, more) := spanDigits cs
    if isWhole digits && isFraction more then
      some (if more.isEmpty then .natural (digitsValue digits) else .number (String.ofList cs))
    else none

/-- The scalar that a run of letters, digits and signs stands for. -/
def scalar? (cs : List Char) : Option Json :=
  if cs = ['n', 'u', 'l', 'l'] then some .null
  else if cs = ['t', 'r', 'u', 'e'] then some (.bool true)
  else if cs = ['f', 'a', 'l', 's', 'e'] then some (.bool false)
  else number? cs

/-- Characters of which scalars other than strings are made. -/
def isScalarChar (c : Char) : Bool :=
  c.isAlphanum || c == '+' || c == '-' || c == '.'

def isSpace (c : Char) : Bool := c == ' ' || c == '\n' || c == '\t' || c == '\r'

def punctuation? : Char → Option Token
  | '[' => some .openArray
  | ']' => some .closeArray
  | '\x7b' => some .openObject
  | '\x7d' => some .closeObject
  | ',' => some .comma
  | ':' => some .colon
  | _ => none

/-- Characters that stand for another one after a backslash. -/
def unescape? : Char → Option Char
  | '"' => some '"'
  | '\\' => some '\\'
  | '/' => some '/'
  | 'b' => some '\x08'
  | 'f' => some '\x0c'
  | 'n' => some '\n'
  | 'r' => some '\r'
  | 't' => some '\t'
  | _ => none

def hexQuad? (a b c d : Char) : Option Nat := do
  let a ← Text.CodeSet.hexDigit? a
  let b ← Text.CodeSet.hexDigit? b
  let c ← Text.CodeSet.hexDigit? c
  let d ← Text.CodeSet.hexDigit? d
  some (((a * 16 + b) * 16 + c) * 16 + d)

/-- The part of a string that has been read. -/
structure StringScan where
  /-- Characters, latest first. -/
  content : List Char := []
  /-- The first half of a surrogate pair, if it came last. -/
  high : Option Nat := none
  /-- No half of a surrogate pair has been found alone. -/
  sound : Bool := true

namespace StringScan

def push (s : StringScan) (c : Char) : StringScan :=
  { content := c :: s.content, high := none, sound := s.sound && s.high.isNone }

/-- Adds the UTF-16 unit that an escape stands for. -/
def pushUnit (s : StringScan) (unit : Nat) : StringScan :=
  if 0xDC00 ≤ unit ∧ unit < 0xE000 then
    match s.high with
    | some high =>
      let c := Char.ofNat (0x10000 + (high - 0xD800) * 0x400 + (unit - 0xDC00))
      { s with content := c :: s.content, high := none }
    | none => { s with sound := false }
  else if 0xD800 ≤ unit ∧ unit < 0xDC00 then
    { s with high := some unit, sound := s.sound && s.high.isNone }
  else s.push (Char.ofNat unit)

def finish (s : StringScan) : Option String :=
  if s.sound && s.high.isNone then some (String.ofList s.content.reverse) else none

end StringScan

/-- Where a scan of a text stands. -/
inductive Scan where
  | outside
  /-- Within a scalar that is no string; its characters, latest first. -/
  | scalar (read : List Char)
  | string (read : StringScan)

/-- The token of a scalar that has ended. -/
def endScalar (read : List Char) (tokens : List Token) : Option (List Token) :=
  (scalar? read.reverse).map fun value => .scalar value :: tokens

/-- The tokens of the rest of a text. -/
def scan : Scan → List Char → Option (List Token)
  | .outside, [] => some []
  | .scalar read, [] => endScalar read []
  | .string _, [] => none
  | .string s, '"' :: rest => (scan .outside rest).map (.string s.finish :: ·)
  | .string s, '\\' :: 'u' :: a :: b :: c :: d :: rest =>
    match hexQuad? a b c d with
    | some unit => scan (.string (s.pushUnit unit)) rest
    | none => none
  | .string s, '\\' :: c :: rest =>
    match unescape? c with
    | some c => scan (.string (s.push c)) rest
    | none => none
  | .string s, c :: rest =>
    if c = '\\' ∨ c.toNat < 32 then none else scan (.string (s.push c)) rest
  | .outside, c :: rest =>
    if c = '"' then scan (.string {}) rest
    else if isSpace c then scan .outside rest
    else if isScalarChar c then scan (.scalar [c]) rest
    else
      match punctuation? c with
      | some token => (scan .outside rest).map (token :: ·)
      | none => none
  | .scalar read, c :: rest =>
    if isScalarChar c then scan (.scalar (c :: read)) rest
    else if c = '"' then (scan (.string {}) rest).bind (endScalar read)
    else if isSpace c then (scan .outside rest).bind (endScalar read)
    else
      match punctuation? c with
      | some token => (scan .outside rest).bind fun tokens => endScalar read (token :: tokens)
      | none => none

/-- The tokens of a JSON text, or nothing if some part of it is no token. -/
def tokens? (text : String) : Option (List Token) := scan .outside text.toList

end Steering.Json
