import Steering.Text.CodeSet
import Steering.Yaml.Cursor
import Steering.Yaml.Token

/-!
# Reading tags and directives

A tag says what a node is. It is written in full between angle brackets, or in short with a handle
that a directive may give a meaning.
-/

namespace Steering.Yaml

/-- A byte written as a percent sign and two hexadecimal digits. -/
def readPercentByte (cur : Cursor) : Option (UInt8 × Cursor) :=
  match cur.rest with
  | '%' :: a :: b :: _ => do
    let high ← Text.CodeSet.hexDigit? a
    let low ← Text.CodeSet.hexDigit? b
    some (UInt8.ofNat (high * 16 + low), cur.skip 3)
  | _ => none

/-- The bytes that go on with a character. -/
def readContinuation : Nat → Cursor → Option (List UInt8 × Cursor)
  | 0, cur => some ([], cur)
  | count + 1, cur => do
    let (byte, cur) ← readPercentByte cur
    if 0x80 ≤ byte ∧ byte < 0xC0 then
      let (bytes, cur) ← readContinuation count cur
      some (byte :: bytes, cur)
    else none

/-- A character written as bytes. -/
def readPercentChar (cur : Cursor) : Option (List Char × Cursor) := do
  let (byte, cur) ← readPercentByte cur
  let count ←
    if byte < 0x80 then some 0
    else if byte < 0xC0 then none
    else if byte < 0xE0 then some 1
    else if byte < 0xF0 then some 2
    else if byte < 0xF8 then some 3
    else none
  let (bytes, cur) ← readContinuation count cur
  some (((String.fromUTF8? ⟨(byte :: bytes).toArray⟩).getD "\ufffd").toList, cur)

/-- Characters of tags; brackets and commas only between angle brackets. -/
def isTagChar (verbatim : Bool) (c : Char) : Bool :=
  isNameChar c || ";/?:@&=+$.!~*'()%".toList.contains c || (verbatim && ",[]".toList.contains c)

/-- Reads the characters of a tag on; `read` is given from its end. -/
def readTagChars (verbatim : Bool) : Nat → List Char → Cursor → Option (List Char × Cursor)
  | 0, _, _ => none
  | fuel + 1, read, cur =>
    match cur.next? with
    | some c =>
      if c = '%' then do
        let (chars, cur) ← readPercentChar cur
        readTagChars verbatim fuel (chars.reverse ++ read) cur
      else if isTagChar verbatim c then readTagChars verbatim fuel (c :: read) (cur.skip 1)
      else some (read.reverse, cur)
    | none => some (read.reverse, cur)

/-- A handle: a name between exclamation marks, of which a tag may lack the second. -/
def readHandle (cur : Cursor) : Option (List Char × Cursor) :=
  if cur.next? = some '!' then
    let (name, cur) := (cur.skip 1).span isNameChar
    if cur.next? = some '!' then some ('!' :: name ++ ['!'], cur.skip 1)
    else some ('!' :: name, cur)
  else none

/-- A tag. What has no second exclamation mark has the handle `!`, and `!` alone is a tag in
full. -/
def readTag (flow : Bool) (cur : Cursor) : Option (Token × Cursor) := do
  let (token, cur) ←
    if cur.second? = some '<' then do
      let (name, cur) ← readTagChars true (cur.rest.length + 1) [] (cur.skip 2)
      if name.isEmpty ∨ cur.next? ≠ some '>' then none
      else some (Token.tag "" (String.ofList name), cur.skip 1)
    else do
      let (handle, cur) ← readHandle cur
      let (name, cur) ← readTagChars false (cur.rest.length + 1) [] cur
      if 1 < handle.length ∧ handle.getLast? = some '!' then
        if name.isEmpty then none
        else some (Token.tag (String.ofList handle) (String.ofList name), cur)
      else
        match handle.drop 1 ++ name with
        | [] => some (Token.tag "" "!", cur)
        | name => some (Token.tag "!" (String.ofList name), cur)
  if endsWord cur.next? || (flow && cur.next? = some ',') then some (token, cur) else none

/-! ### Directives -/

/-- A number of up to nine digits. -/
def readVersionNumber (cur : Cursor) : Option (Nat × Cursor) :=
  let (digits, cur) := cur.span Char.isDigit
  if digits.isEmpty ∨ 9 < digits.length then none
  else some (digits.foldl (fun n d => n * 10 + (d.toNat - '0'.toNat)) 0, cur)

def readVersion (cur : Cursor) : Option (Token × Cursor) := do
  let (major, cur) ← readVersionNumber (cur.span isBlank).2
  if cur.next? = some '.' then
    let (minor, cur) ← readVersionNumber (cur.skip 1)
    some (.version major minor, cur)
  else none

/-- A handle and what it stands for. -/
def readTagHandle (cur : Cursor) : Option (Token × Cursor) := do
  let (handle, cur) ← readHandle (cur.span isBlank).2
  if handle.getLast? ≠ some '!' then none
  else if !cur.next?.any isBlank then none
  else
    let cur := (cur.span isBlank).2
    let (start, cur) ← readTagChars true (cur.rest.length + 1) [] cur
    if start.isEmpty ∨ !endsWord cur.next? then none
    else some (.tagHandle (String.ofList handle) (String.ofList start), cur)

/-- A directive, after its percent sign, up to the end of the line. -/
def readDirective (cur : Cursor) : Option (Token × Cursor) := do
  let (name, cur) := cur.span isNameChar
  if !endsWord cur.next? then none
  else
    let (token, cur) ← match String.ofList name with
      | "YAML" => readVersion cur
      | "TAG" => readTagHandle cur
      | _ => none
    let cur := (cur.span isBlank).2.skipComment
    if endsLine cur.next? then some (token, cur.takeBreak.2) else none

end Steering.Yaml
