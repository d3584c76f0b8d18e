import Steering.Text.Numeral
import Steering.Url.Domain

/-!
# Hosts

A host is a number, four bytes or eight words, or else a domain name. A name whose last part
looks like a number is a number in four bytes and has to be well written as such.
-/

namespace Steering.Url

inductive Host where
  | domain (name : String)
  | fourBytes (address : Nat)
  | eightWords (words : List Nat)
deriving Repr, DecidableEq

namespace Host

/-! ### Four bytes -/

/-- A part of an address: a number with base 16 after `0x`, with base 8 after `0`, else with
base 10. -/
def addressPart? : List Char → Option Nat
  | [] => none
  | '0' :: 'x' :: digits | '0' :: 'X' :: digits => Text.digitsValue? 16 digits
  | '0' :: d :: digits => Text.digitsValue? 8 (d :: digits)
  | digits => Text.digitsValue? 10 digits

/-- The parts of a name, without the last one if it is empty. -/
def nameParts (name : List Char) : List (List Char) :=
  let parts := Text.pieces '.' name
  if parts.getLast? = some [] then parts.dropLast else parts

/-- Whether a name has to be read as a number. -/
def endsInNumber (name : List Char) : Bool :=
  match (nameParts name).getLast? with
  | none => false
  | some last => (!last.isEmpty && last.all Char.isDigit) || (addressPart? last).isSome

/-- An address of four bytes. All parts are single bytes but the last, which has the bytes that
are left. -/
def fourBytes? (name : List Char) : Option Host := do
  let parts ← (nameParts name).mapM addressPart?
  let bytes := parts.dropLast
  let last ← parts.getLast?
  if parts.length ≤ 4 ∧ bytes.all (· < 256) ∧ last < Nat.pow 256 (4 - bytes.length) then
    let high := bytes.foldl (fun n byte => n * 256 + byte) 0
    some (.fourBytes (high * Nat.pow 256 (4 - bytes.length) + last))
  else none

/-! ### Eight words -/

/-- A word: one to four hexadecimal digits. -/
def word? (cs : List Char) : Option Nat :=
  if cs.isEmpty ∨ 4 < cs.length then none else Text.digitsValue? 16 cs

/-- A byte in decimal, without zeros in front. -/
def byte? (cs : List Char) : Option Nat :=
  if cs.isEmpty || !cs.all Char.isDigit || (cs.head? == some '0' && cs != ['0']) then none
  else Text.numeral? 10 256 cs

/-- The last two words as four bytes with full stops between them. -/
def dottedWords? (cs : List Char) : Option (List Nat) := do
  match ← (Text.pieces '.' cs).mapM byte? with
  | [a, b, c, d] => some [a * 256 + b, c * 256 + d]
  | _ => none

/-- Words with colons between them. The last may be two in the form of four bytes, if `last`
allows that. -/
def words? (last : Bool) (cs : List Char) : Option (List Nat) := do
  let parts := Text.pieces ':' cs
  let final := parts.getLastD []
  let front ← parts.dropLast.mapM word?
  if last && final.contains '.' then some (front ++ (← dottedWords? final))
  else some (front ++ [← word? final])

/-- The text before and after the first two colons in a row. -/
def cutAtGap : List Char → Option (List Char × List Char)
  | ':' :: ':' :: rest => some ([], rest)
  | c :: rest => (cutAtGap rest).map fun (before, after) => (c :: before, after)
  | [] => none

/-- An address of eight words. Two colons in a row stand for at least one word of zero. -/
def eightWords? (cs : List Char) : Option Host := do
  let some? := fun (last : Bool) (cs : List Char) => if cs.isEmpty then some [] else words? last cs
  match cutAtGap cs with
  | none =>
    let words ← words? true cs
    if words.length = 8 then some (.eightWords words) else none
  | some (before, after) =>
    let left ← some? false before
    let right ← some? true after
    let count := left.length + right.length
    if count < 8 then some (.eightWords (left ++ List.replicate (8 - count) 0 ++ right)) else none

/-! ### Any host -/

/-- The bytes of a text in which a percent sign and two hexadecimal digits stand for a byte. -/
def percentDecode : List Char → List UInt8
  | '%' :: a :: b :: rest =>
    match Text.CodeSet.hexDigit? a, Text.CodeSet.hexDigit? b with
    | some high, some low => UInt8.ofNat (high * 16 + low) :: percentDecode rest
    | _, _ => '%'.toNat.toUInt8 :: percentDecode (a :: b :: rest)
  | c :: rest => (String.singleton c).toUTF8.toList ++ percentDecode rest
  | [] => []

/-- Reads a host. An address of eight words stands in brackets. -/
def ofText? (cs : List Char) : Option Host :=
  match cs with
  | '[' :: rest =>
    if rest.getLast? = some ']' then eightWords? rest.dropLast else none
  | _ => do
    let text ← String.fromUTF8? ⟨(percentDecode cs).toArray⟩
    let name ← domainText? text.toList
    if name.isEmpty then none
    else if endsInNumber name then fourBytes? name
    else some (.domain (String.ofList name))

end Host

end Steering.Url
