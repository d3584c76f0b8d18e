/-!
# Punycode

Punycode writes text of any characters in ASCII letters, digits and hyphens. First come the ASCII
characters, then a hyphen, then for each other character, in the order of code points, how far it
is from the one before, counted over code points and places together. The counts are numbers with
digits of 36 values, whose last digit is known by being below a threshold.
-/

namespace Steering.Url.Punycode

def digit? (c : Char) : Option Nat :=
  if 'a' ≤ c ∧ c ≤ 'z' then some (c.toNat - 'a'.toNat)
  else if 'A' ≤ c ∧ c ≤ 'Z' then some (c.toNat - 'A'.toNat)
  else if '0' ≤ c ∧ c ≤ '9' then some (c.toNat - '0'.toNat + 26)
  else none

/-- The threshold for a digit, by its place from 36 on in steps of 36. -/
def threshold (place bias : Nat) : Nat :=
  if place ≤ bias then 1 else min (place - bias) 26

/-- Divides by 35 until the number is small, and counts 36 for each time. -/
def shrink (delta steps : Nat) : Nat × Nat :=
  if h : 455 < delta then shrink (delta / 35) (steps + 36) else (delta, steps)
termination_by delta
decreasing_by exact Nat.div_lt_self (by omega) (by omega)

/-- The bias for the next number, after one of size `delta` that placed the `count`-th
character. -/
def adapt (delta count : Nat) (first : Bool) : Nat :=
  let delta := if first then delta / 700 else delta / 2
  let (delta, steps) := shrink (delta + delta / count) 0
  steps + 36 * delta / (delta + 38)

/-- One number: the sum of its digits by their weights, added to `sum`, and the rest. -/
def readNumber (bias : Nat) (place weight sum : Nat) : List Char → Option (Nat × List Char)
  | [] => none
  | c :: rest => do
    let d ← digit? c
    let sum := sum + d * weight
    let t := threshold place bias
    if 0x100000000 ≤ sum then none
    else if d < t then some (sum, rest)
    else if 0x100000000 ≤ weight * (36 - t) then none
    else readNumber bias (place + 36) (weight * (36 - t)) sum rest

/-- A text that is being decoded: the code point and place that the last number stood for. -/
structure Decoding where
  text : List Char
  code : Nat := 128
  place : Nat := 0
  bias : Nat := 72
  first : Bool := true

/-- Puts in the character that a number stands for. -/
def Decoding.insert? (t : Decoding) (sum : Nat) : Option Decoding :=
  let count := t.text.length + 1
  let code := t.code + sum / count
  let place := sum % count
  if code.isValidChar then
    some {
      text := t.text.take place ++ Char.ofNat code :: t.text.drop place
      code
      place := place + 1
      bias := adapt (sum - t.place) count t.first
      first := false }
  else none

/-- Reads numbers to the end; each takes at least one character. -/
def decodeNumbers : Nat → Decoding → List Char → Option (List Char)
  | _, t, [] => some t.text
  | 0, _, _ => none
  | fuel + 1, t, cs => do
    let (sum, rest) ← readNumber t.bias 36 1 t.place cs
    decodeNumbers fuel (← t.insert? sum) rest

/-- The text that is written so. A hyphen in front of everything does not end ASCII characters,
of which there are none. -/
def decode? (cs : List Char) : Option (List Char) :=
  let ascii := ((cs.reverse.dropWhile (· != '-')).drop 1).reverse
  let numbers := if ascii.isEmpty then cs else cs.drop (ascii.length + 1)
  if cs.all fun c => c.toNat < 128 then
    decodeNumbers (numbers.length + 1) { text := ascii } numbers
  else none

end Steering.Url.Punycode
