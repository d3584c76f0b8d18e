import Steering.Pattern.Shape

/-!
# Weight of patterns

A pattern may be refused for its weight, which bounds the time and space that matching takes. It
is the size of automata over the bytes of texts: one that goes forward, from the start of a match,
and one that goes backward, from its end. Neither may be too large.
-/

namespace Steering.Pattern

open Text (CodeSet)

/-! ### Characters as bytes -/

/-- A range for each byte of a character. -/
abbrev ByteRun := List (Nat × Nat)

/-- The runs that the numbers in a range are written in: a first byte, counted from `lead` on, and
further bytes of six bits each. -/
def runsFrom (lead : Nat) : Nat → Nat → Nat → List ByteRun
  | 0, first, last => [[(lead + first, lead + last)]]
  | further + 1, first, last =>
    let unit := Nat.pow 64 (further + 1)
    let after := fun (low high first last : Nat) =>
      (runsFrom 0x80 further first last).map ((lead + low, lead + high) :: ·)
    let low := first / unit
    let high := last / unit
    if low = high then after low high (first % unit) (last % unit)
    else
      let lowest := if first % unit = 0 then [] else after low low (first % unit) (unit - 1)
      let highest := if last % unit = unit - 1 then [] else after high high 0 (last % unit)
      let low := if lowest.isEmpty then low else low + 1
      let high := if highest.isEmpty then high else high - 1
      lowest ++ (if low ≤ high then after low high 0 (unit - 1) else []) ++ highest

/-- Ranges of characters that have the same number of bytes: how many come after the first, and
where first bytes are counted from. -/
def byteLengths : List ((Nat × Nat) × Nat × Nat) := [
  ((0, 0x7F), 0, 0), ((0x80, 0x7FF), 1, 0xC0), ((0x800, 0xD7FF), 2, 0xE0),
  ((0xE000, 0xFFFF), 2, 0xE0), ((0x10000, 0x10FFFF), 3, 0xF0)]

/-- The runs that the characters of a set are written in, in increasing order. -/
def byteRuns (set : CodeSet) : List ByteRun :=
  set.ranges.toList.flatMap fun range =>
    byteLengths.flatMap fun (limits, further, lead) =>
      let first := max limits.1 range.1
      let last := min limits.2 range.2
      if first ≤ last then runsFrom lead further first last else []

/-! ### Sets -/

/-- How many ranges two runs begin with alike. -/
def sharedLength : ByteRun → ByteRun → Nat
  | a :: s, b :: t => if a = b then sharedLength s t + 1 else 0
  | _, _ => 0

/-- The ranges of runs, without those that a run begins with like the one before. -/
def unsharedLength (before : ByteRun) : List ByteRun → Nat
  | [] => 0
  | run :: rest => run.length - sharedLength before run + unsharedLength run rest

/-- Runs that begin alike, together. -/
def beginnings (runs : List ByteRun) : List (List ByteRun) :=
  runs.splitBy fun s t => s.head? == t.head?

/-- The ways in which runs go on, from their start and after each of their first bytes. -/
def continuations : Nat → List ByteRun → List (List ByteRun)
  | 0, _ => []
  | depth + 1, runs =>
    if runs.all List.isEmpty then []
    else runs :: (beginnings runs).flatMap fun group => continuations depth (group.map List.tail)

/-- The weight of a set that is one character, or has ASCII characters only. -/
def simpleWeight? (set : CodeSet) : Option Nat :=
  match set.ranges.toList with
  | [(first, last)] =>
    if first = last then some (32 * (Char.ofNat first).utf8Size)
    else if last < 128 then some 72
    else none
  | ranges => if set.isAscii then some (64 + 8 * ranges.length) else none

/-- Going forward, runs that go on alike share what comes after. -/
def forwardSetWeight (set : CodeSet) : Nat :=
  (simpleWeight? set).getD <|
    let states := (continuations 4 (byteRuns set)).eraseDups
    states.foldl (fun n runs => n + 32 + 8 * (beginnings runs).length) 32

/-- Going backward, runs that begin alike share how they begin. -/
def backwardSetWeight (set : CodeSet) : Nat :=
  (simpleWeight? set).getD <|
    let runs := byteRuns set
    64 + 32 * unsharedLength [] runs + 4 * runs.length

/-! ### Patterns -/

/-- What the parts of a pattern weigh in one direction. -/
structure Scale where
  set : CodeSet → Nat
  group : Nat

/-- Where groups begin and end is noted going forward only. -/
def Scale.forward : Scale := ⟨forwardSetWeight, 64⟩

def Scale.backward : Scale := ⟨backwardSetWeight, 0⟩

namespace Shape

/-- What the loops and ways around of a repetition weigh, beside what is repeated. A loop over what
may match no character has a way around it. -/
def repetitionWeight (least : Nat) (most : Option Nat) (nullable : Bool) : Nat :=
  match most with
  | none => if least = 0 && nullable then 112 else 40
  | some most =>
    if most = least then 0
    else (most - least) * 40 + if least = 0 ∧ most ≠ 1 then 64 else 32

mutual

def weight (scale : Scale) : Shape → Nat
  | .empty => 32
  | .char set => scale.set set
  | .place _ => 32
  | .repetition least most inside =>
    most.getD (max least 1) * inside.weight scale +
      repetitionWeight least most inside.canBeEmpty
  | .group inside => inside.weight scale + scale.group
  | .alternation branches => weightAll scale branches + 4 * branches.length + 64
  | .sequence items => weightAll scale items

def weightAll (scale : Scale) : List Shape → Nat
  | [] => 0
  | item :: rest => item.weight scale + weightAll scale rest

end

/-- The greatest weight that a pattern may have in either direction. -/
def weightLimit : Nat := 10485760

def isLight (shape : Shape) : Bool :=
  shape.weight .backward ≤ weightLimit && shape.weight .forward ≤ weightLimit

end Shape

end Steering.Pattern
