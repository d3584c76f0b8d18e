/-!
# Sets of characters by code point

Properties of characters come from the Unicode character database as lists of code point
ranges. A set is kept as a table of ranges in increasing order, and membership is a search in
that table. Large tables are written as text, `41-5a,aa,b5`, in hexadecimal.
-/

namespace Steering.Text

/-- A set of code points: inclusive ranges, in increasing order and apart from each other. -/
structure CodeSet where
  ranges : Array (Nat × Nat)
deriving Repr, DecidableEq

namespace CodeSet

def hexDigit? (c : Char) : Option Nat :=
  if '0' ≤ c ∧ c ≤ '9' then some (c.toNat - '0'.toNat)
  else if 'a' ≤ c ∧ c ≤ 'f' then some (c.toNat - 'a'.toNat + 10)
  else if 'A' ≤ c ∧ c ≤ 'F' then some (c.toNat - 'A'.toNat + 10)
  else none

/-- Reads ranges from their text: `low` is the first number of the range being read, once its
hyphen has been seen, and `value` is the number being read. -/
def readRanges (low : Option Nat) (value : Nat) (done : Array (Nat × Nat)) :
    List Char → Array (Nat × Nat)
  | [] => done.push (low.getD value, value)
  | ',' :: rest => readRanges none 0 (done.push (low.getD value, value)) rest
  | '-' :: rest => readRanges (some value) 0 done rest
  | c :: rest => readRanges low (value * 16 + (hexDigit? c).getD 0) done rest

/-- The set written as comma-separated hexadecimal ranges; no text is the empty set. -/
def ofText (text : String) : CodeSet :=
  if text.isEmpty then ⟨#[]⟩ else ⟨readRanges none 0 #[] text.toList⟩

/-- The set of the ranges written on several lines. -/
def ofLines (lines : List String) : CodeSet := ofText (String.intercalate "," lines)

/-- Looks for `n` among the ranges with index from `low` up to, and without, `high`. -/
def search (ranges : Array (Nat × Nat)) (n low high : Nat) : Bool :=
  if low < high then
    let mid := (low + high) / 2
    match ranges[mid]? with
    | none => false
    | some (first, last) =>
      if n < first then search ranges n low mid
      else if last < n then search ranges n (mid + 1) high
      else true
  else false
termination_by high - low

def hasCode (s : CodeSet) (n : Nat) : Bool := search s.ranges n 0 s.ranges.size

def contains (s : CodeSet) (c : Char) : Bool := s.hasCode c.toNat

def empty : CodeSet := ⟨#[]⟩

/-- All code points. -/
def all : CodeSet := ⟨#[(0, 0x10FFFF)]⟩

/-- The set of ranges that may overlap and come in any order. -/
def ofRanges (ranges : List (Nat × Nat)) : CodeSet :=
  let sorted := ranges.mergeSort fun a b => decide (a.1 ≤ b.1)
  ⟨joinFrom none #[] sorted⟩
where
  /-- Goes through sorted ranges; `last` is the range that the next one may still join. -/
  joinFrom (last : Option (Nat × Nat)) (done : Array (Nat × Nat)) :
      List (Nat × Nat) → Array (Nat × Nat)
    | [] => match last with
      | some range => done.push range
      | none => done
    | next :: rest =>
      match last with
      | none => joinFrom (some next) done rest
      | some range =>
        if next.1 ≤ range.2 + 1 then joinFrom (some (range.1, max range.2 next.2)) done rest
        else joinFrom (some next) (done.push range) rest

def union (s t : CodeSet) : CodeSet := ofRanges (s.ranges.toList ++ t.ranges.toList)

/-- The ranges between the given ones, from `low` on. -/
def gaps (low : Nat) : List (Nat × Nat) → List (Nat × Nat)
  | [] => if low ≤ 0x10FFFF then [(low, 0x10FFFF)] else []
  | (first, last) :: rest =>
    if low < first then (low, first - 1) :: gaps (last + 1) rest else gaps (last + 1) rest

def complement (s : CodeSet) : CodeSet := ⟨(gaps 0 s.ranges.toList).toArray⟩

def inter (s t : CodeSet) : CodeSet := (s.complement.union t.complement).complement

def diff (s t : CodeSet) : CodeSet := s.inter t.complement

/-- The code points that are in one of the sets but not in both. -/
def symmDiff (s t : CodeSet) : CodeSet := (s.union t).diff (s.inter t)

/-- Holds if there is just one member. -/
def isSingle (s : CodeSet) : Bool :=
  match s.ranges.toList with
  | [(first, last)] => first == last
  | _ => false

/-- Holds if all members are ASCII. -/
def isAscii (s : CodeSet) : Bool := s.ranges.all fun range => range.2 < 128

end CodeSet

end Steering.Text
