import Steering.Pattern.Escape

/-!
# Bracketed classes

A bracketed class lists characters, ranges and other classes, and may combine lists by `&&`, `--`
and `~~`, all of one rank and from the left. Brackets may be nested; those still open are kept on
a stack.
-/

namespace Steering.Pattern

/-- What stands open before the list of items that is being read. -/
inductive OpenClass where
  /-- A bracket, with the items that were read before it. -/
  | bracket (before : List ClassSet) (negated : Bool)
  /-- The left side of an operator. -/
  | operator (op : SetOperator) (left : ClassSet)

/-- The classes of ASCII characters by name. -/
def asciiClass? (name : String) : Option (List (Nat × Nat)) :=
  match name with
  | "alnum" => some [(48, 57), (65, 90), (97, 122)]
  | "alpha" => some [(65, 90), (97, 122)]
  | "ascii" => some [(0, 127)]
  | "blank" => some [(9, 9), (32, 32)]
  | "cntrl" => some [(0, 31), (127, 127)]
  | "digit" => some [(48, 57)]
  | "graph" => some [(33, 126)]
  | "lower" => some [(97, 122)]
  | "print" => some [(32, 126)]
  | "punct" => some [(33, 47), (58, 64), (91, 96), (123, 126)]
  | "space" => some [(9, 13), (32, 32)]
  | "upper" => some [(65, 90)]
  | "word" => some [(48, 57), (65, 90), (95, 95), (97, 122)]
  | "xdigit" => some [(48, 57), (65, 70), (97, 102)]
  | _ => none

/-- A class such as `[:alpha:]`, after its first bracket. -/
def readAsciiClass : List Char → Option (ClassSet × List Char)
  | ':' :: rest =>
    let (negated, rest) := match rest with
      | '^' :: more => (true, more)
      | _ => (false, rest)
    match rest.dropWhile (· != ':') with
    | ':' :: ']' :: more => do
      let ranges ← asciiClass? (String.ofList (rest.takeWhile (· != ':')))
      some (.ascii ranges negated, more)
    | _ => none
  | _ => none

/-- One item of a class: an escape, or a character that stands for itself. -/
def readItem (loose : Bool) : List Char → Option (Primitive × List Char)
  | '\\' :: rest => readEscape loose rest
  | c :: rest => some (.literal c false, rest)
  | [] => none

/-- An item on its own. -/
def itemSet? : Primitive → Option ClassSet
  | .literal c asByte => some (.range c c asByte)
  | .short kind negated => some (.short kind negated)
  | .property query negated => some (.property query negated)
  | _ => none

/-- The character after the next one, past blanks if they are ignored. -/
def peekPast (loose : Bool) (cs : List Char) : Option Char :=
  if loose then
    let blankless := cs.dropWhile Text.isBlank
    match blankless with
    | '#' :: rest => (rest.dropWhile Text.isBlank).head?
    | _ => blankless.head?
  else cs.head?

/-- An item, or two with a hyphen between them. A hyphen before a closing bracket or another
hyphen does not make a range. -/
def readRange (loose : Bool) (cs : List Char) : Option (ClassSet × List Char) := do
  let (first, rest) ← readItem loose cs
  let rest := dropLoose loose rest
  match rest with
  | [] => none
  | c :: more =>
    if c != '-' || peekPast loose more == some ']' || peekPast loose more == some '-' then
      some (← itemSet? first, rest)
    else
      let (last, rest) ← readItem loose (dropLoose loose more)
      match first, last with
      | .literal a aByte, .literal b bByte =>
        if a ≤ b then some (.range a b (aByte || bByte), rest) else none
      | _, _ => none

/-- Hyphens at the front of a class stand for themselves; one item for each. -/
def readHyphens (loose : Bool) : Nat → List Char → List ClassSet × List Char
  | fuel + 1, '-' :: rest =>
    let (items, rest) := readHyphens loose fuel (dropLoose loose rest)
    (.range '-' '-' false :: items, rest)
  | _, cs => ([], cs)

/-- The front of a class, after its bracket: whether it is negated, the first items, and the
rest. A closing bracket that comes first stands for itself. -/
def openBracket (loose : Bool) (cs : List Char) : Bool × List ClassSet × List Char :=
  let cs := dropLoose loose cs
  let (negated, cs) := match cs with
    | '^' :: rest => (true, dropLoose loose rest)
    | _ => (false, cs)
  match readHyphens loose cs.length cs with
  | ([], ']' :: rest) => (negated, [.range ']' ']' false], dropLoose loose rest)
  | (items, rest) => (negated, items, rest)

/-- Ends a list of items: with the left side of an operator, if there is one, it makes one set. -/
def endOperand (items : List ClassSet) (stack : List OpenClass) : ClassSet × List OpenClass :=
  let set := ClassSet.ofItems items.reverse
  match stack with
  | .operator op left :: rest => (.operation op left set, rest)
  | _ => (set, stack)

/-- Reads on within a class, where `items` are those of the current list, latest first. -/
def readClassItems (loose : Bool) :
    Nat → List ClassSet → List OpenClass → List Char → Option (Ast × List Char)
  | 0, _, _, _ => none
  | fuel + 1, items, stack, cs =>
    let operator := fun (op : SetOperator) (rest : List Char) =>
      let (left, stack) := endOperand items stack
      readClassItems loose fuel [] (.operator op left :: stack) rest
    match dropLoose loose cs with
    | [] => none
    | '[' :: rest =>
      match readAsciiClass rest with
      | some (set, rest) => readClassItems loose fuel (set :: items) stack rest
      | none =>
        let (negated, first, rest) := openBracket loose rest
        readClassItems loose fuel first.reverse (.bracket items negated :: stack) rest
    | ']' :: rest =>
      match endOperand items stack with
      | (set, [.bracket _ negated]) => some (.bracketed negated set, rest)
      | (set, .bracket before negated :: stack) =>
        readClassItems loose fuel (.bracketed negated set :: before) stack rest
      | _ => none
    | '&' :: '&' :: rest => operator .intersection rest
    | '-' :: '-' :: rest => operator .difference rest
    | '~' :: '~' :: rest => operator .symmetricDifference rest
    | cs =>
      match readRange loose cs with
      | some (set, rest) => readClassItems loose fuel (set :: items) stack rest
      | none => none

/-- A bracketed class, after its first bracket. -/
def readClass (loose : Bool) (cs : List Char) : Option (Ast × List Char) :=
  let (negated, first, rest) := openBracket loose cs
  readClassItems loose (rest.length + 1) first.reverse [.bracket [] negated] rest

end Steering.Pattern
