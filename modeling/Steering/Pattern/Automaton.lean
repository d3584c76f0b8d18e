import Steering.Pattern.Shape

/-!
# Matching by an automaton

A shape becomes an automaton, and a text is matched by following all its runs at once. The work
for each character is bounded by the size of the automaton, so that no pattern takes more than
linear time.
-/

namespace Steering.Pattern

/-- A state of an automaton; states are known by their number. -/
inductive State where
  | accept
  | char (set : Text.CodeSet) (next : Nat)
  | place (p : Place) (next : Nat)
  | fork (first second : Nat)

/-- The states of an automaton, and the one it starts in. -/
structure Automaton where
  states : Array State
  start : Nat

namespace Automaton

/-! ### Building -/

/-- A new state, which the automaton starts in. -/
def push (a : Automaton) (state : State) : Automaton := ⟨a.states.push state, a.states.size⟩

/-- The automaton that starts in a given state. -/
def startAt (a : Automaton) (start : Nat) : Automaton := { a with start }

/-- Puts something in front of an automaton as often as wanted. -/
def frontTimes (front : Automaton → Automaton) : Nat → Automaton → Automaton
  | 0, a => a
  | n + 1, a => front (frontTimes front n a)

/-- Puts up to so many of something in front of an automaton. -/
def frontUpTo (front : Automaton → Automaton) (stop : Nat) : Nat → Automaton → Automaton
  | 0, a => a
  | n + 1, a =>
    let a := front (frontUpTo front stop n a)
    a.push (.fork a.start stop)

/-- Puts any number of something in front of an automaton. The loop returns to a state that is
filled in once its body is known. -/
def frontMany (front : Automaton → Automaton) (a : Automaton) : Automaton :=
  let loop := a.states.size
  let body := front (a.push .accept)
  ⟨body.states.set! loop (.fork body.start a.start), loop⟩

mutual

/-- The automaton that matches a shape and goes on as the given one does. -/
def before (a : Automaton) : Shape → Automaton
  | .empty => a
  | .char set => a.push (.char set a.start)
  | .place p => a.push (.place p a.start)
  | .repetition least most inside =>
    let front := fun a => before a inside
    match most with
    | none => frontTimes front least (frontMany front a)
    | some most => frontTimes front least (frontUpTo front a.start (most - least) a)
  | .group inside => before a inside
  | .alternation branches => beforeBranches a a.start branches
  | .sequence items => beforeItems a items

/-- One of several branches. -/
def beforeBranches (a : Automaton) (stop : Nat) : List Shape → Automaton
  | [] => a
  | [branch] => before (a.startAt stop) branch
  | branch :: rest =>
    let others := beforeBranches a stop rest
    let this := before (others.startAt stop) branch
    this.push (.fork this.start others.start)

/-- Several parts in a row. -/
def beforeItems (a : Automaton) : List Shape → Automaton
  | [] => a
  | item :: rest => before (beforeItems a rest) item

end

/-- The automaton of a shape. -/
def ofShape (shape : Shape) : Automaton := before ⟨#[.accept], 0⟩ shape

/-! ### Running -/

/-- What is reached without a further character. -/
structure Reached where
  /-- By state: whether it has been looked at. -/
  seen : Array Bool
  /-- The states from which a character may be read. -/
  waiting : List Nat := []
  accepted : Bool := false

/-- Follows forks and conditions from the states still to be looked at, each state once. -/
def follow (a : Automaton) (previous next : Option Char) :
    Nat → List Nat → Reached → Reached
  | 0, _, r => r
  | _, [], r => r
  | fuel + 1, i :: rest, r =>
    if r.seen.getD i true then follow a previous next fuel rest r
    else
      let r := { r with seen := r.seen.set! i true }
      match a.states[i]? with
      | none => follow a previous next fuel rest r
      | some .accept => follow a previous next fuel rest { r with accepted := true }
      | some (.char _ _) => follow a previous next fuel rest { r with waiting := i :: r.waiting }
      | some (.place p j) =>
        follow a previous next fuel (if p.holds previous next then j :: rest else rest) r
      | some (.fork j k) => follow a previous next fuel (j :: k :: rest) r

/-- Everything reached at a place from the given states or from the start. A state puts at most
two others on the list, so that twice their number is fuel enough. -/
def reach (a : Automaton) (previous next : Option Char) (starts : List Nat) : Reached :=
  let todo := starts ++ [a.start]
  follow a previous next (todo.length + 2 * a.states.size) todo
    { seen := Array.replicate a.states.size false }

/-- The state after a character has been read in another. -/
def next? (a : Automaton) (c : Char) (i : Nat) : Option Nat :=
  match a.states[i]? with
  | some (.char set j) => if set.contains c then some j else none
  | _ => none

/-- The states after a character has been read. -/
def advance (a : Automaton) (c : Char) (waiting : List Nat) : List Nat :=
  waiting.filterMap (a.next? c)

/-- Whether there is a match in the rest of a text, or one that has begun before. -/
def matchesFrom (a : Automaton) (previous : Option Char) (begun : List Nat) :
    List Char → Bool
  | [] => (a.reach previous none begun).accepted
  | c :: rest =>
    let r := a.reach previous (some c) begun
    r.accepted || a.matchesFrom (some c) (a.advance c r.waiting) rest

end Automaton

end Steering.Pattern
