import Steering.Text.Blank
import Steering.Text.Lowercase

/-!
# Suggestions

A suggestion is a text that may be inserted into a command line, with a description shown beside
it. Lists of suggestions are narrowed to those that begin with, or contain, what has been typed,
with or without regard to case.
-/

namespace Steering

structure Suggestion where
  text : String
  description : String
deriving Repr, DecidableEq, Inhabited

namespace Suggestion

/-- A suggestion whose text is put in double quotes if it has white space, so that it is one word
on a line. -/
def quoted (text description : String) : Suggestion :=
  { text := if text.toList.any Text.isBlank then "\"" ++ text ++ "\"" else text, description }

/-- Whether `needle` occurs in the text as a run of neighbouring characters. -/
def occursIn (needle : List Char) : List Char → Bool
  | [] => needle.isEmpty
  | c :: rest => needle.isPrefixOf (c :: rest) || occursIn needle rest

/-- A text as it is compared: unchanged, or in lowercase if case is ignored. -/
def folded (ignoreCase : Bool) (text : String) : List Char :=
  if ignoreCase then Text.lowerChars text.toList else text.toList

/-- The suggestions whose text begins with `start`. -/
def startingWith (ignoreCase : Bool) (start : String) (all : List Suggestion) : List Suggestion :=
  let start := folded ignoreCase start
  all.filter fun s => start.isPrefixOf (folded ignoreCase s.text)

/-- The suggestions whose text contains `needle`. -/
def containing (ignoreCase : Bool) (needle : String) (all : List Suggestion) : List Suggestion :=
  let needle := folded ignoreCase needle
  all.filter fun s => occursIn needle (folded ignoreCase s.text)

/-- The suggestions in order of text; those of one text stay in their order. -/
def sortByText (all : List Suggestion) : List Suggestion :=
  all.mergeSort fun a b => !decide (b.text < a.text)

/-- The part of a candidate's text that decides whether it is offered. -/
inductive Match where
  | any
  | start
  | anywhere
deriving Repr, DecidableEq

/-- A fixed list of candidates together with the way it is narrowed by what has been typed. -/
structure Offer where
  candidates : List Suggestion
  matching : Match := .any
  ignoreCase : Bool := false
  sort : Bool := false
deriving Repr, DecidableEq

/-- The candidates offered for `typed`. -/
def Offer.answer (o : Offer) (typed : String) : List Suggestion :=
  let kept := match o.matching with
    | .any => o.candidates
    | .start => startingWith o.ignoreCase typed o.candidates
    | .anywhere => containing o.ignoreCase typed o.candidates
  if o.sort then sortByText kept else kept

end Suggestion

end Steering
