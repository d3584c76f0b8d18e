import Steering.Grammar.Walk
import Steering.Suggestion

/-!
# Completing a line

A line that is being typed is completed at its last token, or at a new one if the line ends with
a space. The tokens before it are walked as in parsing, and where parsing would refuse one of
them nothing is offered. Command words and argument names are offered in order; the candidates
for a value are those of the argument's source, or else a placeholder that names the argument.
-/

namespace Steering.Grammar

variable {Code Handler Source : Type}

/-- What can be offered: a list, or whatever a source answers to the text typed so far. -/
inductive Completion (Source : Type) where
  | list (suggestions : List Suggestion)
  | ask (source : Source) (typed : String)

def Completion.nothing : Completion Source := .list []

/-- Offers the candidates of a source, and a placeholder if there is none. -/
def offerValue (source : Option Source) (name description typed : String) : Completion Source :=
  match source with
  | some s => .ask s typed
  | none => .list [{ text := typed, description := "<" ++ name ++ "> " ++ description }]

namespace Walk

/-- The command words that may come next. -/
def wordSuggestions (w : Walk Code Handler Source) : List Suggestion :=
  w.fragment.sub.map fun (word, child) => { text := word, description := child.description }

/-- The argument names that may come next: those declared and not yet given. -/
def nameSuggestions (w : Walk Code Handler Source) : List Suggestion :=
  (w.valid.entries.filter fun (name, _) => !w.supplied.contains name).map fun (name, arg) =>
    { text := String.singleton marker ++ name, description := arg.description }

/-- What can be offered for a token that is still being typed. A value with a space in it is not
completed. -/
def completeToken (w : Walk Code Handler Source) (token : String) : Completion Source :=
  match w.role token with
  | .commandWord => .list (Suggestion.startingWith true token w.wordSuggestions)
  | .argName => .list (Suggestion.startingWith true token w.nameSuggestions)
  | .positional arg =>
    if token.toList.contains ' ' then .nothing
    else offerValue arg.source arg.name arg.description token
  | .argValue name arg =>
    if token.toList.contains ' ' || isMarked token then .nothing
    else offerValue arg.source name arg.description token

/-- What can be offered for a token of which nothing has been typed. A positional argument shows
its placeholder, whether it has a source or not. -/
def completeNew (w : Walk Code Handler Source) : Completion Source :=
  if w.fragment.isTerminal then
    match w.awaiting with
    | some (name, arg) => offerValue arg.source name arg.description ""
    | none =>
      match w.pending with
      | arg :: _ => offerValue none arg.name arg.description ""
      | [] => .list w.nameSuggestions
  else .list w.wordSuggestions

end Walk

/-- What can be offered at the end of a line. -/
def Spec.complete (spec : Spec Code Handler Source) (line : String) : Completion Source :=
  let tokens := Line.split line
  let typed := if tokens.atNewWord then none else tokens.words.getLast?
  let settled := if typed.isSome then tokens.words.dropLast else tokens.words
  match spec.walk line settled with
  | .error _ => .nothing
  | .ok w =>
    match typed with
    | some token => w.completeToken token
    | none => w.completeNew

/-- The suggestions at the end of a line, where `answer` says what the sources answer. -/
def Spec.suggest (spec : Spec Code Handler Source) (answer : Source → String → List Suggestion)
    (line : String) : List Suggestion :=
  match spec.complete line with
  | .list suggestions => suggestions
  | .ask source typed => answer source typed

end Steering.Grammar
