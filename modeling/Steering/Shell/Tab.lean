import Steering.Shell.Basic

/-!
# Completing in the line editor

When the tab key is pressed, the word under the cursor may be replaced by one of several
candidates. While a line is typed, the rest of the only candidate is shown as a hint.
-/

namespace Steering.Shell

/-- A candidate for the word under the cursor. -/
structure Replacement where
  text : String
  /-- The text with its description, as it is shown in a list. -/
  display : String
deriving Repr, DecidableEq

/-- The text that replaces the word as typed. If that begins with a quote, so does the text; a
value that has been typed in full only keeps its opening quote. -/
def keepOpenQuote (typed : String) (text : String) : String :=
  match typed.toList with
  | '"' :: opened =>
    if text.toList.head? = some '"' then text
    else if text.toList = opened then "\"" ++ text
    else "\"" ++ text ++ "\""
  | _ => text

def replacement (typed : String) (s : Suggestion) : Replacement :=
  let text := keepOpenQuote typed s.text
  { text, display := if s.description.isEmpty then text else text ++ "  " ++ s.description }

/-- Where the word before the cursor starts, in bytes, and what may replace it. Suggestions
without a text only inform, and are left out. -/
def tab (now : Instant) (shell : Shell) (before : String) : (Nat × List Replacement) × Shell :=
  let (suggestions, shell) := shell.complete now before
  let texts := suggestions.filter fun s => !s.text.isEmpty
  ((Line.typedStart before, texts.map (replacement (Line.typed before))), shell)

/-- The rest of the word at the end of a line, if something has been typed of it and there is
only one way to go on. -/
def hint (now : Instant) (shell : Shell) (line : String) : Option String × Shell :=
  let typed := Line.typed line
  if typed.isEmpty then (none, shell)
  else
    let (suggestions, shell) := shell.complete now line
    match suggestions with
    | [only] =>
      let text := only.text.toList
      if typed.toList.isPrefixOf text && typed.length < text.length then
        (some (String.ofList (text.drop typed.length)), shell)
      else (none, shell)
    | _ => (none, shell)

/-- The hint for a cursor at the given byte of the line; there is none before the line's end. -/
def hintAt (now : Instant) (shell : Shell) (line : String) (cursor : Nat) :
    Option String × Shell :=
  if cursor < line.utf8ByteSize then (none, shell) else shell.hint now line

end Steering.Shell
