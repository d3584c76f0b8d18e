/-!
# Why a line is no command

The causes for which a command line is refused, and their wording.
-/

namespace Steering.Grammar

inductive ParseError where
  | emptyCommand
  /-- No command word fits the token. -/
  | unrecognizedToken (token line : String)
  /-- A token that looks like an argument name stands where a positional argument is expected. -/
  | unexpectedNamedArg (token expected : String)
  | expectedNamedArg (token : String)
  | unknownArgument (name : String)
  /-- A named argument has no value. -/
  | incompleteArgument (name : String)
  | missingPositional (name : String)
  /-- The line ends before a complete command; `words` may follow. -/
  | missingWord (words : List String)
deriving Repr, DecidableEq

def ParseError.message : ParseError → String
  | .emptyCommand => "empty command"
  | .unrecognizedToken token line =>
    "unrecognised token '" ++ token ++ "' in command '" ++ line ++ "'"
  | .unexpectedNamedArg token expected =>
    "unexpected named argument '" ++ token ++ "' while looking for positional argument '" ++
      expected ++ "'"
  | .expectedNamedArg token => "expected '-' looking for named argument, not '" ++ token ++ "'"
  | .unknownArgument name => "argument '" ++ name ++ "' not recognised"
  | .incompleteArgument name => "incomplete argument '" ++ name ++ "'"
  | .missingPositional name => "command incomplete, expecting positional argument '" ++ name ++ "'"
  | .missingWord words =>
    "command incomplete, expecting one of: " ++ String.intercalate ", " words

end Steering.Grammar
