import Steering.Grammar.Basic

/-!
# The outline of a grammar

A grammar written out on one line, field by field, for looking at it. Of handlers and sources the
outline only says whether they are there.
-/

namespace Steering.Grammar

variable {Code Handler Source : Type}

namespace Outline

/-- A character inside double quotes. Control characters are written by name or by number. -/
def quoteChar (c : Char) : List Char :=
  match c with
  | '"' => ['\\', '"']
  | '\\' => ['\\', '\\']
  | '\n' => ['\\', 'n']
  | '\r' => ['\\', 'r']
  | '\t' => ['\\', 't']
  | _ =>
    if c.toNat = 0 then ['\\', '0']
    else if c.toNat < 32 ∨ c.toNat = 127 then
      ['\\', 'u', '\x7b'] ++ Nat.toDigits 16 c.toNat ++ ['\x7d']
    else [c]

def quote (s : String) : String :=
  "\"" ++ String.ofList (s.toList.flatMap quoteChar) ++ "\""

def list (items : List String) : String := "[" ++ String.intercalate ", " items ++ "]"

/-- Fields between braces, after the name of what has them. -/
def record (name : String) (fields : List (String × String)) : String :=
  name ++ " \x7b " ++
    String.intercalate ", " (fields.map fun (field, value) => field ++ ": " ++ value) ++ " \x7d"

def map (entries : List (String × String)) : String :=
  "\x7b" ++ String.intercalate ", " (entries.map fun (key, value) => quote key ++ ": " ++ value) ++
    "\x7d"

def truth (b : Bool) : String := if b then "true" else "false"

def optional (show_ : Code → String) : Option Code → String
  | none => "None"
  | some code => "Some(" ++ show_ code ++ ")"

def positional (arg : PositionalArg Source) : String :=
  record "PositionalArg"
    [("name", quote arg.name), ("optional", truth arg.optional),
      ("suggest", truth arg.source.isSome)]

def named (arg : NamedArg Source) : String :=
  record "NamedArg" [("is_flag", truth arg.isFlag), ("suggest", truth arg.source.isSome)]

mutual

def fragment (showCode : Code → String) : Fragment Code Handler Source → String
  | ⟨description, args, namedArgs, code, handler, sub⟩ =>
    record "CommandFragment"
      [("description", quote description),
        ("sub", map (branches showCode sub)),
        ("positional", list (args.map positional)),
        ("named", map (namedArgs.entries.map fun (name, arg) => (name, named arg))),
        ("code", optional showCode code),
        ("handler", truth handler.isSome)]

def branches (showCode : Code → String) :
    List (String × Fragment Code Handler Source) → List (String × String)
  | [] => []
  | (word, child) :: rest => (word, fragment showCode child) :: branches showCode rest

end

end Outline

/-- The outline of the whole grammar; `showCode` writes a command's code. -/
def Spec.outline (showCode : Code → String) (spec : Spec Code Handler Source) : String :=
  Outline.record "CommandSpec" [("root", Outline.fragment showCode spec.root)]

end Steering.Grammar
