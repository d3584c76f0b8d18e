import Steering.Proofs.Grammar.Tree
import Steering.Proofs.Line.Words

/-!
# What one token does to a walk

`Walk.Accepts` lists the ways in which a walk can take a token, one constructor for each, with
everything the step asks for and everything it changes. `step_eq_ok_iff` says that these are all:
what is proved of a walk elsewhere is proved case by case over `Accepts`, and carried along a line
by `steps_preserves`.

The text of the line matters only for the wording of an error. `ParseError.onLine` puts another
line into it, and a walk over another line is refused at the same token with that error
(`steps_error_onLine`).
-/

namespace Steering.Grammar

variable {Code Handler Source : Type}

/-! ### Names behind a marker -/

/-- The token that names an argument. -/
def nameToken (name : String) : String := String.singleton marker ++ name

theorem toList_nameToken (name : String) : (nameToken name).toList = marker :: name.toList := by
  simp [nameToken, String.toList_append]

theorem isMarked_nameToken (name : String) : isMarked (nameToken name) = true := by
  simp [isMarked, toList_nameToken]

/-- A sound argument name is read back from behind its marker. -/
theorem unmarked_nameToken {name : String} (good : isArgName name = true) :
    unmarked (nameToken name) = name := by
  simp only [isArgName, Bool.and_eq_true, Bool.not_eq_true'] at good
  have bare : isMarked name = false := good.1.2
  have chars : name.toList.dropWhile (· == marker) = name.toList := by
    cases text : name.toList with
    | nil => rfl
    | cons c rest =>
      have different : (c == marker) = false := by
        simpa [isMarked, text] using bare
      simp [different]
  simp [unmarked, toList_nameToken, chars, String.ofList_toList]

/-! ### Steps -/

namespace Walk

/-- No required positional argument is due: the named arguments may begin. -/
def Skips (w : Walk Code Handler Source) : Prop :=
  ∀ arg, w.pending.head? = some arg → arg.optional = true

/-- The walk after a command word, a value or a name has been taken as `token`. -/
inductive Accepts (w : Walk Code Handler Source) (token : String) :
    Walk Code Handler Source → Prop where
  | word {child : Fragment Code Handler Source}
      (descending : w.fragment.isTerminal = false)
      (found : Entries.find? (Text.lower token) w.fragment.sub = some child) :
      Accepts w token (w.descend child)
  | positional {arg : PositionalArg Source} {rest : List (PositionalArg Source)}
      (terminal : w.fragment.isTerminal = true) (free : w.awaiting = none)
      (due : w.pending = arg :: rest) (bare : isMarked token = false) :
      Accepts w token { w with args := w.args.insert arg.name token, pending := rest }
  | flag {arg : NamedArg Source}
      (terminal : w.fragment.isTerminal = true) (free : w.awaiting = none) (skips : w.Skips)
      (marked : isMarked token = true) (declared : w.valid.get? (unmarked token) = some arg)
      (isFlag : arg.isFlag = true) :
      Accepts w token
        { w with
          pending := []
          supplied := unmarked token :: w.supplied
          args := w.args.insert (unmarked token) "" }
  | opens {arg : NamedArg Source}
      (terminal : w.fragment.isTerminal = true) (free : w.awaiting = none) (skips : w.Skips)
      (marked : isMarked token = true) (declared : w.valid.get? (unmarked token) = some arg)
      (isValue : arg.isFlag = false) :
      Accepts w token
        { w with
          pending := []
          supplied := unmarked token :: w.supplied
          awaiting := some (unmarked token, arg) }
  | value {name : String} {arg : NamedArg Source}
      (terminal : w.fragment.isTerminal = true) (awaited : w.awaiting = some (name, arg))
      (bare : isMarked token = false) :
      Accepts w token { w with args := w.args.insert name token, awaiting := none }

section Roles

variable {w : Walk Code Handler Source} {token : String}

theorem role_eq_commandWord_iff :
    w.role token = .commandWord ↔ w.fragment.isTerminal = false := by
  unfold role
  grind

theorem role_eq_argValue_iff {name : String} {arg : NamedArg Source} :
    w.role token = .argValue name arg ↔
      w.fragment.isTerminal = true ∧ w.awaiting = some (name, arg) := by
  unfold role
  grind

/-- A marked token is only taken for the value of a required argument, which it cannot be. -/
theorem role_eq_positional_iff {arg : PositionalArg Source} :
    w.role token = .positional arg ↔
      w.fragment.isTerminal = true ∧ w.awaiting = none ∧ w.pending.head? = some arg ∧
        (isMarked token = true → arg.optional = false) := by
  unfold role
  grind

theorem role_eq_argName_iff :
    w.role token = .argName ↔
      w.fragment.isTerminal = true ∧ w.awaiting = none ∧ w.Skips ∧
        (w.pending = [] ∨ isMarked token = true) := by
  unfold role Skips
  grind

end Roles

/-- **A walk takes a token in one of the listed ways, and in no other.** -/
theorem step_eq_ok_iff (line : String) (w : Walk Code Handler Source) (token : String)
    (next : Walk Code Handler Source) : w.step line token = .ok next ↔ w.Accepts token next := by
  constructor
  · intro stepped
    unfold step at stepped
    cases role : w.role token with
    | commandWord =>
      have descending := role_eq_commandWord_iff.mp role
      cases found : Entries.find? (Text.lower token) w.fragment.sub with
      | none => simp [role, found] at stepped
      | some child =>
        simp only [role, found, Except.ok.injEq] at stepped
        subst stepped
        exact .word descending found
    | positional arg =>
      obtain ⟨terminal, free, first, _⟩ := role_eq_positional_iff.mp role
      obtain ⟨rest, due⟩ := List.head?_eq_some_iff.mp first
      cases marked : isMarked token with
      | true =>
        simp only [role, marked, if_true] at stepped
        split at stepped <;> cases stepped
      | false =>
        simp only [role, marked, Bool.false_eq_true, if_false, due, List.tail_cons,
          Except.ok.injEq] at stepped
        subst stepped
        exact .positional terminal free due marked
    | argName =>
      obtain ⟨terminal, free, skips, _⟩ := role_eq_argName_iff.mp role
      cases marked : isMarked token with
      | false => simp [role, marked] at stepped
      | true =>
        simp only [role, marked, if_true] at stepped
        cases declared : w.valid.get? (unmarked token) with
        | none => simp [declared] at stepped
        | some arg =>
          cases kind : arg.isFlag with
          | true =>
            simp only [declared, kind, if_true, Except.ok.injEq] at stepped
            subst stepped
            exact .flag terminal free skips marked declared kind
          | false =>
            simp only [declared, kind, Bool.false_eq_true, if_false, Except.ok.injEq] at stepped
            subst stepped
            exact .opens terminal free skips marked declared kind
    | argValue name arg =>
      obtain ⟨terminal, awaited⟩ := role_eq_argValue_iff.mp role
      cases marked : isMarked token with
      | true => simp [role, marked] at stepped
      | false =>
        simp only [role, marked, Bool.false_eq_true, if_false, Except.ok.injEq] at stepped
        subst stepped
        exact .value terminal awaited marked
  · intro accepted
    unfold step
    cases accepted with
    | word descending found =>
      have role : w.role token = .commandWord := role_eq_commandWord_iff.mpr descending
      simp [role, found]
    | @positional arg rest terminal free due bare =>
      have role : w.role token = .positional arg :=
        role_eq_positional_iff.mpr ⟨terminal, free, by simp [due], by simp [bare]⟩
      simp [role, bare, due]
    | flag terminal free skips marked declared isFlag =>
      have role := role_eq_argName_iff.mpr ⟨terminal, free, skips, Or.inr marked⟩
      simp [role, marked, declared, isFlag]
    | opens terminal free skips marked declared isValue =>
      have role := role_eq_argName_iff.mpr ⟨terminal, free, skips, Or.inr marked⟩
      simp [role, marked, declared, isValue]
    | value terminal awaited bare =>
      have role : w.role token = _ := role_eq_argValue_iff.mpr ⟨terminal, awaited⟩
      simp [role, bare]

/-! ### Runs -/

theorem steps_cons_eq_ok_iff (line : String) (w : Walk Code Handler Source) (token : String)
    (tokens : List String) (final : Walk Code Handler Source) :
    w.steps line (token :: tokens) = .ok final ↔
      ∃ next, w.Accepts token next ∧ next.steps line tokens = .ok final := by
  simp only [← step_eq_ok_iff line, steps]
  cases w.step line token with
  | ok next => simp
  | error e => simp

/-- A token that is taken leads on along the rest of the line. -/
theorem Accepts.steps {line : String} {w next final : Walk Code Handler Source} {token : String}
    {tokens : List String} (accepted : w.Accepts token next)
    (onward : next.steps line tokens = .ok final) : w.steps line (token :: tokens) = .ok final :=
  (steps_cons_eq_ok_iff line w token tokens final).mpr ⟨next, accepted, onward⟩

theorem steps_append (line : String) (w : Walk Code Handler Source) (first second : List String) :
    w.steps line (first ++ second) =
      (w.steps line first).bind fun middle => middle.steps line second := by
  induction first generalizing w with
  | nil => rfl
  | cons token rest ih =>
    rw [List.cons_append, steps, steps]
    cases w.step line token with
    | ok next => exact ih next
    | error e => rfl

theorem steps_append_eq_ok_iff (line : String) (w : Walk Code Handler Source)
    (first second : List String) (final : Walk Code Handler Source) :
    w.steps line (first ++ second) = .ok final ↔
      ∃ middle, w.steps line first = .ok middle ∧ middle.steps line second = .ok final := by
  rw [steps_append]
  cases w.steps line first with
  | ok middle => simp [Except.bind]
  | error e => simp [Except.bind]

/-- What every accepted token keeps, every accepted line keeps. -/
theorem steps_preserves (P : Walk Code Handler Source → Prop) (line : String)
    (w : Walk Code Handler Source) (tokens : List String) (final : Walk Code Handler Source)
    (preserved : ∀ token ∈ tokens, ∀ w next, P w → w.Accepts token next → P next) (initial : P w)
    (walked : w.steps line tokens = .ok final) : P final := by
  induction tokens generalizing w with
  | nil =>
    cases walked
    exact initial
  | cons token rest ih =>
    obtain ⟨first, preserved⟩ := List.forall_mem_cons.mp preserved
    obtain ⟨next, accepted, onward⟩ := (steps_cons_eq_ok_iff line w token rest final).mp walked
    exact ih next preserved (first w next initial accepted) onward

end Walk

/-! ### The line a walk belongs to -/

/-- The error as it is worded for another line. -/
def ParseError.onLine (line : String) : ParseError → ParseError
  | .unrecognizedToken token _ => .unrecognizedToken token line
  | e => e

namespace Walk

theorem step_onLine (line other : String) (w : Walk Code Handler Source) (token : String) :
    w.step other token = (w.step line token).mapError (ParseError.onLine other) := by
  unfold step
  cases w.role token with
  | commandWord => cases Entries.find? (Text.lower token) w.fragment.sub <;> rfl
  | positional arg =>
    dsimp only
    split
    · split <;> rfl
    · rfl
  | argName =>
    dsimp only
    split
    · cases w.valid.get? (unmarked token) with
      | none => rfl
      | some arg =>
        dsimp only
        split <;> rfl
    · rfl
  | argValue name arg =>
    dsimp only
    split <;> rfl

/-- **The line is only text**: over another line a walk ends the same way. -/
theorem steps_onLine (line other : String) (w : Walk Code Handler Source) (tokens : List String) :
    w.steps other tokens = (w.steps line tokens).mapError (ParseError.onLine other) := by
  induction tokens generalizing w with
  | nil => rfl
  | cons token rest ih =>
    rw [steps, steps, step_onLine line other]
    cases w.step line token with
    | ok next => exact ih next
    | error e => rfl

theorem steps_ok_onLine {line : String} (other : String) {w final : Walk Code Handler Source}
    {tokens : List String} (walked : w.steps line tokens = .ok final) :
    w.steps other tokens = .ok final := by
  rw [steps_onLine line, walked]
  rfl

theorem steps_error_onLine {line : String} (other : String) {w : Walk Code Handler Source}
    {tokens : List String} {e : ParseError} (refused : w.steps line tokens = .error e) :
    w.steps other tokens = .error (e.onLine other) := by
  rw [steps_onLine line, refused]
  rfl

end Walk

/-! ### Walks in a grammar -/

/-- Where a walk stands, and what it has been told on the way, comes from the grammar. -/
structure Walk.Within (spec : Spec Code Handler Source) (w : Walk Code Handler Source) : Prop where
  has : spec.Has w.fragment
  declared : ∀ name arg, w.valid.get? name = some arg →
    ∃ e ∈ spec.fragments, e.2.named.get? name = some arg

/-- A name that the walk has been told of is among the names of a fragment. -/
theorem Walk.Within.declares {spec : Spec Code Handler Source} {w : Walk Code Handler Source}
    {name : String} {arg : NamedArg Source} (within : w.Within spec)
    (valid : w.valid.get? name = some arg) :
    ∃ e ∈ spec.fragments, name ∈ e.2.named.keys := by
  obtain ⟨e, member, own⟩ := within.declared name arg valid
  exact ⟨e, member, Dict.contains_iff.mp (Dict.contains_iff_exists.mpr ⟨arg, own⟩)⟩

theorem Walk.within_start (spec : Spec Code Handler Source) :
    (Walk.start spec.root).Within spec where
  has := Or.inl rfl
  declared := by
    intro name arg found
    cases found

theorem Walk.Within.descend {spec : Spec Code Handler Source} {w : Walk Code Handler Source}
    {word : String} {child : Fragment Code Handler Source} (within : w.Within spec)
    (found : Entries.find? word w.fragment.sub = some child) : (w.descend child).Within spec where
  has := Or.inr ⟨word, within.has.child found⟩
  declared := by
    intro name arg valid
    have looked : (w.valid.override child.named).get? name = some arg := valid
    rw [Dict.get?_override, Option.or_eq_some_iff] at looked
    rcases looked with own | ⟨_, above⟩
    · exact ⟨(word, child), within.has.child found, own⟩
    · exact within.declared name arg above

theorem Walk.Within.accepts {spec : Spec Code Handler Source} {w next : Walk Code Handler Source}
    {token : String} (within : w.Within spec) (accepted : w.Accepts token next) :
    next.Within spec := by
  cases accepted with
  | word descending found => exact within.descend found
  | positional | flag | opens | value => exact ⟨within.has, within.declared⟩

/-- **A walk never leaves its grammar.** -/
theorem Spec.walk_within {spec : Spec Code Handler Source} {line : String} {tokens : List String}
    {w : Walk Code Handler Source} (walked : spec.walk line tokens = .ok w) : w.Within spec :=
  Walk.steps_preserves (Walk.Within spec) line _ tokens w
    (fun _ _ _ _ within accepted => within.accepts accepted) (Walk.within_start spec) walked

/-! ### The end of a line -/

namespace Walk

/-- Nothing is missing: no required argument, no value, and the walk has come to a command. -/
theorem finish_eq_ok_iff (w : Walk Code Handler Source) (cmd : ParsedCommand Code Handler) :
    w.finish = .ok cmd ↔ w.Skips ∧ w.awaiting = none ∧
      ∃ code, w.fragment.code = some code ∧ cmd = ⟨code, w.args, w.handler⟩ := by
  unfold finish
  cases filtered : w.pending.head?.filter (fun arg => !arg.optional) with
  | some arg =>
    have required : ¬ w.Skips := by
      intro skips
      obtain ⟨first, notOptional⟩ := Option.filter_eq_some_iff.mp filtered
      simp [skips arg first] at notOptional
    simp [required]
  | none =>
    have skips : w.Skips := by
      intro arg first
      have optional := Option.filter_eq_none_iff.mp filtered arg first
      simpa using optional
    cases awaited : w.awaiting with
    | some pair => simp
    | none =>
      cases code : w.fragment.code with
      | none => simp
      | some code => simp [skips, eq_comm]

end Walk

/-- Parsing is walking along all words of the line and finishing there. -/
theorem Spec.parse_eq_ok_iff_walk (spec : Spec Code Handler Source) (line : String)
    (cmd : ParsedCommand Code Handler) :
    spec.parse line = .ok cmd ↔
      ∃ w, spec.walk line (Line.split line).words = .ok w ∧ w.finish = .ok cmd := by
  unfold Spec.parse
  cases words : (Line.split line).words with
  | nil =>
    -- The root is no command, so a line without words cannot finish either.
    simp [Spec.walk, Walk.steps, Walk.start, Walk.finish, Spec.root]
  | cons token rest =>
    simp only [bind, Except.bind]
    cases spec.walk line (token :: rest) with
    | ok w => simp
    | error e => simp

/-! ### The values of a command -/

/-- A word that can be given as the value of an argument. -/
def IsValue (word : String) : Prop := isMarked word = false ∧ '"' ∉ word.toList

theorem Walk.Accepts.values {w next : Walk Code Handler Source} {token : String}
    (accepted : w.Accepts token next) (unquoted : '"' ∉ token.toList)
    (values : ∀ name value, w.args.get? name = some value → IsValue value) :
    ∀ name value, next.args.get? name = some value → IsValue value := by
  have inserted {name new : String} (isValue : IsValue new) :
      ∀ other value, (w.args.insert name new).get? other = some value → IsValue value := by
    intro other value found
    by_cases same : other = name
    · rw [same, Dict.get?_insert_self] at found
      cases found
      exact isValue
    · rw [Dict.get?_insert_of_ne _ same] at found
      exact values other value found
  cases accepted with
  | word | opens => exact values
  | positional terminal free due bare => exact inserted ⟨bare, unquoted⟩
  | flag => exact inserted ⟨rfl, by decide⟩
  | value terminal awaited bare => exact inserted ⟨bare, unquoted⟩

/-- The arguments of a command that has been read are words that can be given as values. -/
def ParsedCommand.Given (cmd : ParsedCommand Code Handler) : Prop :=
  ∀ name value, cmd.arg? name = some value → IsValue value

theorem Spec.given_of_parse {spec : Spec Code Handler Source} {line : String}
    {cmd : ParsedCommand Code Handler} (parsed : spec.parse line = .ok cmd) : cmd.Given := by
  obtain ⟨w, walked, finished⟩ := (spec.parse_eq_ok_iff_walk line cmd).mp parsed
  obtain ⟨-, -, code, -, rfl⟩ := (Walk.finish_eq_ok_iff w cmd).mp finished
  refine Walk.steps_preserves
    (fun w => ∀ name value, w.args.get? name = some value → IsValue value) line _ _ w ?_ ?_ walked
  · exact fun token member w next values accepted =>
      accepted.values (Line.not_mem_of_mem_words member) values
  · intro name value found
    cases found

/-- A line whose words are refused is no command, for the reason given there. -/
theorem Spec.parse_of_walk_error {spec : Spec Code Handler Source} {line : String} {e : ParseError}
    (refused : spec.walk line (Line.split line).words = .error e) : spec.parse line = .error e := by
  unfold Spec.parse
  cases words : (Line.split line).words with
  | nil => simp [words, Spec.walk, Walk.steps] at refused
  | cons token rest =>
    rw [words] at refused
    simp only [bind, Except.bind, refused]

end Steering.Grammar
