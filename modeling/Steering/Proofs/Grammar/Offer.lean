import Steering.Proofs.Grammar.Completion
import Steering.Proofs.Line.Typed

/-!
# What is suggested can be taken

Whatever a grammar suggests for a line spells a word that the walk along the line takes next, unless
it is the placeholder of an argument, which only repeats what has been typed (`Spec.suggest_taken`).
The candidates for a value come from a source, so this asks of the sources of the grammar that they
answer with words that can be values (`Spec.Sourced`). Which sources a walk can come to ask is an
invariant of the walk (`Walk.Due`).
-/

namespace Steering.Grammar

variable {Code Handler Source : Type} {spec : Spec Code Handler Source}

/-! ### What a walk waits for -/

/-- The arguments that a walk waits for come from the grammar, and it waits for the value of one at
a command only. -/
structure Walk.Due (spec : Spec Code Handler Source) (w : Walk Code Handler Source) : Prop
    extends w.Within spec where
  pending : ∀ arg ∈ w.pending, ∃ e ∈ spec.fragments, arg ∈ e.2.positional
  awaited : ∀ name arg, w.awaiting = some (name, arg) →
    w.fragment.isTerminal = true ∧ ∃ e ∈ spec.fragments, e.2.named.get? name = some arg

theorem Walk.due_start (spec : Spec Code Handler Source) : (Walk.start spec.root).Due spec where
  toWithin := Walk.within_start spec
  pending := List.forall_mem_nil _
  awaited := nofun

theorem Walk.Due.accepts {w next : Walk Code Handler Source} {token : String} (due : w.Due spec)
    (accepted : w.Accepts token next) : next.Due spec := by
  have within := due.toWithin.accepts accepted
  cases accepted with
  | word descending found =>
    -- A walk that still descends has not come to a command, and so waits for no value.
    refine ⟨within, fun arg isDue => ⟨_, due.has.child found, isDue⟩, fun name arg awaited => ?_⟩
    simp [(due.awaited name arg awaited).1] at descending
  | positional terminal free isDue bare =>
    refine ⟨within, fun arg later => due.pending arg ?_, due.awaited⟩
    exact isDue ▸ List.mem_cons_of_mem _ later
  | flag => exact ⟨within, List.forall_mem_nil _, due.awaited⟩
  | opens terminal free skips marked declared isValue =>
    refine ⟨within, List.forall_mem_nil _, ?_⟩
    rintro _ _ ⟨⟩
    exact ⟨terminal, due.declared _ _ declared⟩
  | value => exact ⟨within, due.pending, nofun⟩

theorem Spec.walk_due {line : String} {tokens : List String} {w : Walk Code Handler Source}
    (walked : spec.walk line tokens = .ok w) : w.Due spec :=
  Walk.steps_preserves (Walk.Due spec) line _ tokens w
    (fun _ _ _ _ due accepted => due.accepts accepted) (Walk.due_start spec) walked

/-! ### What sources answer -/

/-- An argument of the grammar has this source. -/
def Spec.Asks (spec : Spec Code Handler Source) (source : Source) : Prop :=
  ∃ e ∈ spec.fragments, (∃ arg ∈ e.2.positional, arg.source = some source) ∨
    ∃ name arg, e.2.named.get? name = some arg ∧ arg.source = some source

/-- The sources of the grammar answer with words that can be values. -/
def Spec.Sourced (spec : Spec Code Handler Source) (answer : Source → String → List Suggestion) :
    Prop :=
  ∀ source, spec.Asks source → ∀ typed, ∀ s ∈ answer source typed, s.text ≠ "" →
    ∃ word, Line.Spells s.text word ∧ isMarked word = false

theorem Walk.Due.asks_pending {w : Walk Code Handler Source} {arg : PositionalArg Source}
    (due : w.Due spec) (isDue : arg ∈ w.pending) : ∀ source ∈ arg.source, spec.Asks source := by
  intro source isSource
  obtain ⟨e, isFragment, declared⟩ := due.pending arg isDue
  exact ⟨e, isFragment, .inl ⟨arg, declared, isSource⟩⟩

theorem Walk.Due.asks_awaited {w : Walk Code Handler Source} {name : String} {arg : NamedArg Source}
    (due : w.Due spec) (awaited : w.awaiting = some (name, arg)) :
    ∀ source ∈ arg.source, spec.Asks source := by
  intro source isSource
  obtain ⟨-, e, isFragment, declared⟩ := due.awaited name arg awaited
  exact ⟨e, isFragment, .inr ⟨name, arg, declared, isSource⟩⟩

def Completion.suggestions (answer : Source → String → List Suggestion) :
    Completion Source → List Suggestion
  | .list suggestions => suggestions
  | .ask source typed => answer source typed

theorem Spec.suggest_eq (answer : Source → String → List Suggestion) (line : String) :
    spec.suggest answer line = (spec.complete line).suggestions answer := by
  unfold Spec.suggest
  cases spec.complete line <;> rfl

/-! ### What is suggested -/

namespace Walk

variable {w : Walk Code Handler Source} {typed : String}
variable {answer : Source → String → List Suggestion}

/-- The text spells a word that the walk takes next. -/
def Takes (w : Walk Code Handler Source) (text : String) : Prop :=
  ∃ word next, Line.Spells text word ∧ w.Accepts word next

/-- The walk takes any word that does not look like a name. -/
def TakesValue (w : Walk Code Handler Source) : Prop :=
  ∀ word, isMarked word = false → ∃ next, w.Accepts word next

theorem takesValue_of_positional {arg : PositionalArg Source}
    (role : w.role typed = .positional arg) : w.TakesValue := by
  obtain ⟨terminal, free, first, -⟩ := role_eq_positional_iff.mp role
  obtain ⟨rest, due⟩ := List.head?_eq_some_iff.mp first
  exact fun word bare => ⟨_, .positional terminal free due bare⟩

theorem takesValue_of_awaiting {name : String} {arg : NamedArg Source}
    (terminal : w.fragment.isTerminal = true) (awaited : w.awaiting = some (name, arg)) :
    w.TakesValue :=
  fun _ bare => ⟨_, .value terminal awaited bare⟩

/-- The placeholder of a value repeats what has been typed. -/
def Repeats (w : Walk Code Handler Source) (typed text : String) : Prop :=
  text = typed ∧ ' ' ∉ typed.toList ∧ w.TakesValue

theorem takes_of_offerValue {source : Option Source} {name description : String}
    (sourced : spec.Sourced answer) (asks : ∀ s ∈ source, spec.Asks s) (values : w.TakesValue)
    (oneWord : ' ' ∉ typed.toList) :
    ∀ s ∈ (offerValue source name description typed).suggestions answer, s.text ≠ "" →
      w.Takes s.text ∨ w.Repeats typed s.text := by
  intro s member nonempty
  cases source with
  | none =>
    obtain rfl := List.mem_singleton.mp member
    exact .inr ⟨rfl, oneWord, values⟩
  | some source =>
    obtain ⟨word, spells, bare⟩ := sourced source (asks source rfl) typed s member nonempty
    obtain ⟨next, accepted⟩ := values word bare
    exact .inl ⟨word, next, spells, accepted⟩

/-! Where a command word or a name can follow. -/

/-- Where a command word is due, no value is. -/
theorem Due.takesName_of_descending (due : w.Due spec)
    (descending : w.fragment.isTerminal = false) : w.TakesName typed := by
  refine ⟨Option.eq_none_iff_forall_ne_some.mpr fun pair awaited => ?_, .inl descending⟩
  simp [(due.awaited pair.1 pair.2 awaited).1] at descending

theorem takesName_of_argName (role : w.role typed = .argName) : w.TakesName typed := by
  obtain ⟨terminal, free, skips, place⟩ := role_eq_argName_iff.mp role
  refine ⟨free, .inr ?_⟩
  cases first : w.pending.head? with
  | none => exact .inl (List.head?_eq_none_iff.mp first)
  | some arg => exact place.imp_right fun marked => ⟨arg, rfl, skips arg first, marked⟩

variable (valid : spec.defects = [])
  (plain : ∀ e ∈ spec.fragments, Line.IsPlain e.1 ∧ ∀ name ∈ e.2.named.keys, Line.IsPlain name)

include valid plain

/-- The words and names that are offered can be taken as they are. -/
theorem Within.takes_of_offered (within : w.Within spec) (takes : w.TakesName typed) :
    ∀ s ∈ w.offered, w.Takes s.text := by
  intro s member
  have expects : w.Expects s.text := (w.mem_offered_iff _).mp (List.mem_map_of_mem member)
  obtain ⟨isPlain, nonempty⟩ := within.plain_of_expects valid plain expects
  obtain ⟨next, accepted, -⟩ := within.accepts_of_expects valid takes expects
  exact ⟨s.text, next, .bare isPlain nonempty, accepted⟩

theorem Due.completeToken_takes (due : w.Due spec) (sourced : spec.Sourced answer) :
    ∀ s ∈ (w.completeToken typed).suggestions answer, s.text ≠ "" →
      w.Takes s.text ∨ w.Repeats typed s.text := by
  intro s member nonempty
  have named (takes : w.TakesName typed) : w.Takes s.text := by
    rw [completeToken_of_takesName takes] at member
    exact due.toWithin.takes_of_offered valid plain takes s (List.mem_filter.mp member).1
  cases role : w.role typed with
  | commandWord =>
    exact .inl (named (due.takesName_of_descending (role_eq_commandWord_iff.mp role)))
  | argName => exact .inl (named (takesName_of_argName role))
  -- At a value the source is asked, or the placeholder offered.
  | positional arg =>
    have isDue : arg ∈ w.pending := List.mem_of_mem_head? (role_eq_positional_iff.mp role).2.2.1
    simp only [completeToken, role] at member
    split at member
    · -- A value with a space in it is not completed.
      exact absurd member List.not_mem_nil
    next oneWord =>
      exact takes_of_offerValue sourced (due.asks_pending isDue) (takesValue_of_positional role)
        (by simpa using oneWord) s member nonempty
  | argValue name arg =>
    obtain ⟨terminal, awaited⟩ := role_eq_argValue_iff.mp role
    simp only [completeToken, role] at member
    split at member
    · exact absurd member List.not_mem_nil
    next oneWord =>
      simp only [Bool.or_eq_true, not_or] at oneWord
      exact takes_of_offerValue sourced (due.asks_awaited awaited)
        (takesValue_of_awaiting terminal awaited) (by simpa using oneWord.1) s member nonempty

/-- Where nothing has been typed a placeholder has no text. -/
theorem Due.completeNew_takes (due : w.Due spec) (sourced : spec.Sourced answer) :
    ∀ s ∈ w.completeNew.suggestions answer, s.text ≠ "" → w.Takes s.text := by
  intro s member nonempty
  have named (takes : w.TakesName "") : w.Takes s.text := by
    rw [completeNew_of_takesName takes] at member
    exact due.toWithin.takes_of_offered valid plain takes s member
  cases terminal : w.fragment.isTerminal with
  | false => exact named (due.takesName_of_descending terminal)
  | true =>
    cases awaited : w.awaiting with
    | none =>
      cases isDue : w.pending with
      | nil => exact named ⟨awaited, .inr (.inl isDue)⟩
      | cons arg rest =>
        simp only [completeNew, terminal, awaited, isDue, if_true] at member
        obtain rfl := List.mem_singleton.mp member
        exact absurd rfl nonempty
    | some pair =>
      obtain ⟨name, arg⟩ := pair
      simp only [completeNew, terminal, awaited, if_true] at member
      have taken := takes_of_offerValue sourced (due.asks_awaited awaited)
        (takesValue_of_awaiting terminal awaited) (by simp) s member nonempty
      exact taken.resolve_right fun repeats => nonempty repeats.1

end Walk

/-- **What is suggested can be taken.** Behind the words that are kept, a suggestion with a text
spells a word that the walk takes, or it is the placeholder of a value and repeats the word that has
been typed. A quote by itself is no word to complete, and so must not stand behind others. -/
theorem Spec.suggest_taken {answer : Source → String → List Suggestion}
    (valid : spec.defects = [])
    (plain : ∀ e ∈ spec.fragments, Line.IsPlain e.1 ∧ ∀ name ∈ e.2.named.keys, Line.IsPlain name)
    (sourced : spec.Sourced answer) {line : String} {quoted closed : Bool} {kept typed : List Char}
    (cut : Line.Cut quoted closed kept typed) (chars : line.toList = kept ++ typed)
    (lone : typed = ['"'] → Line.wordsFrom false [] kept = []) :
    ∀ s ∈ spec.suggest answer line, s.text ≠ "" →
      ∃ w, spec.walk line (Line.wordsFrom false [] kept) = .ok w ∧
        (w.Takes s.text ∨ ∃ word, '"' ∉ word ∧ Line.TypedAs kept typed word ∧
          w.Repeats (String.ofList word) s.text) := by
  intro s member nonempty
  rw [Spec.suggest_eq] at member
  have words : (Line.split line).words = Line.wordsFrom false [] (kept ++ typed) := by
    rw [← chars]
    rfl
  by_cases nothing : typed = [] ∨ typed = ['"']
  · -- A new word is completed, behind all the words of the line.
    have same := words.trans (cut.words_new nothing)
    have fresh : (Line.split line).atNewWord = true ∨ (Line.split line).words = [] := by
      rcases nothing with isNil | isLone
      -- A lone quote does not end in a space, so it begins a new word on an empty line only.
      · exact cut.atNewWord_or_nil isNil chars
      · exact .inr (same.trans (lone isLone))
    rw [spec.complete_eq_of_fresh fresh, same] at member
    cases walked : spec.walk line (Line.wordsFrom false [] kept) with
    | error e =>
      rw [walked] at member
      exact absurd member List.not_mem_nil
    | ok w =>
      rw [walked] at member
      exact ⟨w, rfl, .inl ((Spec.walk_due walked).completeNew_takes valid plain sourced s member
        nonempty)⟩
  · -- The last word is completed, behind those that are kept.
    obtain ⟨begun, notLone⟩ := not_or.mp nothing
    obtain ⟨word, unquoted, typedAs, more⟩ := cut.words_typing begun notLone
    rw [spec.complete_eq_of_typing (words.trans more) (cut.not_atNewWord begun chars)] at member
    cases walked : spec.walk line (Line.wordsFrom false [] kept) with
    | error e =>
      rw [walked] at member
      exact absurd member List.not_mem_nil
    | ok w =>
      rw [walked] at member
      exact ⟨w, rfl, ((Spec.walk_due walked).completeToken_takes valid plain sourced s member
        nonempty).imp_right fun repeats => ⟨word, unquoted, typedAs, repeats⟩⟩

end Steering.Grammar
