import Steering.Proofs.Grammar.Walk

/-!
# Lines that can still become commands

In a grammar without defects no walk gets stuck: wherever one stands, some more words make a
command (`Walk.Within.completes`). From a fragment that is no command the way goes down to the
first fragment below it, and so on to a command; there one value for each argument that is due is
enough. Together with the law on joined lines this says that a line has been accepted so far
exactly if it is the beginning of a command (`walk_ok_iff_exists_command`).
-/

namespace Steering.Grammar

variable {Code Handler Source : Type}

/-- Some words without quotes lead the walk on to a command. -/
def Walk.Completes (w : Walk Code Handler Source) (line : String) : Prop :=
  ∃ tokens final cmd, (∀ token ∈ tokens, '"' ∉ token.toList) ∧
    w.steps line tokens = .ok final ∧ final.finish = .ok cmd

namespace Walk

/-- A word that completes leads on as well. -/
theorem completes_of_accepts {line : String} {w next : Walk Code Handler Source} {token : String}
    (accepted : w.Accepts token next) (unquoted : '"' ∉ token.toList)
    (completes : next.Completes line) : w.Completes line := by
  obtain ⟨tokens, final, cmd, others, walked, finished⟩ := completes
  exact ⟨token :: tokens, final, cmd, List.forall_mem_cons.mpr ⟨unquoted, others⟩,
    accepted.steps walked, finished⟩

/-- A command that awaits no value is complete once all its positional arguments are filled. -/
theorem completes_of_free (line : String) (pending : List (PositionalArg Source))
    (w : Walk Code Handler Source) (due : w.pending = pending)
    (terminal : w.fragment.isTerminal = true) (free : w.awaiting = none) : w.Completes line := by
  induction pending generalizing w with
  | nil =>
    obtain ⟨code, isCommand⟩ := Option.isSome_iff_exists.mp terminal
    refine ⟨[], w, ⟨code, w.args, w.handler⟩, by simp, rfl, ?_⟩
    exact (finish_eq_ok_iff w _).mpr ⟨by simp [Skips, due], free, code, isCommand, rfl⟩
  | cons arg rest ih =>
    -- Any word without a marker will do as a value.
    have accepted : w.Accepts "x" _ := .positional terminal free due (by decide)
    exact completes_of_accepts accepted (by decide) (ih _ rfl terminal free)

/-- At a command a walk can always be completed: with the value that is awaited, if there is one,
and values for the positional arguments. -/
theorem completes_of_terminal (line : String) (w : Walk Code Handler Source)
    (terminal : w.fragment.isTerminal = true) : w.Completes line := by
  cases awaited : w.awaiting with
  | none => exact completes_of_free line w.pending w rfl terminal awaited
  | some pair =>
    obtain ⟨name, arg⟩ := pair
    have accepted : w.Accepts "x" _ := .value terminal awaited (by decide)
    exact completes_of_accepts accepted (by decide)
      (completes_of_free line w.pending _ rfl terminal rfl)

end Walk

/-- The induction down the tree: a sound fragment leads to a command by the first words below. -/
theorem completes_of_alive {spec : Spec Code Handler Source} (valid : spec.defects = [])
    (unquoted : ∀ e ∈ spec.fragments, '"' ∉ e.1.toList) (line : String) :
    (f : Fragment Code Handler Source) → spec.Has f → (f.isTerminal = true ∨ f.sub ≠ []) →
    ∀ w : Walk Code Handler Source, w.fragment = f → w.Completes line
  | ⟨description, positional, named, code, handler, sub⟩, has, alive, w, stands => by
    by_cases terminal : w.fragment.isTerminal = true
    · exact Walk.completes_of_terminal line w terminal
    · match sub with
      | [] => simp [← stands, terminal] at alive
      | (word, child) :: rest =>
        have first : Entries.find? word w.fragment.sub = some child := by
          simp [stands, Entries.find?]
        have member : (word, child) ∈ spec.fragments := (stands ▸ has).child first
        have sound : child.Sound word := Spec.sound_of_mem valid member
        -- The word is found as it is written, since it has no capitals.
        have found : Entries.find? (Text.lower word) w.fragment.sub = some child := by
          rw [sound.lowercase, first]
        have accepted : w.Accepts word (w.descend child) :=
          .word ((Bool.not_eq_true _).mp terminal) found
        exact Walk.completes_of_accepts accepted (unquoted (word, child) member)
          (completes_of_alive valid unquoted line child (Or.inr ⟨word, member⟩) sound.alive _ rfl)

/-- **No dead ends**: wherever a walk in a sound grammar stands, it can be completed. -/
theorem Walk.Within.completes {spec : Spec Code Handler Source} {w : Walk Code Handler Source}
    (within : w.Within spec) (nonempty : spec.topLevel ≠ []) (valid : spec.defects = [])
    (unquoted : ∀ e ∈ spec.fragments, '"' ∉ e.1.toList) (line : String) : w.Completes line := by
  refine completes_of_alive valid unquoted line w.fragment within.has ?_ w rfl
  rcases within.has with root | ⟨word, member⟩
  · rw [root]
    exact Or.inr nonempty
  · exact (Spec.sound_of_mem valid member).alive

/-- **The parser has the correct-prefix property.** In a sound grammar the words of a line are
accepted exactly if the line, a space and some more text are a command. Where a word is refused,
every such continuation is refused for the same reason. -/
theorem walk_ok_iff_exists_command (spec : Spec Code Handler Source) (line : String)
    (nonempty : spec.topLevel ≠ []) (valid : spec.defects = [])
    (unquoted : ∀ e ∈ spec.fragments, '"' ∉ e.1.toList)
    (closed : line.toList.count '"' % 2 = 0) :
    ((∃ w, spec.walk line (Line.split line).words = .ok w) ↔
      ∃ rest cmd, spec.parse (line ++ " " ++ rest) = .ok cmd) ∧
    ∀ e, spec.walk line (Line.split line).words = .error e →
      ∀ rest, spec.parse (line ++ " " ++ rest) = .error (e.onLine (line ++ " " ++ rest)) := by
  have outside : Line.quoteOpen line.toList = false := (Line.quoteOpen_eq_false_iff _).mpr closed
  refine ⟨⟨?_, ?_⟩, ?_⟩
  · rintro ⟨w, walked⟩
    have within : w.Within spec := Spec.walk_within walked
    obtain ⟨tokens, final, cmd, plain, onward, finished⟩ :=
      within.completes nonempty valid unquoted line
    refine ⟨Line.ofWords tokens, cmd, (spec.parse_eq_ok_iff_walk _ cmd).mpr ⟨final, ?_, finished⟩⟩
    rw [Line.words_append_space _ _ outside, Line.words_ofWords tokens plain]
    apply Walk.steps_ok_onLine
    exact (Walk.steps_append_eq_ok_iff line _ _ _ final).mpr ⟨w, walked, onward⟩
  · rintro ⟨rest, cmd, parsed⟩
    obtain ⟨final, walked, _⟩ := (spec.parse_eq_ok_iff_walk _ cmd).mp parsed
    rw [Line.words_append_space _ _ outside] at walked
    obtain ⟨w, walked, _⟩ := (Walk.steps_append_eq_ok_iff _ _ _ _ final).mp walked
    exact ⟨w, Walk.steps_ok_onLine line walked⟩
  · intro e refused rest
    apply Spec.parse_of_walk_error
    have there := Walk.steps_error_onLine (line ++ " " ++ rest) refused
    rw [Line.words_append_space _ _ outside, Spec.walk, Walk.steps_append, there]
    rfl

/-- Two words, one in capitals and one in quotes, can be completed; with a name in the place of the
required argument they cannot, whatever follows. -/
theorem walk_ok_iff_exists_command_below_show :
    (∃ rest cmd, zoneGrammar.parse ("SHOW \"zone\"" ++ " " ++ rest) = .ok cmd) ∧
      ∀ rest, zoneGrammar.parse ("show zone -raw" ++ " " ++ rest) =
        .error (.missingPositional "name") := by
  have accepted := walk_ok_iff_exists_command zoneGrammar "SHOW \"zone\"" (List.cons_ne_nil _ _)
    (by decide) (by decide) (by decide)
  have refused := walk_ok_iff_exists_command zoneGrammar "show zone -raw" (List.cons_ne_nil _ _)
    (by decide) (by decide) (by decide)
  exact ⟨accepted.1.mp ⟨_, rfl⟩, refused.2 (.missingPositional "name") rfl⟩

end Steering.Grammar
