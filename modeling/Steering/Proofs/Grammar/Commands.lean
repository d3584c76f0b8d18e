import Steering.Proofs.Grammar.Reading

/-!
# Running what is listed

`Spec.commands` lists exactly the complete commands that `Spec.find?` finds
(`Spec.mem_commands_iff`), in increasing order of their words (`commands_in_order`). In a grammar
without defects the words of a listed command, followed by one value for each of its required
arguments, are a command line. `parse_listed` says which command that line runs: the first complete
one on the way. So a command below another command is listed, but the line made of its words does
not run it (`nested_command_not_run`).
-/

namespace Steering.Grammar

variable {Code Handler Source : Type}

/-! ### The list of commands -/

mutual

/-- What is listed below a fragment is what its words lead to, if the words under each fragment
increase. -/
theorem Fragment.mem_commandsBelow_iff (path words : List String)
    (g : Fragment Code Handler Source) :
    (f : Fragment Code Handler Source) → f.Ordered →
    ((words, g) ∈ f.commandsBelow path ↔
      ∃ rest, rest ≠ [] ∧ words = path ++ rest ∧ f.find? rest = some g ∧ g.isTerminal = true)
  | ⟨_, _, _, _, _, sub⟩, ordered => by
    rw [Fragment.Ordered] at ordered
    rw [Fragment.commandsBelow, mem_commandsAmong_iff path words g sub ordered.1 ordered.2]
    constructor
    · rintro ⟨word, rest, child, rfl, found, deeper, terminal⟩
      exact ⟨word :: rest, List.cons_ne_nil _ _, rfl, by simp [Fragment.find?, found, deeper],
        terminal⟩
    · rintro ⟨rest, nonempty, rfl, found, terminal⟩
      obtain ⟨word, rest, rfl⟩ := List.exists_cons_of_ne_nil nonempty
      rw [Fragment.find?, Option.bind_eq_some_iff] at found
      obtain ⟨child, found, deeper⟩ := found
      exact ⟨word, rest, child, rfl, found, deeper, terminal⟩

theorem mem_commandsAmong_iff (path words : List String) (g : Fragment Code Handler Source) :
    (sub : List (String × Fragment Code Handler Source)) →
    Entries.Sorted sub → Fragment.BranchesOrdered sub →
    ((words, g) ∈ Fragment.commandsAmong path sub ↔
      ∃ word rest child, words = path ++ word :: rest ∧ Entries.find? word sub = some child ∧
        child.find? rest = some g ∧ g.isTerminal = true)
  | [], _, _ => by simp [Fragment.commandsAmong, Entries.find?]
  | (first, child) :: others, sorted, ordered => by
    rw [Fragment.BranchesOrdered] at ordered
    have later := mem_commandsAmong_iff path words g others (List.pairwise_cons.mp sorted).2
      ordered.2
    have below := Fragment.mem_commandsBelow_iff (path ++ [first]) words g child ordered.1
    rw [Fragment.commandsAmong, List.mem_append, List.mem_append, later, below]
    constructor
    · rintro ((here | ⟨rest, _, rfl, deeper, terminal⟩) |
        ⟨word, rest, next, rfl, found, deeper, terminal⟩)
      · split at here
        next terminal =>
          simp only [List.mem_singleton, Prod.mk.injEq] at here
          obtain ⟨rfl, rfl⟩ := here
          exact ⟨first, [], g, by simp, by simp [Entries.find?], rfl, terminal⟩
        next => simp at here
      · exact ⟨first, rest, child, by simp, by simp [Entries.find?], deeper, terminal⟩
      · -- The first word is not among the later ones, so they are found as before.
        have different : first ≠ word := by
          rintro rfl
          rw [sorted.find?_tail] at found
          cases found
        exact ⟨word, rest, next, rfl, by simp [Entries.find?, different, found], deeper, terminal⟩
    · rintro ⟨word, rest, next, rfl, found, deeper, terminal⟩
      rw [Entries.find?] at found
      split at found
      next same =>
        cases found
        subst same
        cases rest with
        | nil =>
          cases deeper
          simp [terminal]
        | cons second rest =>
          exact Or.inl (Or.inr ⟨second :: rest, by simp, by simp, deeper, terminal⟩)
      next => exact Or.inr ⟨word, rest, next, rfl, found, deeper, terminal⟩

end

/-- **The list of commands** has every complete command of the grammar, with its words. -/
theorem Spec.mem_commands_iff {spec : Spec Code Handler Source} {words : List String}
    {f : Fragment Code Handler Source} :
    (words, f) ∈ spec.commands ↔ words ≠ [] ∧ spec.find? words = some f ∧ f.isTerminal = true := by
  rw [Spec.commands, Fragment.mem_commandsBelow_iff [] words f _ spec.root_ordered]
  constructor
  · rintro ⟨rest, nonempty, rfl, found⟩
    exact ⟨nonempty, found⟩
  · rintro ⟨nonempty, found⟩
    exact ⟨words, nonempty, rfl, found⟩

/-! ### The order of the list -/

/-- Words come before the same words with more words behind them. -/
theorem lt_append_cons (path : List String) (word : String) (rest : List String) :
    path < path ++ word :: rest := by
  have shorter : path ++ [] < path ++ word :: rest := List.append_left_lt (List.nil_lt_cons _ _)
  rwa [List.append_nil] at shorter

/-- Under one path the first different word decides. -/
theorem append_cons_lt {word later : String} (less : word < later) (path rest more : List String) :
    path ++ word :: rest < path ++ later :: more :=
  List.append_left_lt (List.cons_lt_cons_iff.mpr (Or.inl less))

/-- What is listed below a fragment has more words than the fragment. -/
theorem Fragment.words_of_mem_commandsBelow {path : List String}
    {child : Fragment Code Handler Source} (ordered : child.Ordered)
    {e : List String × Fragment Code Handler Source} (listed : e ∈ child.commandsBelow path) :
    ∃ next more, e.1 = path ++ next :: more := by
  obtain ⟨rest, nonempty, words, _⟩ :=
    (Fragment.mem_commandsBelow_iff path e.1 e.2 child ordered).mp listed
  obtain ⟨next, more, rfl⟩ := List.exists_cons_of_ne_nil nonempty
  exact ⟨next, more, words⟩

mutual

theorem Fragment.commandsBelow_increase (path : List String) :
    (f : Fragment Code Handler Source) → f.Ordered →
    (f.commandsBelow path).Pairwise fun a b => a.1 < b.1
  | ⟨_, _, _, _, _, sub⟩, ordered => by
    rw [Fragment.Ordered] at ordered
    rw [Fragment.commandsBelow]
    exact commandsAmong_increase path sub ordered.1 ordered.2

theorem commandsAmong_increase (path : List String) :
    (sub : List (String × Fragment Code Handler Source)) →
    Entries.Sorted sub → Fragment.BranchesOrdered sub →
    (Fragment.commandsAmong path sub).Pairwise fun a b => a.1 < b.1
  | [], _, _ => by simp [Fragment.commandsAmong]
  | (word, child) :: others, sorted, ordered => by
    rw [Fragment.BranchesOrdered] at ordered
    obtain ⟨first, sortedOthers⟩ := List.pairwise_cons.mp sorted
    have itself : ∀ e ∈ if child.isTerminal then [(path ++ [word], child)] else [],
        e.1 = path ++ [word] := by
      intro e member
      split at member
      · rw [List.mem_singleton.mp member]
      · cases member
    rw [Fragment.commandsAmong]
    refine List.pairwise_append.mpr ⟨List.pairwise_append.mpr ⟨by split <;> simp,
      Fragment.commandsBelow_increase _ child ordered.1, fun a top b deeper => ?_⟩,
      commandsAmong_increase path others sortedOthers ordered.2, fun a early b late => ?_⟩
    · -- The fragment comes before what is below it, with a beginning of its words.
      obtain ⟨next, more, words⟩ := Fragment.words_of_mem_commandsBelow ordered.1 deeper
      rw [itself a top, words]
      exact lt_append_cons _ _ _
    · -- Both come before the other fragments, whose words are greater.
      obtain ⟨later, more, next, laterWords, found, _⟩ :=
        (mem_commandsAmong_iff path b.1 b.2 others sortedOthers ordered.2).mp late
      have greater : word < later := first _ (Entries.mem_of_find? found)
      rw [laterWords]
      rcases List.mem_append.mp early with top | deeper
      · rw [itself a top]
        exact append_cons_lt greater _ _ _
      · obtain ⟨next, rest, words⟩ := Fragment.words_of_mem_commandsBelow ordered.1 deeper
        rw [words, List.append_assoc, List.singleton_append]
        exact append_cons_lt greater _ _ _

end

/-- **The list of commands is in order and complete.** The words of the listed commands increase, so
that none is listed twice, and the commands listed are those that their words lead to. -/
theorem commands_in_order (spec : Spec Code Handler Source) :
    (spec.commands.map (·.1)).Pairwise (· < ·) ∧
    ∀ words f, (words, f) ∈ spec.commands ↔
      words ≠ [] ∧ spec.find? words = some f ∧ f.isTerminal = true :=
  ⟨List.pairwise_map.mpr (Fragment.commandsBelow_increase [] spec.root spec.root_ordered),
    fun _ _ => Spec.mem_commands_iff⟩

/-! ### Trails -/

theorem Fragment.trail?_length {f : Fragment Code Handler Source} {words : List String}
    {trail : List (Fragment Code Handler Source)} (leads : f.trail? words = some trail) :
    trail.length = words.length := by
  induction words generalizing f trail with
  | nil =>
    cases leads
    rfl
  | cons word rest ih =>
    rw [Fragment.trail?, Option.bind_eq_some_iff] at leads
    obtain ⟨child, _, leads⟩ := leads
    obtain ⟨deeper, onward, rfl⟩ := Option.map_eq_some_iff.mp leads
    rw [List.length_cons, List.length_cons, ih onward]

/-- The first words of a trail lead along its beginning. -/
theorem Fragment.trail?_append {f : Fragment Code Handler Source} {words more : List String}
    {trail : List (Fragment Code Handler Source)} (leads : f.trail? (words ++ more) = some trail) :
    ∃ first last, trail = first ++ last ∧ f.trail? words = some first ∧
      last.length = more.length := by
  induction words generalizing f trail with
  | nil => exact ⟨[], trail, rfl, rfl, trail?_length leads⟩
  | cons word rest ih =>
    rw [List.cons_append, Fragment.trail?, Option.bind_eq_some_iff] at leads
    obtain ⟨child, found, leads⟩ := leads
    obtain ⟨deeper, onward, rfl⟩ := Option.map_eq_some_iff.mp leads
    obtain ⟨first, last, rfl, begun, ends⟩ := ih onward
    exact ⟨child :: first, last, rfl, by simp [Fragment.trail?, found, begun], ends⟩

/-- A trail that goes on passes the end of the shorter one. -/
theorem Fragment.mem_above_of_trail? {f g h : Fragment Code Handler Source}
    {words more : List String} {above passed : List (Fragment Code Handler Source)}
    (short : f.trail? words = some (passed ++ [g]))
    (long : f.trail? (words ++ more) = some (above ++ [h])) (goesOn : more ≠ []) : g ∈ above := by
  obtain ⟨first, last, trail, begun, ends⟩ := trail?_append long
  rw [short, Option.some.injEq] at begun
  subst begun
  rcases List.eq_nil_or_concat last with rfl | ⟨init, k, rfl⟩
  · exact absurd (List.length_eq_zero_iff.mp ends.symm) goesOn
  · rw [List.concat_eq_append, ← List.append_assoc] at trail
    rw [(List.append_inj' trail rfl).1]
    simp

/-- Words that lead anywhere from a fragment of the grammar are words of the grammar, and the last
of them stands at the fragment they lead to. -/
theorem Spec.Has.words {spec : Spec Code Handler Source} {f g : Fragment Code Handler Source}
    (has : spec.Has f) {words : List String} (found : f.find? words = some g) :
    (∀ word ∈ words, ∃ h, (word, h) ∈ spec.fragments) ∧
      (words ≠ [] → ∃ word, (word, g) ∈ spec.fragments) := by
  induction words generalizing f with
  | nil => simp
  | cons word rest ih =>
    rw [Fragment.find?, Option.bind_eq_some_iff] at found
    obtain ⟨child, first, deeper⟩ := found
    have member := has.child first
    obtain ⟨others, ends⟩ := ih (Or.inr ⟨word, member⟩) deeper
    refine ⟨List.forall_mem_cons.mpr ⟨⟨child, member⟩, others⟩, fun _ => ?_⟩
    cases rest with
    | nil =>
      cases deeper
      exact ⟨word, member⟩
    | cons next rest => exact ends (List.cons_ne_nil _ _)

/-- The words of a fragment of a sound grammar lead to it, and on the way to what their beginnings
lead to. -/
theorem Spec.Has.trail {spec : Spec Code Handler Source} (valid : spec.defects = [])
    {f g : Fragment Code Handler Source} (has : spec.Has f) {words : List String}
    (nonempty : words ≠ []) (found : f.find? words = some g) :
    ∃ above, f.trail? words = some (above ++ [g]) ∧
      ∀ h ∈ above, ∃ n, 0 < n ∧ n < words.length ∧ f.find? (words.take n) = some h := by
  induction words generalizing f with
  | nil => exact absurd rfl nonempty
  | cons word rest ih =>
    rw [Fragment.find?, Option.bind_eq_some_iff] at found
    obtain ⟨child, first, deeper⟩ := found
    have member := has.child first
    -- The word is found as it is written, since it has no capitals.
    have lowered : Text.lower word = word := (Spec.sound_of_mem valid member).lowercase
    cases rest with
    | nil =>
      cases deeper
      exact ⟨[], by simp [Fragment.trail?, lowered, first], by simp⟩
    | cons next rest =>
      obtain ⟨above, leads, passed⟩ := ih (Or.inr ⟨word, member⟩) (List.cons_ne_nil _ _) deeper
      have whole : f.trail? (word :: next :: rest) = some (child :: above ++ [g]) := by
        rw [Fragment.trail?, lowered, first, Option.bind_some, leads]
        rfl
      refine ⟨child :: above, whole, ?_⟩
      intro h passes
      rcases List.mem_cons.mp passes with rfl | passes
      · exact ⟨1, Nat.one_pos, by simp, by simp [Fragment.find?, first]⟩
      · obtain ⟨n, _, within, there⟩ := passed h passes
        exact ⟨n + 1, Nat.succ_pos n, Nat.succ_lt_succ within,
          by simp [Fragment.find?, first, there]⟩

/-! ### Values for the required arguments -/

/-- A text that can stand on a line in the place of a positional argument. -/
def IsPlainValue (text : String) : Prop :=
  text ≠ "" ∧ Line.IsPlain text ∧ isMarked text = false

instance (text : String) : Decidable (IsPlainValue text) :=
  inferInstanceAs (Decidable (text ≠ "" ∧ Line.IsPlain text ∧ isMarked text = false))

/-- The number of arguments that a command cannot do without. -/
def Fragment.requiredCount (f : Fragment Code Handler Source) : Nat :=
  f.positional.countP fun arg => !arg.optional

/-- Behind an optional argument a fragment without defects has no required one. -/
theorem optional_of_positionalDefects {path names : List String}
    {args : List (PositionalArg Source)}
    (clean : positionalDefects path names true args = []) :
    ∀ arg ∈ args, arg.optional = true := by
  intro arg member
  by_contra required
  have listed : .requiredAfterOptional path arg.name ∈ positionalDefects path names true args :=
    requiredAfterOptional_mem_positional.mpr
      ⟨arg, rfl, Bool.eq_false_iff.mpr required, Or.inl ⟨rfl, member⟩⟩
  rw [clean] at listed
  cases listed

theorem Fragment.Sound.positional {word : String} {f : Fragment Code Handler Source}
    (sound : f.Sound word) :
    ∃ path names, positionalDefects path names false f.positional = [] := by
  obtain ⟨path, inherited, clean⟩ := sound.faultless
  simp only [Fragment.ownDefects, List.append_eq_nil_iff] at clean
  exact ⟨path, _, clean.2⟩

/-- The required arguments of a fragment without defects come first. -/
theorem optional_behind_required {path names : List String} {seen : Bool}
    {args : List (PositionalArg Source)} (clean : positionalDefects path names seen args = [])
    {arg : PositionalArg Source}
    (due : args[args.countP fun arg => !arg.optional]? = some arg) : arg.optional = true := by
  induction args generalizing names seen with
  | nil => simp at due
  | cons first rest ih =>
    have others := clean
    simp only [positionalDefects, List.append_eq_nil_iff] at others
    cases optional : first.optional with
    | false =>
      rw [List.countP_cons_of_pos (by simp [optional]), List.getElem?_cons_succ] at due
      exact ih others.2 due
    | true =>
      -- No argument is required from here on.
      have behind : ∀ arg ∈ first :: rest, arg.optional = true := by
        rw [optional, Bool.or_true] at others
        exact List.forall_mem_cons.mpr ⟨optional, optional_of_positionalDefects others.2⟩
      exact behind arg (List.mem_of_getElem? due)

/-! ### The line of a listed command -/

/-- The words lead to no complete command before their end. -/
def Spec.FirstOn (spec : Spec Code Handler Source) (words : List String) : Prop :=
  ∀ n < words.length, 0 < n → (spec.find? (words.take n)).all (fun f => !f.isTerminal) = true

instance (spec : Spec Code Handler Source) (words : List String) : Decidable (spec.FirstOn words) :=
  inferInstanceAs (Decidable (∀ n < words.length, 0 < n →
    (spec.find? (words.take n)).all (fun f => !f.isTerminal) = true))

theorem Spec.FirstOn.not_terminal {spec : Spec Code Handler Source} {words : List String}
    (first : spec.FirstOn words) {n : Nat} (pos : 0 < n) (within : n < words.length)
    {f : Fragment Code Handler Source} (found : spec.find? (words.take n) = some f) :
    f.isTerminal = false := by
  have := first n within pos
  simpa [found] using this

/-- The line of a listed command: its words and a value for each required argument, one space
apart. -/
def listedLine (path values : List String) : String := String.intercalate " " (path ++ values)

theorem words_listedLine {path values : List String}
    (plainPath : ∀ word ∈ path, word ≠ "" ∧ Line.IsPlain word)
    (plainValues : ∀ value ∈ values, IsPlainValue value) :
    (Line.split (listedLine path values)).words = path ++ values := by
  have plain : ∀ word ∈ path ++ values, word ≠ "" ∧ Line.IsPlain word := by
    intro word member
    rcases List.mem_append.mp member with member | member
    · exact plainPath word member
    · exact ⟨(plainValues word member).1, (plainValues word member).2.1⟩
  rw [listedLine, ← Line.ofWords_of_plain plain]
  exact Line.words_ofWords _ fun word member => (plain word member).2.2

section Listed

variable {spec : Spec Code Handler Source} {path values : List String}
  {f : Fragment Code Handler Source}

/-- The reading of the line of a listed command, if no other command comes first. -/
theorem exists_reading_of_listed (valid : spec.defects = []) (listed : (path, f) ∈ spec.commands)
    (first : spec.FirstOn path) (enough : values.length = f.requiredCount)
    (bare : ∀ value ∈ values, isMarked value = false) :
    ∃ r : Reading spec, r.tokens = path ++ values ∧ r.fragment = f := by
  obtain ⟨nonempty, found, terminal⟩ := Spec.mem_commands_iff.mp listed
  obtain ⟨above, leads, passed⟩ := Spec.Has.trail valid (Or.inl rfl) nonempty found
  obtain ⟨code, isCommand⟩ := Option.isSome_iff_exists.mp terminal
  obtain ⟨word, member⟩ := (Spec.Has.words (Or.inl rfl) found).2 nonempty
  obtain ⟨_, _, clean⟩ := (Spec.sound_of_mem valid member).positional
  refine ⟨⟨path, above, f, code, values, [], leads, ?_, isCommand, bare, ?_, ?_, by simp⟩, by
    simp [Reading.tokens], rfl⟩
  · intro h passes
    obtain ⟨n, pos, within, there⟩ := passed h passes
    exact first.not_terminal pos within there
  · rw [enough]
    exact List.countP_le_length
  · intro arg due
    rw [enough] at due
    exact optional_behind_required clean due

/-- A reading of the line of a listed command ends at the first command on the way. -/
theorem fragment_of_reading (valid : spec.defects = []) (r : Reading spec)
    (tokens : r.tokens = path ++ values) {n : Nat} (pos : 0 < n) (within : n ≤ path.length)
    (found : spec.find? (path.take n) = some f) (terminal : f.isTerminal = true)
    (first : spec.FirstOn (path.take n)) : r.fragment = f := by
  have nonempty : path.take n ≠ [] := by
    rw [← List.length_pos_iff, List.length_take]
    omega
  obtain ⟨above, leads, passed⟩ := Spec.Has.trail valid (Or.inl rfl) nonempty found
  have arrives : r.fragment.isTerminal = true := by
    rw [Fragment.isTerminal, r.isCommand]
    rfl
  have byReading : r.words <+: path ++ values := by
    rw [← tokens, Reading.tokens, List.append_assoc]
    exact List.prefix_append _ _
  have byPath : path.take n <+: path ++ values :=
    (List.take_prefix n path).trans (List.prefix_append _ _)
  rcases List.prefix_or_prefix_of_prefix byReading byPath with ⟨more, whole⟩ | ⟨more, whole⟩
  · -- The reading cannot end earlier, where there is no command.
    rcases List.eq_nil_or_concat more with rfl | ⟨_, _, rfl⟩
    · rw [List.append_nil] at whole
      have same := r.leads
      rw [whole, leads, Option.some.injEq] at same
      simpa using (List.append_inj' same rfl).2.symm
    · rw [← whole] at leads
      obtain ⟨m, posM, withinM, there⟩ :=
        passed _ (Fragment.mem_above_of_trail? r.leads leads (by simp))
      rw [first.not_terminal posM withinM there] at arrives
      cases arrives
  · -- It cannot go past the command either.
    rcases List.eq_nil_or_concat more with rfl | ⟨_, _, rfl⟩
    · rw [List.append_nil] at whole
      have same := r.leads
      rw [← whole, leads, Option.some.injEq] at same
      simpa using (List.append_inj' same rfl).2.symm
    · have later := r.leads
      rw [← whole] at later
      have passes := Fragment.mem_above_of_trail? leads later (by simp)
      rw [r.noneEarlier f passes] at terminal
      cases terminal

end Listed

/-- **A listed command can be run unless another command comes first.** In a sound grammar whose
command words are plain, take the words of a listed command and a value for each of its required
arguments. The line that they make is a command, with the listed code, if no beginning of the words
is a command itself. If one is, the line can only be the first such command. -/
theorem parse_listed (spec : Spec Code Handler Source) (valid : spec.defects = [])
    {path : List String} {f : Fragment Code Handler Source} (listed : (path, f) ∈ spec.commands)
    (plain : ∀ word ∈ path, Line.IsPlain word) {values : List String}
    (enough : values.length = f.requiredCount)
    (plainValues : ∀ value ∈ values, IsPlainValue value) :
    (spec.FirstOn path →
      ∃ cmd, spec.parse (listedLine path values) = .ok cmd ∧ f.code = some cmd.code) ∧
    ∀ n g, 0 < n → n < path.length → spec.find? (path.take n) = some g → g.isTerminal = true →
      spec.FirstOn (path.take n) →
      ∀ cmd, spec.parse (listedLine path values) = .ok cmd → g.code = some cmd.code := by
  have nonblank : ∀ word ∈ path, word ≠ "" ∧ Line.IsPlain word := by
    intro word member
    obtain ⟨_, found, _⟩ := Spec.mem_commands_iff.mp listed
    obtain ⟨_, there⟩ := (Spec.Has.words (Or.inl rfl) found).1 word member
    exact ⟨(Spec.sound_of_mem valid there).word_ne_empty, plain word member⟩
  have words := words_listedLine nonblank plainValues
  constructor
  · intro first
    obtain ⟨r, tokens, rfl⟩ :=
      exists_reading_of_listed valid listed first enough fun value member =>
        (plainValues value member).2.2
    refine ⟨r.command, (spec.parse_eq_ok_iff_walk _ _).mpr ⟨r.walk, ?_, r.walk_finish⟩, r.isCommand⟩
    rw [words, ← tokens]
    exact r.walk_tokens _
  · intro n g pos within found terminal first cmd parsed
    obtain ⟨w, walked, finished⟩ := (spec.parse_eq_ok_iff_walk _ _).mp parsed
    rw [words] at walked
    obtain ⟨r, tokens, rfl⟩ := Reading.exists_of_walk walked finished
    rw [r.walk_finish] at finished
    cases finished
    rw [← fragment_of_reading valid r tokens pos (Nat.le_of_lt within) found terminal first]
    exact r.isCommand

/-- The command `show zone` of the small grammar, with a value for its argument. -/
theorem parse_listed_show_zone :
    ∃ cmd, zoneGrammar.parse "show zone example.com" = .ok cmd ∧ cmd.code = 1 := by
  have listed : (["show", "zone"],
      { description := "Show a zone"
        positional := [{ name := "name", description := "Zone name" }]
        code := some 1 : Fragment Nat String String }) ∈ zoneGrammar.commands :=
    Spec.mem_commands_iff.mpr ⟨by decide, rfl, rfl⟩
  have enough : ["example.com"].length = 1 := rfl
  obtain ⟨runs, _⟩ := parse_listed zoneGrammar (by decide) listed (by decide) enough (by decide)
  obtain ⟨cmd, parsed, code⟩ := runs (by decide)
  exact ⟨cmd, parsed, Option.some.inj code.symm⟩

/-- A grammar in which a command is below another one. -/
def nestedGrammar : Spec Nat String String :=
  .ofCommands [
    ("show",
      { description := "Show all"
        code := some 1
        sub := [("zone", { description := "Show the zone", code := some 2 })] })]

/-- Nothing is wrong with the grammar, and the lower command is listed, but its words do not run
it: the second of them is taken for an argument of the first. -/
theorem nested_command_not_run :
    nestedGrammar.defects = [] ∧
      (["show", "zone"],
        { description := "Show the zone", code := some 2 : Fragment Nat String String }) ∈
          nestedGrammar.commands ∧
      nestedGrammar.parse (listedLine ["show", "zone"] []) =
        .error (.expectedNamedArg "zone") :=
  ⟨by decide, Spec.mem_commands_iff.mpr ⟨by decide, rfl, rfl⟩, rfl⟩

end Steering.Grammar
