import Steering.Grammar.Completion
import Steering.Proofs.Grammar.Walk

/-!
# Completion and parsing agree

Completion walks a line as parsing does, up to the word that is being typed. Where only a command
word or the name of an argument can follow, it offers exactly the tokens that the walk would take
next and that fit what has been typed (`suggest_eq_expected`).

Where parsing refuses a word that is no longer being typed, completion offers nothing. A word that
is still being typed is looked at in its role only: `suggest_of_refused` says what is offered for
one that would be refused as a value.
-/

namespace Steering.Grammar

variable {Code Handler Source : Type}

/-! ### Where completion takes place -/

/-- At a word that is being typed, completion walks along the words before it. -/
theorem Spec.complete_eq_of_typing (spec : Spec Code Handler Source) {line token : String}
    {before : List String} (words : (Line.split line).words = before ++ [token])
    (typing : (Line.split line).atNewWord = false) :
    spec.complete line =
      match spec.walk line before with
      | .ok w => w.completeToken token
      | .error _ => .nothing := by
  simp only [Spec.complete, words, typing, Bool.false_eq_true, if_false, List.getLast?_concat,
    Option.isSome_some, if_true, List.dropLast_concat]
  cases spec.walk line before <;> rfl

/-- Where no word is being typed, completion walks along all words. -/
theorem Spec.complete_eq_of_fresh (spec : Spec Code Handler Source) {line : String}
    (fresh : (Line.split line).atNewWord = true ∨ (Line.split line).words = []) :
    spec.complete line =
      match spec.walk line (Line.split line).words with
      | .ok w => w.completeNew
      | .error _ => .nothing := by
  have none : (if (Line.split line).atNewWord then none else (Line.split line).words.getLast?) =
      none := by
    rcases fresh with space | noWords
    · simp [space]
    · simp [noWords]
  simp only [Spec.complete, none, Option.isSome_none, Bool.false_eq_true, if_false]
  cases spec.walk line (Line.split line).words <;> rfl

theorem Spec.complete_new {spec : Spec Code Handler Source} {line : String}
    {w : Walk Code Handler Source}
    (fresh : (Line.split line).atNewWord = true ∨ (Line.split line).words = [])
    (walked : spec.walk line (Line.split line).words = .ok w) :
    spec.complete line = w.completeNew := by
  rw [spec.complete_eq_of_fresh fresh, walked]

/-- A walk that is refused at one of its tokens is refused, whatever comes after. -/
theorem Spec.walk_refused {spec : Spec Code Handler Source} {line token : String}
    {before : List String} (after : List String) {w : Walk Code Handler Source} {e : ParseError}
    (walked : spec.walk line before = .ok w) (refused : w.step line token = .error e) :
    spec.walk line (before ++ token :: after) = .error e := by
  rw [Spec.walk] at walked ⊢
  rw [Walk.steps_append, walked]
  simp [Except.bind, Walk.steps, refused]

/-- Nothing is offered behind a word that is refused. -/
theorem Spec.complete_refused {spec : Spec Code Handler Source} {line token : String}
    {before after : List String} {w : Walk Code Handler Source} {e : ParseError}
    (words : (Line.split line).words = before ++ token :: after)
    (settled : after ≠ [] ∨ (Line.split line).atNewWord = true)
    (walked : spec.walk line before = .ok w) (refused : w.step line token = .error e) :
    spec.complete line = .nothing := by
  by_cases space : (Line.split line).atNewWord = true
  · simp [Spec.complete, space, words, Spec.walk_refused after walked refused]
  · -- The word that is typed is the last of those after the refused one.
    obtain ⟨init, last, rfl⟩ :=
      (List.eq_nil_or_concat after).resolve_left (settled.resolve_right space)
    have apart : (Line.split line).words = (before ++ token :: init) ++ [last] := by
      simp [words]
    rw [spec.complete_eq_of_typing apart ((Bool.not_eq_true _).mp space),
      Spec.walk_refused init walked refused]

/-! ### What is offered -/

namespace Walk

/-- The tokens offered where a command word or a name can follow. -/
def offered (w : Walk Code Handler Source) : List Suggestion :=
  if w.fragment.isTerminal then w.nameSuggestions else w.wordSuggestions

/-- What is being typed can only be a command word or the name of an argument. -/
def TakesName (w : Walk Code Handler Source) (typed : String) : Prop :=
  w.awaiting = none ∧ (w.fragment.isTerminal = false ∨ w.pending = [] ∨
    ∃ arg, w.pending.head? = some arg ∧ arg.optional = true ∧ isMarked typed = true)

/-- A token that may come next, as the grammar writes it: a command word below the fragment, or
the name of an argument that has not been given. -/
def Expects (w : Walk Code Handler Source) (token : String) : Prop :=
  if w.fragment.isTerminal then
    ∃ name, token = nameToken name ∧ w.valid.contains name = true ∧ name ∉ w.supplied
  else ∃ child, Entries.find? token w.fragment.sub = some child

/-- The walk has gone on to the fragment of the token, or has noted the argument it names. -/
def MovedBy (w : Walk Code Handler Source) (token : String)
    (next : Walk Code Handler Source) : Prop :=
  if w.fragment.isTerminal then
    ∃ name, token = nameToken name ∧ next.fragment = w.fragment ∧
      next.supplied = name :: w.supplied
  else Entries.find? token w.fragment.sub = some next.fragment

/-- At a command a name can only follow if no required argument is due. -/
theorem TakesName.skips {w : Walk Code Handler Source} {typed : String} (takes : w.TakesName typed)
    (terminal : w.fragment.isTerminal = true) : w.Skips := by
  intro due first
  rcases takes.2 with descending | nothingDue | ⟨arg, head, optional, _⟩
  · simp [terminal] at descending
  · simp [nothingDue] at first
  · rw [head] at first
    cases first
    exact optional

theorem completeToken_of_takesName {w : Walk Code Handler Source} {typed : String}
    (takes : w.TakesName typed) :
    w.completeToken typed = .list (Suggestion.startingWith true typed w.offered) := by
  cases terminal : w.fragment.isTerminal with
  | false =>
    have word : w.role typed = .commandWord := role_eq_commandWord_iff.mpr terminal
    simp [completeToken, word, offered, terminal]
  | true =>
    have named : w.role typed = .argName := by
      refine role_eq_argName_iff.mpr ⟨terminal, takes.1, takes.skips terminal, ?_⟩
      rcases takes.2 with descending | nothingDue | ⟨_, _, _, marked⟩
      · simp [terminal] at descending
      · exact Or.inl nothingDue
      · exact Or.inr marked
    simp [completeToken, named, offered, terminal]

theorem completeNew_of_takesName {w : Walk Code Handler Source} (takes : w.TakesName "") :
    w.completeNew = .list w.offered := by
  obtain ⟨free, place⟩ := takes
  cases terminal : w.fragment.isTerminal with
  | false => simp [completeNew, offered, terminal]
  | true =>
    rcases place with descending | nothingDue | ⟨arg, _, _, marked⟩
    · simp [terminal] at descending
    · simp [completeNew, offered, terminal, free, nothingDue]
    · -- Where nothing has been typed there is no marker either.
      exact absurd marked (by decide)

/-- The texts offered are the tokens that are expected. -/
theorem mem_offered_iff (w : Walk Code Handler Source) (token : String) :
    token ∈ w.offered.map (·.text) ↔ w.Expects token := by
  unfold offered Expects
  split
  next =>
    simp only [nameSuggestions, List.map_map, List.mem_map, List.mem_filter, Function.comp]
    constructor
    · rintro ⟨⟨name, arg⟩, ⟨member, absent⟩, rfl⟩
      refine ⟨name, rfl, Dict.contains_iff.mpr (List.mem_map.mpr ⟨_, member, rfl⟩), ?_⟩
      simpa using absent
    · rintro ⟨name, rfl, valid, absent⟩
      obtain ⟨⟨key, arg⟩, member, rfl⟩ := List.mem_map.mp (Dict.contains_iff.mp valid)
      exact ⟨(key, arg), ⟨member, by simpa using absent⟩, rfl⟩
  next =>
    rw [← Option.isSome_iff_exists, Entries.find?_isSome_iff]
    simp [wordSuggestions]

theorem nameToken_lt {a b : String} (less : a < b) : nameToken a < nameToken b := by
  rw [String.lt_iff, toList_nameToken, toList_nameToken, List.cons_lt_cons_iff]
  exact Or.inr ⟨rfl, String.lt_iff.mp less⟩

/-- What is offered comes in strictly increasing order. -/
theorem Within.offered_sorted {spec : Spec Code Handler Source} {w : Walk Code Handler Source}
    (within : w.Within spec) : (w.offered.map (·.text)).Pairwise (· < ·) := by
  unfold offered
  split
  next =>
    simp only [nameSuggestions, List.map_map, List.pairwise_map, Function.comp]
    exact (w.valid.sorted.filter _).imp nameToken_lt
  next =>
    have words : w.wordSuggestions.map (·.text) = w.fragment.sub.map (·.1) := by
      simp [wordSuggestions]
    rw [words]
    exact within.has.sorted.keys

end Walk

theorem mem_texts_startingWith (typed token : String) (all : List Suggestion) :
    token ∈ (Suggestion.startingWith true typed all).map (·.text) ↔
      token ∈ all.map (·.text) ∧
        Text.lowerChars typed.toList <+: Text.lowerChars token.toList := by
  simp only [Suggestion.startingWith, Suggestion.folded, List.mem_map, List.mem_filter,
    if_true, List.isPrefixOf_iff_prefix]
  constructor
  · rintro ⟨s, ⟨member, fits⟩, rfl⟩
    exact ⟨⟨s, member, rfl⟩, fits⟩
  · rintro ⟨⟨s, member, rfl⟩, fits⟩
    exact ⟨s, ⟨member, fits⟩, rfl⟩

theorem startingWith_empty (all : List Suggestion) :
    Suggestion.startingWith true "" all = all := by
  simp [Suggestion.startingWith, Suggestion.folded, Text.lowerChars, Text.lowerFrom]

/-- Where a name can follow, all that fits of what is offered is suggested. -/
theorem Spec.suggest_of_takesName (spec : Spec Code Handler Source)
    (answer : Source → String → List Suggestion) (before typed : String)
    (w : Walk Code Handler Source)
    (boundary : before = "" ∨ before.toList.getLast? = some ' ')
    (closed : Line.quoteOpen before.toList = false)
    (walked : spec.walk before (Line.split before).words = .ok w)
    (plain : Line.IsPlain typed) (takes : w.TakesName typed) :
    spec.suggest answer (before ++ typed) = Suggestion.startingWith true typed w.offered := by
  by_cases empty : typed = ""
  · subst empty
    have fresh : (Line.split before).atNewWord = true ∨ (Line.split before).words = [] := by
      rcases boundary with rfl | last
      · exact Or.inr rfl
      · exact Or.inl (by simp [Line.split, closed, last])
    rw [String.append_empty, Spec.suggest, Spec.complete_new fresh walked,
      Walk.completeNew_of_takesName takes, startingWith_empty]
  · have words := Line.words_append_of_boundary before typed closed boundary
    rw [Line.words_of_isPlain plain empty] at words
    have same : spec.walk (before ++ typed) (Line.split before).words = .ok w :=
      Walk.steps_ok_onLine (before ++ typed) walked
    rw [Spec.suggest,
      spec.complete_eq_of_typing words (Line.atNewWord_append_plain before plain empty), same]
    simp only [Walk.completeToken_of_takesName takes]

/-! ### What is offered is accepted -/

/-- What is expected in a sound grammar can be typed as it is. -/
theorem Walk.Within.plain_of_expects {spec : Spec Code Handler Source}
    {w : Walk Code Handler Source} (within : w.Within spec) (valid : spec.defects = [])
    (plain : ∀ e ∈ spec.fragments,
      Line.IsPlain e.1 ∧ ∀ name ∈ e.2.named.keys, Line.IsPlain name)
    {token : String} (expects : w.Expects token) : Line.IsPlain token ∧ token ≠ "" := by
  unfold Walk.Expects at expects
  split at expects
  next =>
    obtain ⟨name, rfl, declared, _⟩ := expects
    obtain ⟨arg, looked⟩ := Dict.contains_iff_exists.mp declared
    obtain ⟨e, member, key⟩ := within.declares looked
    have chars := (plain e member).2 name key
    refine ⟨?_, ?_⟩
    · simp only [Line.IsPlain, toList_nameToken, List.mem_cons, not_or]
      exact ⟨⟨by decide, chars.1⟩, by decide, chars.2⟩
    · intro empty
      simpa [toList_nameToken] using congrArg String.toList empty
  next =>
    obtain ⟨child, found⟩ := expects
    have member := within.has.child found
    exact ⟨(plain _ member).1, (Spec.sound_of_mem valid member).word_ne_empty⟩

/-- What is expected in a sound grammar is taken, as the word or the name that it is. -/
theorem Walk.Within.accepts_of_expects {spec : Spec Code Handler Source}
    {w : Walk Code Handler Source} (within : w.Within spec) (valid : spec.defects = [])
    {typed token : String} (takes : w.TakesName typed) (expects : w.Expects token) :
    ∃ next, w.Accepts token next ∧ w.MovedBy token next := by
  have free := takes.1
  unfold Walk.Expects at expects
  cases terminal : w.fragment.isTerminal with
  | false =>
    simp only [terminal, Bool.false_eq_true, if_false] at expects
    obtain ⟨child, found⟩ := expects
    have sound := Spec.sound_of_mem valid (within.has.child found)
    refine ⟨w.descend child, .word terminal (by rwa [sound.lowercase]), ?_⟩
    simp [Walk.MovedBy, terminal, found, Walk.descend]
  | true =>
    simp only [terminal, if_true] at expects
    obtain ⟨name, rfl, declared, _⟩ := expects
    obtain ⟨arg, looked⟩ := Dict.contains_iff_exists.mp declared
    obtain ⟨e, member, key⟩ := within.declares looked
    have back : unmarked (nameToken name) = name :=
      unmarked_nameToken ((Spec.sound_of_mem valid member).argName key)
    have known : w.valid.get? (unmarked (nameToken name)) = some arg := by rw [back, looked]
    have skips := takes.skips terminal
    have marked := isMarked_nameToken name
    cases kind : arg.isFlag with
    | true =>
      refine ⟨_, .flag terminal free skips marked known kind, ?_⟩
      rw [Walk.MovedBy, if_pos terminal]
      exact ⟨name, rfl, rfl, by rw [back]⟩
    | false =>
      refine ⟨_, .opens terminal free skips marked known kind, ?_⟩
      rw [Walk.MovedBy, if_pos terminal]
      exact ⟨name, rfl, rfl, by rw [back]⟩

/-- **Completion offers exactly what parsing takes next.** Behind an accepted beginning of a line
that ends at a word boundary, where only a command word or a name can follow, the suggestions are
in strictly increasing order, they are the expected tokens that begin with what has been typed,
and every expected token leads the walk on to what it stands for. -/
theorem suggest_eq_expected (spec : Spec Code Handler Source)
    (answer : Source → String → List Suggestion) (before typed : String)
    (w : Walk Code Handler Source) (valid : spec.defects = [])
    (plain : ∀ e ∈ spec.fragments,
      Line.IsPlain e.1 ∧ ∀ name ∈ e.2.named.keys, Line.IsPlain name)
    (boundary : before = "" ∨ before.toList.getLast? = some ' ')
    (closed : before.toList.count '"' % 2 = 0)
    (walked : spec.walk before (Line.split before).words = .ok w)
    (typedPlain : Line.IsPlain typed) (takes : w.TakesName typed) :
    ((spec.suggest answer (before ++ typed)).map (·.text)).Pairwise (· < ·) ∧
    (∀ token, token ∈ (spec.suggest answer (before ++ typed)).map (·.text) ↔
      w.Expects token ∧ Text.lowerChars typed.toList <+: Text.lowerChars token.toList) ∧
    ∀ token, w.Expects token →
      ∃ next, spec.walk (before ++ token) (Line.split (before ++ token)).words = .ok next ∧
        w.MovedBy token next := by
  have outside : Line.quoteOpen before.toList = false := (Line.quoteOpen_eq_false_iff _).mpr closed
  have within : w.Within spec := Spec.walk_within walked
  rw [spec.suggest_of_takesName answer before typed w boundary outside walked typedPlain takes]
  refine ⟨?_, ?_, ?_⟩
  · exact within.offered_sorted.sublist (List.filter_sublist.map _)
  · intro token
    rw [mem_texts_startingWith, w.mem_offered_iff]
  · intro token expects
    obtain ⟨tokenPlain, nonempty⟩ := within.plain_of_expects valid plain expects
    obtain ⟨next, accepted, moved⟩ := within.accepts_of_expects valid takes expects
    refine ⟨next, ?_, moved⟩
    rw [Line.words_append_of_boundary before token outside boundary,
      Line.words_of_isPlain tokenPlain nonempty, Spec.walk, Walk.steps_append_eq_ok_iff]
    refine ⟨w, Walk.steps_ok_onLine _ walked, ?_⟩
    exact accepted.steps rfl

/-- Behind a zone's name the flag declared above is suggested, whatever the case typed, and it is
taken there. -/
theorem suggest_expected_behind_zone :
    ∃ w, zoneGrammar.walk "show zone x " (Line.split "show zone x ").words = .ok w ∧
      w.TakesName "-R" ∧
      "-raw" ∈ (zoneGrammar.suggest (fun _ _ => []) ("show zone x " ++ "-R")).map (·.text) ∧
      ∃ next, zoneGrammar.walk ("show zone x " ++ "-raw")
        (Line.split ("show zone x " ++ "-raw")).words = .ok next ∧ w.MovedBy "-raw" next := by
  obtain ⟨w, walked, takes, expects⟩ :
      ∃ w, zoneGrammar.walk "show zone x " (Line.split "show zone x ").words = .ok w ∧
        w.TakesName "-R" ∧ w.Expects "-raw" :=
    ⟨_, rfl, ⟨rfl, Or.inr (Or.inl rfl)⟩, "raw", rfl, rfl, List.not_mem_nil⟩
  obtain ⟨_, texts, onward⟩ := suggest_eq_expected zoneGrammar (fun _ _ => []) "show zone x " "-R" w
    (by decide) (by decide) (by decide) (by decide) walked (by decide) takes
  exact ⟨w, walked, takes, (texts "-raw").mpr ⟨expects, by decide⟩, onward "-raw" expects⟩

/-! ### Refused words -/

/-- **Behind a refused word nothing is offered.** A refused word that is still being typed gets no
suggestions either if it stands for the value of a named argument; where it stands for a positional
argument it gets them unless it has a space or the argument's source has no answer. -/
theorem suggest_of_refused (spec : Spec Code Handler Source)
    (answer : Source → String → List Suggestion) (line token : String)
    (before after : List String) (w : Walk Code Handler Source) (e : ParseError)
    (words : (Line.split line).words = before ++ token :: after)
    (walked : spec.walk line before = .ok w) (refused : w.step line token = .error e) :
    (after ≠ [] ∨ (Line.split line).atNewWord = true → spec.suggest answer line = []) ∧
    (after = [] → (Line.split line).atNewWord = false →
      (∀ name arg, w.role token = .argValue name arg → spec.suggest answer line = []) ∧
      ∀ arg, w.role token = .positional arg →
        (spec.suggest answer line = [] ↔
          ' ' ∈ token.toList ∨ ∃ source, arg.source = some source ∧ answer source token = [])) := by
  constructor
  · intro settled
    rw [Spec.suggest, Spec.complete_refused words settled walked refused]
    rfl
  · rintro rfl typing
    have completed : spec.complete line = w.completeToken token := by
      rw [spec.complete_eq_of_typing words typing, walked]
    rw [Spec.suggest, completed]
    constructor
    · intro name arg role
      have marked : isMarked token = true := by
        simp only [Walk.step, role] at refused
        split at refused
        next marked => exact marked
        next => cases refused
      simp [Walk.completeToken, role, marked, Completion.nothing]
    · intro arg role
      by_cases space : ' ' ∈ token.toList
      · simp [Walk.completeToken, role, space, Completion.nothing]
      · cases source : arg.source with
        | none => simp [Walk.completeToken, role, space, offerValue, source]
        | some source => simp [Walk.completeToken, role, space, offerValue, source]

/-- Behind an unknown word nothing is suggested, and neither for a name in a zone's place that has
a space in it. -/
theorem suggest_of_refused_below_show :
    zoneGrammar.suggest (fun _ _ => []) "show zones x" = [] ∧
      zoneGrammar.suggest (fun _ _ => []) "show zone \"-x y" = [] := by
  obtain ⟨w, e, walked, refused⟩ :
      ∃ w e, zoneGrammar.walk "show zones x" ["show"] = .ok w ∧
        w.step "show zones x" "zones" = .error e := ⟨_, _, rfl, rfl⟩
  obtain ⟨v, d, reached, stopped, arg, role⟩ :
      ∃ v d, zoneGrammar.walk "show zone \"-x y" ["show", "zone"] = .ok v ∧
        v.step "show zone \"-x y" "-x y" = .error d ∧ ∃ arg, v.role "-x y" = .positional arg :=
    ⟨_, _, rfl, rfl, _, rfl⟩
  have behind := suggest_of_refused zoneGrammar (fun _ _ => []) "show zones x" "zones"
    ["show"] ["x"] w e (by decide) walked refused
  have typed := suggest_of_refused zoneGrammar (fun _ _ => []) "show zone \"-x y" "-x y"
    ["show", "zone"] [] v d (by decide) reached stopped
  exact ⟨behind.1 (by decide),
    ((typed.2 rfl (by decide)).2 arg role).mpr (Or.inl (by decide))⟩

/-- A name in the place of a required argument is refused, and yet there is a suggestion for it
while it is being typed. -/
theorem refused_positional_has_suggestion :
    ∃ w e arg, (Line.split "show zone -x").words = ["show", "zone"] ++ ["-x"] ∧
      (Line.split "show zone -x").atNewWord = false ∧
      zoneGrammar.walk "show zone -x" ["show", "zone"] = .ok w ∧
      w.role "-x" = .positional arg ∧ w.step "show zone -x" "-x" = .error e ∧
      zoneGrammar.suggest (fun _ _ => []) "show zone -x" ≠ [] :=
  ⟨_, _, _, by decide, by decide, rfl, rfl, rfl, by decide⟩

end Steering.Grammar
