import Steering.Proofs.Line.Typed

/-!
# Where the word under the cursor starts

The search for the word under the cursor and the reading of a line into words go through a line side
by side, each with a state of its own. They agree where the line is cut outside quotes: the words of
both parts, read apart, are those of the line, and what is behind the cut is one word at most
(`Cut.words_apart`, `Cut.words_typed_length`).

The search keeps in mind that a quoted section has been closed until the next word begins, and does
not take an opening quote for that. So a section that is opened directly behind a closing quote is
cut inside its quotes, one character too late, and this is the only way for the two to differ
(`typedStart_cuts`).
-/

namespace Steering.Line

/-! ### Words on both sides of a cut -/

namespace Cut

variable {quoted closed : Bool} {kept typed : List Char}

/-- Outside quotes a line may be cut where the search cuts it. -/
theorem words_apart (cut : Cut quoted closed kept typed) (outside : quoteOpen kept = false) :
    wordsFrom false [] (kept ++ typed) =
      wordsFrom false [] kept ++ wordsFrom false [] typed := by
  rcases cut.kept_cases with ⟨-, edge | quote⟩ | ⟨before, rfl, closed⟩
  · exact wordsFrom_append (by simpa using outside) (.inl ⟨edge, fun _ => rfl⟩)
  · exact wordsFrom_append (by simpa using outside) (.inr (.inr quote))
  · rw [quoteOpen_quote closed] at outside
    cases outside

theorem words_typed_length (cut : Cut quoted closed kept typed)
    (outside : quoteOpen kept = false) : (wordsFrom false [] typed).length ≤ 1 := by
  cases cut with
  | fresh => simp [wordsFrom, pendingWord]
  | bare _ _ nonempty plain => simp [words_plain nonempty plain]
  | @opened _ _ content _ unquoted _ =>
    by_cases nonempty : content = []
    · -- A lone quote is no word yet.
      simp [nonempty, wordsFrom, pendingWord]
    · simp [words_open nonempty unquoted]
  | shut _ unquoted => exact Nat.le_of_eq (congrArg List.length (words_shut unquoted))
  | glued closed | gluedShut closed =>
    rw [quoteOpen_quote closed] at outside
    cases outside

end Cut

/-! ### Sections behind a closing quote -/

/-- What is behind the opening quote of a section that is the last thing on a line and has something
in it, closed or not. -/
inductive SectionRest : List Char → Prop
  | opened {content : List Char} (nonempty : content ≠ []) (unquoted : '"' ∉ content) :
      SectionRest content
  | shut {content : List Char} (nonempty : content ≠ []) (unquoted : '"' ∉ content) :
      SectionRest (content ++ ['"'])

/-- The line ends with such a section, and directly before it a section is closed. -/
def Glued (cs : List Char) : Prop :=
  ∃ before rest, cs = before ++ ['"'] ++ rest ∧ quoteOpen before = false ∧
    before.getLast? = some '"' ∧ SectionRest rest

/-- The search knows how far it has come and whether a section is open. -/
theorem scan_spec (cs : List Char) :
    (cs.foldl TypedScan.step {}).index = cs.length ∧
      (cs.foldl TypedScan.step {}).quoted = quoteOpen cs := by
  obtain ⟨kept, typed, chars, index, -, cut⟩ := scanned cs
  exact ⟨index, by rw [← cut.quoteOpen_append, ← chars]⟩

/-- Outside quotes the search takes a section for just closed if and only if the last character is a
closing quote. -/
theorem scan_closed_iff {cs : List Char} (outside : quoteOpen cs = false) :
    (cs.foldl TypedScan.step {}).closed = true ↔ cs.getLast? = some '"' := by
  obtain ⟨kept, typed, chars, -, -, cut⟩ := scanned cs
  rw [(scan_spec cs).2, outside] at cut
  cases closed : (cs.foldl TypedScan.step {}).closed with
  | true =>
    rw [closed] at cut
    exact iff_of_true rfl (chars ▸ cut.getLast?_append)
  | false =>
    rw [closed] at cut
    refine iff_of_false Bool.false_ne_true fun last => ?_
    rw [chars] at last
    cases cut with
    | fresh _ edge =>
      rw [List.append_nil] at last
      rcases edge with rfl | space
      · cases last
      · rw [space] at last
        cases last
    | bare _ _ nonempty plain =>
      rw [List.getLast?_append, List.getLast?_eq_some_getLast nonempty] at last
      exact plain.2 (Option.some.inj last ▸ List.getLast_mem nonempty)

/-- Inside a section the search only counts on, once a word has begun. -/
theorem foldl_inside {s : TypedScan} (quoted : s.quoted = true) (begun : s.closed = false)
    {content : List Char} (unquoted : '"' ∉ content) :
    content.foldl TypedScan.step s = { s with index := s.index + content.length } := by
  induction content generalizing s with
  | nil => rfl
  | cons c rest ih =>
    simp only [List.mem_cons, not_or] at unquoted
    have step : s.step c = { s with index := s.index + 1 } := by
      simp [TypedScan.step, Ne.symm unquoted.1, quoted, begun]
    rw [List.foldl_cons, step, @ih { s with index := s.index + 1 } quoted begun unquoted.2,
      List.length_cons, Nat.add_right_comm, Nat.add_assoc]

/-- The search cuts a line that ends with a section at its opening quote, or behind it if the
section is opened directly behind a closing quote. -/
theorem typedIndex_section {before rest : List Char} (outside : quoteOpen before = false)
    (isRest : SectionRest rest) :
    typedIndex (before ++ ['"'] ++ rest) =
      before.length + if before.getLast? = some '"' then 1 else 0 := by
  obtain ⟨index, quoted⟩ := scan_spec before
  have closed := scan_closed_iff outside
  have content {content : List Char} (nonempty : content ≠ []) (unquoted : '"' ∉ content) :
      (before ++ ['"'] ++ content).foldl TypedScan.step {} =
        { index := before.length + 1 + content.length
          start := before.length + if before.getLast? = some '"' then 1 else 0
          quoted := true } := by
    obtain ⟨c, rest, rfl⟩ := List.exists_cons_of_ne_nil nonempty
    simp only [List.mem_cons, not_or] at unquoted
    -- The first character of the section moves the cut if a closing quote has been seen.
    have first : ((before.foldl TypedScan.step {}).step '"').step c =
        { index := before.length + 2
          start := before.length + if before.getLast? = some '"' then 1 else 0
          quoted := true } := by
      by_cases last : before.getLast? = some '"' <;>
        simp_all [TypedScan.step, Ne.symm unquoted.1]
    rw [List.foldl_append, List.foldl_append, List.foldl_cons, List.foldl_cons, List.foldl_nil,
      first, foldl_inside rfl rfl unquoted.2]
    simp only [List.length_cons, TypedScan.mk.injEq, and_self, and_true]
    omega
  cases isRest with
  | opened nonempty unquoted => rw [typedIndex, content nonempty unquoted]
  | shut nonempty unquoted =>
    rw [typedIndex, ← List.append_assoc, List.foldl_append, content nonempty unquoted]
    rfl

/-- With its opening quote the section is one word. -/
theorem SectionRest.words_length {rest : List Char} (isRest : SectionRest rest) :
    (wordsFrom false [] ('"' :: rest)).length = 1 := by
  cases isRest with
  | opened nonempty unquoted => rw [words_open nonempty unquoted, List.length_singleton]
  | shut _ unquoted => exact congrArg List.length (words_shut unquoted)

/-- Where the search cuts inside quotes. -/
theorem Cut.quoteOpen_kept_iff {quoted closed : Bool} {kept typed : List Char}
    (cut : Cut quoted closed kept typed) (index : typedIndex (kept ++ typed) = kept.length) :
    quoteOpen kept = true ↔ Glued (kept ++ typed) := by
  constructor
  · intro inside
    obtain ⟨before, rfl, outside, isRest⟩ :
        ∃ before, kept = before ++ ['"'] ∧ quoteOpen before = false ∧ SectionRest typed := by
      cases cut with
      | fresh outside | bare outside | opened outside | shut outside => simp [outside] at inside
      | glued outside nonempty unquoted => exact ⟨_, rfl, outside, .opened nonempty unquoted⟩
      | gluedShut outside nonempty unquoted => exact ⟨_, rfl, outside, .shut nonempty unquoted⟩
    -- The cut is behind the opening quote, so there is a closing one right before it.
    rw [typedIndex_section outside isRest, List.length_append] at index
    refine ⟨before, typed, rfl, outside, ?_, isRest⟩
    split at index
    next last => exact last
    next => simp at index
  · rintro ⟨before, rest, same, outside, last, isRest⟩
    rw [same, typedIndex_section outside isRest, if_pos last] at index
    have isKept : kept = before ++ ['"'] := (List.append_inj same (by simp [← index])).1
    rw [isKept, quoteOpen_quote outside]

/-- **Where a line is cut.** The word under the cursor starts at a character, outside quotes; from
there on there is one word at most, and the words of the line are those of the two parts: if and
only if the line does not end with a section that is opened directly behind a closing quote. If it
does, all this holds one character before, at the opening quote. -/
theorem typedStart_cuts (line : String) :
    ∃ kept typed, line = kept ++ typed ∧ typedStart line = kept.utf8ByteSize ∧
      (quoteOpen kept.toList = false ∧ (split typed).words.length ≤ 1 ∧
          (split line).words = (split kept).words ++ (split typed).words ↔
        ¬ Glued line.toList) ∧
      (Glued line.toList → ∃ before, kept = before ++ "\"" ∧ quoteOpen before.toList = false ∧
        (split ("\"" ++ typed)).words.length = 1 ∧
        (split line).words = (split before).words ++ (split ("\"" ++ typed)).words) := by
  obtain ⟨kept, typed, chars, -, start, cut⟩ := scanned line.toList
  have index : typedIndex (kept ++ typed) = kept.length := chars ▸ start
  have inside := cut.quoteOpen_kept_iff index
  have size : typedStart line = (String.ofList kept).utf8ByteSize := by
    simp only [typedStart, chars, index, List.take_left]
  refine ⟨.ofList kept, .ofList typed, ?_, size, ⟨?_, fun apart => ?_⟩, fun glued => ?_⟩
  · rw [← String.ofList_append, ← chars, String.ofList_toList]
  · rintro ⟨outside, -, -⟩ glued
    rw [chars] at glued
    rw [String.toList_ofList, inside.mpr glued] at outside
    cases outside
  · have outside : quoteOpen kept = false := by
      rw [chars] at apart
      exact Bool.eq_false_iff.mpr fun isOpen => apart (inside.mp isOpen)
    simp only [split, chars, String.toList_ofList]
    exact ⟨outside, cut.words_typed_length outside, cut.words_apart outside⟩
  · obtain ⟨before, rest, same, outside, last, isRest⟩ := glued
    -- The search has taken the opening quote for a part of what is kept.
    have cutAt := typedIndex_section outside isRest
    rw [← same, chars, index, if_pos last] at cutAt
    obtain ⟨rfl, rfl⟩ := List.append_inj (chars.symm.trans same) (by simp [cutAt])
    refine ⟨.ofList before, by simp, by rwa [String.toList_ofList], ?_, ?_⟩
    · simpa [split, String.toList_append] using isRest.words_length
    · simp only [split, chars, String.toList_append, String.toList_ofList]
      rw [List.append_assoc]
      exact words_append_quote outside typed

/-- Behind a closing quote the search cuts inside the quotes of the last section, which then falls
apart into two words. -/
theorem typedStart_glued :
    typedStart "\"a\"\"b c" = 4 ∧ "\"a\"\"".utf8ByteSize = 4 ∧
      quoteOpen "\"a\"\"".toList = true ∧
      (split "\"a\"\"b c").words = ["a", "b c"] ∧
      (split "\"a\"\"").words ++ (split "b c").words = ["a", "b", "c"] :=
  ⟨by decide, by decide, by decide, by decide, by decide⟩

end Steering.Line
