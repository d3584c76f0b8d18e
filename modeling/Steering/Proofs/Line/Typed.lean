import Steering.Proofs.Line.Words

/-!
# The word under the cursor

The search for the word under the cursor cuts a line in two: what is kept when the word is replaced,
and the word as it has been typed. `Cut` lists the ways in which a line can be cut, and `exists_cut`
says that every line is cut in one of them.

Behind the cut a line has the words of the part that is kept, and one more if something has been
typed (`Cut.words_typing`). A text that spells one word can take the place of the word under the
cursor: the line then has the words of the part that is kept, and that word (`Cut.words_spelled`).
The search does not follow the words everywhere: a lone opening quote is no word yet, and a quote
that is opened directly behind a closing one is left in the part that is kept (`Cut.glued`).
-/

namespace Steering.Line

/-! ### The search -/

theorem takeBytes_append (before after : List Char) :
    takeBytes (String.ofList before).utf8ByteSize (before ++ after) = before := by
  induction before with
  | nil =>
    cases after with
    | nil => rfl
    | cons c rest => simp [takeBytes, Nat.ne_of_gt c.utf8Size_pos]
  | cons c before ih =>
    rw [String.ofList_cons, String.utf8ByteSize_append, String.utf8ByteSize_singleton,
      List.cons_append, takeBytes, if_pos (Nat.le_add_right _ _), Nat.add_sub_cancel_left, ih]

/-- A line up to the cursor, cut at the word under it into what is kept and what has been typed.
Whether a quoted section is open behind it, and whether the last quote before the cursor closes one,
comes first. -/
inductive Cut : (quoted closed : Bool) → (kept typed : List Char) → Prop
  /-- Nothing has been typed yet. -/
  | fresh {kept : List Char} (outside : quoteOpen kept = false)
      (edge : kept = [] ∨ kept.getLast? = some ' ') : Cut false false kept []
  | bare {kept typed : List Char} (outside : quoteOpen kept = false) (edge : Edge kept)
      (nonempty : typed ≠ []) (plain : ' ' ∉ typed ∧ '"' ∉ typed) :
      Cut false false kept typed
  /-- A quoted word that has not been closed. -/
  | opened {closed : Bool} {kept content : List Char} (outside : quoteOpen kept = false)
      (unquoted : '"' ∉ content) (first : closed = true → content = []) :
      Cut true closed kept ('"' :: content)
  | shut {kept content : List Char} (outside : quoteOpen kept = false)
      (unquoted : '"' ∉ content) : Cut false true kept ('"' :: content ++ ['"'])
  /-- The same directly behind a closing quote, where the opening quote is kept. -/
  | glued {before content : List Char} (outside : quoteOpen before = false)
      (nonempty : content ≠ []) (unquoted : '"' ∉ content) :
      Cut true false (before ++ ['"']) content
  | gluedShut {before content : List Char} (outside : quoteOpen before = false)
      (nonempty : content ≠ []) (unquoted : '"' ∉ content) :
      Cut false true (before ++ ['"']) (content ++ ['"'])

namespace Cut

variable {quoted closed : Bool} {kept typed : List Char}

theorem quoteOpen_append (cut : Cut quoted closed kept typed) :
    quoteOpen (kept ++ typed) = quoted := by
  have lone : quoteOpen ['"'] = true := rfl
  cases cut <;>
    simp_all [Line.quoteOpen_append, quoteOpen_cons_quote, quoteOpen_of_not_mem]

theorem getLast?_append (cut : Cut false true kept typed) :
    (kept ++ typed).getLast? = some '"' := by
  cases cut with
  | shut | gluedShut =>
    rw [← List.append_assoc]
    exact List.getLast?_concat

/-! What a character does to a cut: one lemma for each branch of the search. -/

variable {c : Char}

theorem close (cut : Cut true closed kept typed) : Cut false true kept (typed ++ ['"']) := by
  cases cut with
  | opened outside unquoted => exact .shut outside unquoted
  | glued outside nonempty unquoted => exact .gluedShut outside nonempty unquoted

theorem quote (cut : Cut false closed kept typed) : Cut true closed (kept ++ typed) ['"'] :=
  .opened cut.quoteOpen_append List.not_mem_nil fun _ => rfl

theorem space (cut : Cut false closed kept typed) :
    Cut false false (kept ++ typed ++ [' ']) [] := by
  refine .fresh ?_ (.inr (by simp))
  rw [Line.quoteOpen_append, cut.quoteOpen_append]
  rfl

/-- The first character behind a closing quote. -/
theorem begin (cut : Cut false true kept typed) (noQuote : c ≠ '"') (noSpace : c ≠ ' ') :
    Cut false false (kept ++ typed) [c] :=
  .bare cut.quoteOpen_append (.inr (.inr cut.getLast?_append)) (List.cons_ne_nil _ _)
    (by simp [noQuote.symm, noSpace.symm])

/-- The first character behind a closing quote and an opening one. -/
theorem glue (cut : Cut true true kept typed) (noQuote : c ≠ '"') :
    Cut true false (kept ++ typed) [c] := by
  cases cut with
  | opened outside unquoted first =>
    rw [first rfl]
    exact .glued outside (List.cons_ne_nil _ _) (by simp [noQuote.symm])

theorem extend (cut : Cut quoted false kept typed) (noQuote : c ≠ '"')
    (inside : c = ' ' → quoted = true) : Cut quoted false kept (typed ++ [c]) := by
  have longer {content : List Char} (unquoted : '"' ∉ content) : '"' ∉ content ++ [c] := by
    simp [unquoted, noQuote.symm]
  have nonempty (content : List Char) : content ++ [c] ≠ [] := by simp
  cases cut with
  | fresh outside edge =>
    have noSpace : c ≠ ' ' := fun space => nomatch inside space
    exact .bare outside (edge.imp_right .inl) (nonempty []) (by simp [noQuote.symm, noSpace.symm])
  | bare outside edge _ plain =>
    have noSpace : c ≠ ' ' := fun space => nomatch inside space
    exact .bare outside edge (nonempty _) (by simp [plain, noQuote.symm, noSpace.symm])
  | opened outside unquoted => exact .opened outside (longer unquoted) nofun
  | glued outside _ unquoted => exact .glued outside (nonempty _) (longer unquoted)

end Cut

/-- What the search knows after some characters: where they are cut. -/
def Scanned (cs : List Char) (s : TypedScan) : Prop :=
  ∃ kept typed, cs = kept ++ typed ∧ s.index = cs.length ∧ s.start = kept.length ∧
    Cut s.quoted s.closed kept typed

theorem Scanned.step {cs : List Char} {s : TypedScan} (scanned : Scanned cs s) (c : Char) :
    Scanned (cs ++ [c]) (s.step c) := by
  obtain ⟨kept, typed, rfl, index, start, cut⟩ := scanned
  obtain ⟨_, _, quoted, closed⟩ := s
  simp only at index start cut
  subst index start
  have all : (kept ++ typed ++ [c]).length = (kept ++ typed).length + 1 := List.length_append
  unfold TypedScan.step
  by_cases quote : c = '"'
  · -- Inside quotes a quote closes the word, and outside it opens a new one.
    subst quote
    cases quoted with
    | true => exact ⟨kept, typed ++ ['"'], by simp, all.symm, rfl, cut.close⟩
    | false => exact ⟨kept ++ typed, ['"'], rfl, all.symm, rfl, cut.quote⟩
  · simp only [if_neg quote]
    split
    next blank =>
      obtain ⟨rfl, rfl⟩ := blank
      exact ⟨kept ++ typed ++ [' '], [], by simp, all.symm, all.symm, cut.space⟩
    next noBlank =>
      cases closed with
      | true =>
        -- The search takes this for the first character of a word, also if a quote has just been
        -- opened, which it then leaves in the part that is kept.
        cases quoted with
        | true => exact ⟨kept ++ typed, [c], rfl, all.symm, rfl, cut.glue quote⟩
        | false =>
          have noSpace : c ≠ ' ' := fun space => noBlank ⟨space, rfl⟩
          exact ⟨kept ++ typed, [c], rfl, all.symm, rfl, cut.begin quote noSpace⟩
      | false =>
        have inside : c = ' ' → quoted = true := by simpa using noBlank
        exact ⟨kept, typed ++ [c], by simp, all.symm, rfl, cut.extend quote inside⟩

/-- What holds after every step holds at the end of the line. -/
theorem Scanned.foldl {cs : List Char} {s : TypedScan} (scanned : Scanned cs s)
    (more : List Char) : Scanned (cs ++ more) (more.foldl TypedScan.step s) := by
  -- What has been scanned grows by the character that is stepped over.
  induction more generalizing cs s with
  | nil => simpa using scanned
  | cons c more ih => simpa using ih (scanned.step c)

theorem scanned (cs : List Char) : Scanned cs (cs.foldl TypedScan.step {}) :=
  have start : Scanned [] {} := ⟨[], [], rfl, rfl, rfl, .fresh rfl (.inl rfl)⟩
  start.foldl cs

/-- **Every line is cut in one of the ways.** -/
theorem exists_cut (line : String) :
    ∃ quoted closed kept typed, Cut quoted closed kept typed ∧ line.toList = kept ++ typed ∧
      beforeCursor line (typedStart line) = String.ofList kept ∧
      Line.typed line = String.ofList typed := by
  obtain ⟨kept, typed, chars, -, index, cut⟩ := scanned line.toList
  have cutAt : typedIndex (kept ++ typed) = kept.length := chars ▸ index
  refine ⟨_, _, kept, typed, cut, chars, ?_, ?_⟩
  · simp only [beforeCursor, typedStart, cutAt, chars, List.take_left, takeBytes_append]
  · simp only [Line.typed, cutAt, chars, List.drop_left]

/-! ### Words behind a cut -/

/-- In an open section everything up to its end is one word. -/
theorem wordsFrom_open (begun cs : List Char) (unquoted : '"' ∉ cs) :
    wordsFrom true begun cs = pendingWord (cs.reverse ++ begun) := by
  induction cs generalizing begun with
  | nil => simp [wordsFrom]
  | cons c rest ih =>
    simp only [List.mem_cons, not_or] at unquoted
    rw [wordsFrom, if_neg (Ne.symm unquoted.1), if_neg (by simp), ih (c :: begun) unquoted.2]
    simp

theorem words_open {content : List Char} (nonempty : content ≠ []) (unquoted : '"' ∉ content) :
    wordsFrom false [] ('"' :: content) = [String.ofList content] := by
  rw [wordsFrom, if_pos rfl, if_neg (by simp), wordsFrom_open [] content unquoted, List.append_nil,
    pendingWord_reverse nonempty]
  rfl

theorem words_shut {content : List Char} (unquoted : '"' ∉ content) :
    wordsFrom false [] ('"' :: content ++ ['"']) = [String.ofList content] := by
  rw [List.cons_append, wordsFrom, if_pos rfl, if_neg (by simp),
    wordsFrom_quoted [] content unquoted]
  rfl

theorem words_plain {cs : List Char} (nonempty : cs ≠ []) (plain : ' ' ∉ cs ∧ '"' ∉ cs) :
    wordsFrom false [] cs = [String.ofList cs] := by
  rw [wordsFrom_plain [] cs plain, List.append_nil, pendingWord_reverse nonempty]

/-- The ways to write one word where a word can begin. -/
inductive Spells : String → String → Prop
  | bare {word : String} (plain : IsPlain word) (nonempty : word ≠ "") : Spells word word
  | opened {word : String} (unquoted : '"' ∉ word.toList) (nonempty : word ≠ "") :
      Spells ("\"" ++ word) word
  | quoted {word : String} (unquoted : '"' ∉ word.toList) : Spells ("\"" ++ word ++ "\"") word

/-- A text that spells a word has that word only. -/
theorem Spells.words {text word : String} (spells : Spells text word) :
    wordsFrom false [] text.toList = [word] := by
  cases spells with
  | bare plain nonempty => exact words_of_isPlain plain nonempty
  | opened unquoted nonempty =>
    have nonempty : word.toList ≠ [] := by simpa using nonempty
    have chars : ("\"" ++ word).toList = '"' :: word.toList := by simp [String.toList_append]
    rw [chars, words_open nonempty unquoted, String.ofList_toList]
  | quoted unquoted =>
    rw [toList_quoted, ← List.cons_append, words_shut unquoted, String.ofList_toList]

theorem quoteOpen_quote {cs : List Char} (outside : quoteOpen cs = false) :
    quoteOpen (cs ++ ['"']) = true := by
  rw [quoteOpen_append, outside]
  rfl

/-- A quote that has been opened and nothing else is no word. -/
theorem words_quote {cs : List Char} (outside : quoteOpen cs = false) :
    wordsFrom false [] (cs ++ ['"']) = wordsFrom false [] cs := by
  rw [words_append_quote outside]
  simp [wordsFrom, pendingWord]

/-- A quote that is kept belongs to the word that follows. -/
theorem words_glued {cs : List Char} (outside : quoteOpen cs = false) (more : List Char) :
    wordsFrom false [] (cs ++ ['"'] ++ more) =
      wordsFrom false [] (cs ++ ['"']) ++ wordsFrom false [] ('"' :: more) := by
  rw [words_quote outside, List.append_assoc, List.singleton_append, words_append_quote outside]

/-- The word as it has been typed: with the quotes that belong to it, but for an opening quote that
is kept. -/
def TypedAs (kept typed word : List Char) : Prop :=
  typed = word ∨ typed = '"' :: word ∨ typed = '"' :: word ++ ['"'] ∨
    quoteOpen kept = true ∧ typed = word ++ ['"']

namespace Cut

variable {quoted closed : Bool} {kept typed : List Char}

/-- Where nothing or only a quote has been typed, the words are those that are kept. -/
theorem words_new (cut : Cut quoted closed kept typed) (nothing : typed = [] ∨ typed = ['"']) :
    wordsFrom false [] (kept ++ typed) = wordsFrom false [] kept := by
  rcases nothing with rfl | lone
  · rw [List.append_nil]
  · have outside : quoteOpen kept = false := by
      cases cut with
      | fresh outside | bare outside | opened outside | shut outside => exact outside
      | glued _ _ unquoted => simp [lone] at unquoted
      | gluedShut _ nonempty _ => exact absurd (by simpa using lone) nonempty
    rw [lone, words_quote outside]

/-- Where nothing has been typed a new word begins, after a space or at the start of the line. -/
theorem atNewWord_or_nil {line : String} (cut : Cut quoted closed kept typed)
    (nothing : typed = []) (chars : line.toList = kept ++ typed) :
    (split line).atNewWord = true ∨ (split line).words = [] := by
  cases cut with
  | fresh outside edge =>
    rw [List.append_nil] at chars
    rcases edge with rfl | last
    · exact .inr (by simp [split, chars, wordsFrom, pendingWord])
    · exact .inl (by simp [split, chars, outside, last])
  | bare _ _ nonempty | glued _ nonempty => exact absurd nothing nonempty
  | opened | shut | gluedShut => simp at nothing

/-- Where something else has been typed there is one word more, typed in one of the ways. -/
theorem words_typing (cut : Cut quoted closed kept typed) (begun : typed ≠ [])
    (notLone : typed ≠ ['"']) :
    ∃ word, '"' ∉ word ∧ TypedAs kept typed word ∧
      wordsFrom false [] (kept ++ typed) = wordsFrom false [] kept ++ [String.ofList word] := by
  cases cut with
  | fresh => exact absurd rfl begun
  | bare outside edge nonempty plain =>
    refine ⟨typed, plain.2, .inl rfl, ?_⟩
    rw [wordsFrom_append (by simpa using outside) (.inl ⟨edge, fun _ => rfl⟩),
      words_plain nonempty plain]
  | @opened _ _ content outside unquoted _ =>
    have nonempty : content ≠ [] := by simpa using notLone
    refine ⟨content, unquoted, .inr (.inl rfl), ?_⟩
    rw [words_append_quote outside, words_open nonempty unquoted]
  | @shut _ content outside unquoted =>
    refine ⟨content, unquoted, .inr (.inr (.inl rfl)), ?_⟩
    rw [List.cons_append, words_append_quote outside, ← List.cons_append, words_shut unquoted]
  -- Here the quote that is kept opens the word, and the words of the line are those of a word that
  -- is quoted.
  | @glued before _ outside nonempty unquoted =>
    refine ⟨typed, unquoted, .inl rfl, ?_⟩
    rw [words_glued outside, words_open nonempty unquoted]
  | @gluedShut before content outside nonempty unquoted =>
    refine ⟨content, unquoted, .inr (.inr (.inr ⟨quoteOpen_quote outside, rfl⟩)), ?_⟩
    rw [words_glued outside, ← List.cons_append, words_shut unquoted]

/-- Where something has been typed no new word is about to begin. -/
theorem not_atNewWord {line : String} (cut : Cut quoted closed kept typed) (begun : typed ≠ [])
    (chars : line.toList = kept ++ typed) : (split line).atNewWord = false := by
  have noSpace : quoted = true ∨ (kept ++ typed).getLast? ≠ some ' ' := by
    cases cut with
    | fresh => exact absurd rfl begun
    | bare outside edge nonempty plain =>
      have last : typed.getLast? ≠ some ' ' := fun space => plain.1 (List.mem_of_getLast? space)
      exact .inr (by simpa [nonempty] using last)
    | opened | glued => exact .inl rfl
    | shut outside unquoted => exact .inr (by rw [(shut outside unquoted).getLast?_append]; simp)
    | gluedShut outside nonempty unquoted =>
      exact .inr (by rw [(gluedShut outside nonempty unquoted).getLast?_append]; simp)
  simp only [split, chars, cut.quoteOpen_append]
  rcases noSpace with rfl | last
  · rfl
  · rw [beq_eq_false_iff_ne.mpr last, Bool.and_false]

/-- Where a line is cut: outside quotes and where no word goes on, or at the opening quote that is
kept. -/
theorem kept_cases (cut : Cut quoted closed kept typed) :
    quoteOpen kept = false ∧ (Edge kept ∨ typed.head? = some '"') ∨
      ∃ before, kept = before ++ ['"'] ∧ quoteOpen before = false := by
  cases cut with
  | fresh outside edge => exact .inl ⟨outside, .inl (edge.imp_right .inl)⟩
  | bare outside edge => exact .inl ⟨outside, .inl edge⟩
  | opened outside | shut outside => exact .inl ⟨outside, .inr rfl⟩
  | glued outside | gluedShut outside => exact .inr ⟨_, rfl, outside⟩

/-- **A word can take the place of the one under the cursor**, however it is written: in quotes if
there is one before what has been typed, and without if that quote is kept. -/
theorem words_spelled (cut : Cut quoted closed kept typed) {text word : String}
    (spells : Spells text word) (alike : typed.head? = some '"' → text.toList.head? = some '"')
    (inside : quoteOpen kept = true → text.toList.head? ≠ some '"') :
    wordsFrom false [] (kept ++ text.toList) = wordsFrom false [] kept ++ [word] := by
  rcases cut.kept_cases with ⟨outside, edge⟩ | ⟨before, rfl, outside⟩
  · rw [wordsFrom_append (by simpa using outside)
      (edge.imp (fun edge => ⟨edge, fun _ => rfl⟩) fun quote => .inr (alike quote)), spells.words]
  · -- The quote that is kept opens the word, which must not bring a quote of its own.
    have unquoted : text.toList.head? ≠ some '"' := inside (quoteOpen_quote outside)
    cases spells with
    | bare plain nonempty =>
      rw [words_glued outside, words_open (by simpa using nonempty) plain.2, String.ofList_toList]
    | opened | quoted => exact absurd (by simp [String.toList_append]) unquoted

end Cut

end Steering.Line
