import Steering.Line

/-!
# The words of joined lines

Where no quoted section is open, a line can be cut in two wherever no word goes on: the words of the
line are those of the two halves, whatever the second half is (`wordsFrom_append`); in particular a
space separates (`words_append_space`). A word that can be written at all is the only word of its
written form (`words_writeWord`), so a line made from words has just those words (`words_ofWords`).
Only a word with a quote in it cannot be written (`split_ofWords`).
-/

namespace Steering.Line

/-! ### Open quotes -/

theorem quoteOpen_nil : quoteOpen [] = false := rfl

theorem quoteOpen_cons_quote (cs : List Char) : quoteOpen ('"' :: cs) = !quoteOpen cs := by
  simp only [quoteOpen, List.count_cons_self]
  rcases Nat.mod_two_eq_zero_or_one (cs.count '"') with even | odd
  · have next : (cs.count '"' + 1) % 2 = 1 := by omega
    simp [even, next]
  · have next : (cs.count '"' + 1) % 2 = 0 := by omega
    simp [odd, next]

theorem quoteOpen_cons_of_ne {c : Char} (h : c ≠ '"') (cs : List Char) :
    quoteOpen (c :: cs) = quoteOpen cs := by
  simp only [quoteOpen, List.count_cons_of_ne h]

/-- Each half that leaves a section open turns the other's state around. -/
theorem quoteOpen_append (as bs : List Char) :
    quoteOpen (as ++ bs) = (quoteOpen as ^^ quoteOpen bs) := by
  induction as with
  | nil => simp [quoteOpen_nil]
  | cons c rest ih =>
    rw [List.cons_append]
    by_cases quote : c = '"'
    · subst quote
      rw [quoteOpen_cons_quote, quoteOpen_cons_quote, ih, Bool.not_xor]
    · rw [quoteOpen_cons_of_ne quote, quoteOpen_cons_of_ne quote, ih]

theorem quoteOpen_of_not_mem {cs : List Char} (h : '"' ∉ cs) : quoteOpen cs = false := by
  simp [quoteOpen, List.count_eq_zero.mpr h]

/-- No section is open exactly after an even number of quotes. -/
theorem quoteOpen_eq_false_iff (cs : List Char) :
    quoteOpen cs = false ↔ cs.count '"' % 2 = 0 := by
  simp only [quoteOpen, beq_eq_false_iff_ne]
  omega

/-! ### Cutting a line -/

/-- What comes next does not go on with a word that has been begun before. -/
def Edge (cs : List Char) : Prop :=
  cs = [] ∨ cs.getLast? = some ' ' ∨ cs.getLast? = some '"'

theorem edge_of_cons {c : Char} {rest : List Char} (edge : Edge (c :: rest)) :
    Edge rest ∧ (rest = [] → c = ' ' ∨ c = '"') := by
  cases rest with
  | nil => simpa [Edge] using edge
  | cons d rest => simpa [Edge] using edge

/-- Outside quotes a line can be cut where no word goes on, at an edge or before a space or a quote:
the words of the two halves are read apart. `quoted` is the state in which the first half is
entered. -/
theorem wordsFrom_append {quoted : Bool} {begun cs more : List Char}
    (outside : (quoted ^^ quoteOpen cs) = false)
    (apart : Edge cs ∧ (cs = [] → begun = []) ∨ more.head? = some ' ' ∨ more.head? = some '"') :
    wordsFrom quoted begun (cs ++ more) = wordsFrom quoted begun cs ++ wordsFrom false [] more := by
  induction cs generalizing quoted begun with
  | nil =>
    have outside : quoted = false := by simpa [quoteOpen_nil] using outside
    subst outside
    rcases apart with ⟨-, nothing⟩ | next
    · simp [wordsFrom, pendingWord, nothing rfl]
    · -- The space or the quote ends the word that has been begun.
      rcases next with space | quote
      · obtain ⟨rest, rfl⟩ := List.head?_eq_some_iff.mp space
        simp [wordsFrom, pendingWord]
      · obtain ⟨rest, rfl⟩ := List.head?_eq_some_iff.mp quote
        simp [wordsFrom, pendingWord]
  | cons c rest ih =>
    rw [List.cons_append, wordsFrom, wordsFrom]
    have ended : Edge rest ∧ (rest = [] → ([] : List Char) = []) ∨
        more.head? = some ' ' ∨ more.head? = some '"' :=
      apart.imp_left fun edge => ⟨(edge_of_cons edge.1).1, fun _ => rfl⟩
    by_cases quote : c = '"'
    · -- A quote ends the word begun and turns the state around, in both readings.
      subst quote
      rw [quoteOpen_cons_quote] at outside
      cases quoted with
      | true =>
        have shut : (false ^^ quoteOpen rest) = false := by simpa using outside
        simp [ih shut ended]
      | false =>
        have opened : (true ^^ quoteOpen rest) = false := by simpa using outside
        simp [ih opened ended]
    · rw [quoteOpen_cons_of_ne quote] at outside
      simp only [if_neg quote]
      split
      next blank =>
        -- This space separates too: a new word begins outside quotes.
        rw [blank.2] at outside
        rw [ih outside ended, List.append_assoc]
      next inside =>
        refine ih outside (apart.imp_left fun edge => ⟨(edge_of_cons edge.1).1, fun last => ?_⟩)
        -- A space at the end is outside quotes, so the first half does not end in this word.
        have space := ((edge_of_cons edge.1).2 last).resolve_right quote
        subst last
        exact absurd ⟨space, by simpa [quoteOpen_nil] using outside⟩ inside

/-- **A space outside quotes separates**: the words of the two halves are read apart. -/
theorem words_append_space (before after : String) (closed : quoteOpen before.toList = false) :
    (split (before ++ " " ++ after)).words = (split before).words ++ (split after).words := by
  have chars : (before ++ " " ++ after).toList = before.toList ++ ' ' :: after.toList := by
    simp [String.toList_append]
  simp only [split, chars]
  rw [wordsFrom_append (by simpa using closed) (.inr (.inl rfl))]
  simp [wordsFrom, pendingWord]

/-- A text that ends at a word boundary: nothing, or a line that ends with a space. -/
theorem words_append_of_boundary (before after : String)
    (closed : quoteOpen before.toList = false)
    (boundary : before = "" ∨ before.toList.getLast? = some ' ') :
    (split (before ++ after)).words = (split before).words ++ (split after).words := by
  have edge : Edge before.toList := boundary.imp (by simp [·]) .inl
  simp only [split, String.toList_append]
  exact wordsFrom_append (by simpa using closed) (.inl ⟨edge, fun _ => rfl⟩)

/-- Before a quote outside quotes, a line can always be cut. -/
theorem words_append_quote {cs : List Char} (outside : quoteOpen cs = false) (more : List Char) :
    wordsFrom false [] (cs ++ '"' :: more) =
      wordsFrom false [] cs ++ wordsFrom false [] ('"' :: more) :=
  wordsFrom_append (by simpa using outside) (.inr (.inr rfl))

/-! ### Plain words -/

/-- A text that can stand on a line as it is: no space and no quote in it. -/
def IsPlain (text : String) : Prop := ' ' ∉ text.toList ∧ '"' ∉ text.toList

instance (text : String) : Decidable (IsPlain text) :=
  inferInstanceAs (Decidable (' ' ∉ text.toList ∧ '"' ∉ text.toList))

/-- Characters that are neither spaces nor quotes are all added to the word begun. -/
theorem wordsFrom_plain (begun cs : List Char) (plain : ' ' ∉ cs ∧ '"' ∉ cs) :
    wordsFrom false begun cs = pendingWord (cs.reverse ++ begun) := by
  induction cs generalizing begun with
  | nil => simp [wordsFrom]
  | cons c rest ih =>
    simp only [List.mem_cons, not_or] at plain
    rw [wordsFrom, if_neg (Ne.symm plain.2.1), if_neg fun h => plain.1.1 h.1.symm,
      ih (c :: begun) ⟨plain.1.2, plain.2.2⟩]
    simp

theorem pendingWord_reverse {cs : List Char} (h : cs ≠ []) :
    pendingWord cs.reverse = [String.ofList cs] := by
  cases reversed : cs.reverse with
  | nil => exact absurd (List.reverse_eq_nil_iff.mp reversed) h
  | cons c rest =>
    have same : (c :: rest).reverse = cs := by rw [← reversed, List.reverse_reverse]
    simp only [pendingWord, same]

theorem words_of_isPlain {text : String} (plain : IsPlain text) (nonempty : text ≠ "") :
    (split text).words = [text] := by
  have chars : text.toList ≠ [] := by simpa using nonempty
  simp only [split]
  rw [wordsFrom_plain [] text.toList plain, List.append_nil, pendingWord_reverse chars,
    String.ofList_toList]

/-- A line that ends with a plain word is not about to begin a new one. -/
theorem atNewWord_append_plain (before : String) {text : String} (plain : IsPlain text)
    (nonempty : text ≠ "") : (split (before ++ text)).atNewWord = false := by
  have chars : text.toList ≠ [] := by simpa using nonempty
  have last : (before ++ text).toList.getLast? = some (text.toList.getLast chars) := by
    rw [String.toList_append, List.getLast?_append, List.getLast?_eq_some_getLast chars]
    rfl
  have notSpace : text.toList.getLast chars ≠ ' ' := by
    intro space
    exact plain.1 (space ▸ List.getLast_mem chars)
  simp only [split, last, Option.some_beq_some, beq_eq_false_iff_ne.mpr notSpace, Bool.and_false]

/-! ### Words have no quotes -/

theorem not_mem_of_mem_pendingWord {cs : List Char} (unquoted : '"' ∉ cs) :
    ∀ word ∈ pendingWord cs, '"' ∉ word.toList := by
  intro word member
  unfold pendingWord at member
  split at member
  · cases member
  · rw [List.mem_singleton] at member
    simpa [member] using unquoted

/-- The words of a line have no quotes. -/
theorem not_mem_of_mem_wordsFrom {quoted : Bool} {begun cs : List Char} (unquoted : '"' ∉ begun) :
    ∀ word ∈ wordsFrom quoted begun cs, '"' ∉ word.toList := by
  induction cs generalizing quoted begun with
  | nil => exact not_mem_of_mem_pendingWord unquoted
  | cons c rest ih =>
    intro word member
    have pending := not_mem_of_mem_pendingWord unquoted word
    have later (quoted : Bool) : word ∈ wordsFrom quoted [] rest → '"' ∉ word.toList :=
      ih List.not_mem_nil word
    rw [wordsFrom] at member
    split at member
    · split at member
      · rcases List.mem_cons.mp member with rfl | member
        · simpa using unquoted
        · exact later _ member
      · exact (List.mem_append.mp member).elim pending (later _)
    next noQuote =>
      split at member
      · exact (List.mem_append.mp member).elim pending (later _)
      · refine ih (fun inside => ?_) word member
        exact (List.mem_cons.mp inside).elim (noQuote ·.symm) unquoted

theorem not_mem_of_mem_words {line word : String} (member : word ∈ (split line).words) :
    '"' ∉ word.toList :=
  not_mem_of_mem_wordsFrom List.not_mem_nil word member

/-! ### Written words -/

/-- Inside quotes all characters up to the closing quote belong to the word. -/
theorem wordsFrom_quoted (begun cs : List Char) (unquoted : '"' ∉ cs) :
    wordsFrom true begun (cs ++ ['"']) = [String.ofList (begun.reverse ++ cs)] := by
  induction cs generalizing begun with
  | nil => simp [wordsFrom, pendingWord]
  | cons c rest ih =>
    simp only [List.mem_cons, not_or] at unquoted
    rw [List.cons_append, wordsFrom, if_neg (Ne.symm unquoted.1), if_neg (by simp),
      ih (c :: begun) unquoted.2]
    simp

theorem toList_quoted (word : String) :
    ("\"" ++ word ++ "\"").toList = '"' :: (word.toList ++ ['"']) := by
  simp [String.toList_append]

/-- A word without a quote is read back from the way it is written. -/
theorem words_writeWord {word : String} (unquoted : '"' ∉ word.toList) :
    (split (writeWord word)).words = [word] := by
  unfold writeWord
  split
  next =>
    simp only [Line.split, toList_quoted]
    rw [wordsFrom]
    simp [pendingWord, wordsFrom_quoted [] word.toList unquoted]
  next bare =>
    simp only [Bool.or_eq_true, not_or, String.isEmpty_iff, List.contains_iff_mem] at bare
    exact words_of_isPlain ⟨bare.2, unquoted⟩ bare.1

/-- A plain word is written as it is. -/
theorem writeWord_of_isPlain {word : String} (plain : IsPlain word) (nonempty : word ≠ "") :
    writeWord word = word := by
  simp [writeWord, nonempty, plain.1]

theorem quoteOpen_writeWord {word : String} (unquoted : '"' ∉ word.toList) :
    quoteOpen (writeWord word).toList = false := by
  unfold writeWord
  split
  · rw [toList_quoted, quoteOpen_cons_quote, quoteOpen_append, quoteOpen_of_not_mem unquoted]
    rfl
  · exact quoteOpen_of_not_mem unquoted

/-- **A line made from words has those words**, if none of them has a quote. -/
theorem words_ofWords (words : List String) (unquoted : ∀ word ∈ words, '"' ∉ word.toList) :
    (split (ofWords words)).words = words := by
  induction words with
  | nil => simp [ofWords, String.intercalate_nil, split, wordsFrom, pendingWord]
  | cons word rest ih =>
    have first := unquoted word (by simp)
    have others := ih fun other member => unquoted other (by simp [member])
    cases rest with
    | nil => simpa [ofWords, String.intercalate_singleton] using words_writeWord first
    | cons next rest =>
      simp only [ofWords, List.map_cons, String.intercalate_cons_cons] at others ⊢
      rw [words_append_space _ _ (quoteOpen_writeWord first), words_writeWord first, others,
        List.singleton_append]

/-- Plain words make a line by themselves. -/
theorem ofWords_of_plain {words : List String}
    (plain : ∀ word ∈ words, word ≠ "" ∧ IsPlain word) :
    ofWords words = String.intercalate " " words := by
  have bare : words.map writeWord = words.map id :=
    List.map_congr_left fun word member =>
      writeWord_of_isPlain (plain word member).2 (plain word member).1
  rw [ofWords, bare, List.map_id]

/-! ### Joining and splitting -/

/-- A written word ends with a character, and not with a space. -/
theorem getLast?_writeWord (word : String) :
    ∃ c, (writeWord word).toList.getLast? = some c ∧ c ≠ ' ' := by
  unfold writeWord
  split
  next =>
    exact ⟨'"', by rw [toList_quoted, ← List.cons_append, List.getLast?_concat], by decide⟩
  next bare =>
    simp only [Bool.or_eq_true, not_or, String.isEmpty_iff, List.contains_iff_mem] at bare
    have chars : word.toList ≠ [] := by simpa using bare.1
    refine ⟨_, List.getLast?_eq_some_getLast chars, fun space => bare.2 ?_⟩
    exact space ▸ List.getLast_mem chars

/-- Nor does a line made from words end with a space. -/
theorem getLast?_ofWords {words : List String} (nonempty : words ≠ []) :
    ∃ c, (ofWords words).toList.getLast? = some c ∧ c ≠ ' ' := by
  induction words with
  | nil => exact absurd rfl nonempty
  | cons word rest ih =>
    cases rest with
    | nil => simpa [ofWords, String.intercalate_singleton] using getLast?_writeWord word
    | cons next rest =>
      obtain ⟨c, last, notSpace⟩ := ih (List.cons_ne_nil _ _)
      refine ⟨c, ?_, notSpace⟩
      simp only [ofWords, List.map_cons, String.intercalate_cons_cons] at last ⊢
      rw [String.toList_append, List.getLast?_append, last, Option.some_or]

theorem atNewWord_ofWords (words : List String) : (split (ofWords words)).atNewWord = false := by
  cases words with
  | nil => rfl
  | cons word rest =>
    obtain ⟨c, last, notSpace⟩ := getLast?_ofWords (List.cons_ne_nil word rest)
    simp only [split, last, Option.some_beq_some, beq_eq_false_iff_ne.mpr notSpace, Bool.and_false]

/-- **Joining words and splitting the line.** The line made from words has just those words exactly
if none of them has a quote, and it never waits for a new word. The words of a line have no
quotes, so they can be joined and read again as often as one likes. -/
theorem split_ofWords :
    (∀ words : List String,
      ((split (ofWords words)).words = words ↔ ∀ word ∈ words, '"' ∉ word.toList) ∧
      (split (ofWords words)).atNewWord = false) ∧
    ∀ line : String, (split (ofWords (split line).words)).words = (split line).words := by
  refine ⟨fun words => ⟨⟨fun same word member => ?_, words_ofWords words⟩, atNewWord_ofWords words⟩,
    fun line => words_ofWords _ fun word member => not_mem_of_mem_words member⟩
  -- A word that is read back is a word of a line.
  rw [← same] at member
  exact not_mem_of_mem_words member

end Steering.Line
