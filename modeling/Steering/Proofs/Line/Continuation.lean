import Steering.Proofs.Line.Typed

/-!
# Lines that go on

What a line becomes when more is written behind it depends on whether a quoted section is open. If
none is, a space begins anew, and all that follows is read by itself. If one is, everything up to
the next quote belongs to the word that the last quote has opened. In both cases the whole reading
is known, the words and whether a new one is about to begin (`split_continued`).
-/

namespace Steering.Line

/-- Behind a space outside quotes a new word begins, and with the next text its own end counts. -/
theorem atNewWord_append_space (before after : String) (closed : quoteOpen before.toList = false) :
    (split (before ++ " " ++ after)).atNewWord =
      (decide (after = "") || (split after).atNewWord) := by
  have chars : (before ++ " " ++ after).toList = before.toList ++ ' ' :: after.toList := by
    simp [String.toList_append]
  have sameState : quoteOpen (before.toList ++ ' ' :: after.toList) = quoteOpen after.toList := by
    rw [quoteOpen_append, closed, Bool.false_xor, quoteOpen_cons_of_ne (by decide)]
  simp only [split, chars, sameState, List.getLast?_append]
  cases rest : after.toList with
  | nil =>
    have nothing : after = "" := by simpa using rest
    simp [nothing, quoteOpen_nil]
  | cons c cs =>
    have something : after ≠ "" := by
      rintro rfl
      cases rest
    simp [something, List.getLast?_cons_cons, List.getLast?_eq_some_getLast (List.cons_ne_nil c cs)]

/-- In a line that ends inside quotes, the quote that has opened the section is the last one. -/
theorem exists_opening {cs : List Char} (isOpen : quoteOpen cs = true) :
    ∃ before rest, cs = before ++ '"' :: rest ∧ '"' ∉ rest ∧ quoteOpen before = false := by
  have quote : '"' ∈ cs := by
    refine Decidable.byContradiction fun none => ?_
    rw [quoteOpen_of_not_mem none] at isOpen
    cases isOpen
  -- The last quote is the first one from behind.
  obtain ⟨rest, before, reversed, unquoted⟩ :=
    List.eq_append_cons_of_mem (List.mem_reverse.mpr quote)
  have same : cs = before.reverse ++ '"' :: rest.reverse := by
    simpa using congrArg List.reverse reversed
  have unquoted : '"' ∉ rest.reverse := by simpa using unquoted
  refine ⟨before.reverse, rest.reverse, same, unquoted, ?_⟩
  rwa [same, quoteOpen_append, quoteOpen_cons_quote, quoteOpen_of_not_mem unquoted, Bool.not_false,
    Bool.xor_true, Bool.not_eq_true'] at isOpen

/-- A section that is not closed is one word, if there is something in it. -/
theorem words_append_open {before : String} (outside : quoteOpen before.toList = false)
    {content : String} (unquoted : '"' ∉ content.toList) :
    (split (before ++ "\"" ++ content)).words =
      (split before).words ++ if content = "" then [] else [content] := by
  have chars : (before ++ "\"" ++ content).toList = before.toList ++ '"' :: content.toList := by
    simp [String.toList_append]
  simp only [split, chars]
  rw [words_append_quote outside]
  split
  next nothing => simp [nothing, wordsFrom, pendingWord]
  next something =>
    rw [words_open (by simpa using something) unquoted, String.ofList_toList]

theorem atNewWord_of_open {line : String} (isOpen : quoteOpen line.toList = true) :
    (split line).atNewWord = false := by
  rw [split, isOpen]
  rfl

/-- **A line that goes on.** Where no section is open, a space keeps what is on its two sides apart:
the words are those of the two texts, and a new word is about to begin if nothing follows, or if one
is in the text that follows. Where a section is open, and no more quotes follow, the line has the
words before its last quote, and all behind the quote is one word more, if it is anything; no new
word is about to begin. -/
theorem split_continued :
    (∀ before after : String, quoteOpen before.toList = false →
      split (before ++ " " ++ after) =
        { words := (split before).words ++ (split after).words
          atNewWord := decide (after = "") || (split after).atNewWord }) ∧
    ∀ line : String, quoteOpen line.toList = true →
      ∃ before rest, line = before ++ "\"" ++ rest ∧ '"' ∉ rest.toList ∧
        (split (before ++ "\"")).words = (split before).words ∧
        ∀ more : String, '"' ∉ more.toList →
          split (line ++ more) =
            { words := (split before).words ++ if rest ++ more = "" then [] else [rest ++ more]
              atNewWord := false } := by
  constructor
  · intro before after closed
    rw [← words_append_space before after closed, ← atNewWord_append_space before after closed]
  · intro line isOpen
    obtain ⟨before, rest, chars, unquoted, outside⟩ := exists_opening isOpen
    have same : line = .ofList before ++ "\"" ++ .ofList rest := by
      rw [← String.toList_inj, chars]
      simp [String.toList_append]
    have outside : quoteOpen (String.ofList before).toList = false := by
      rwa [String.toList_ofList]
    refine ⟨.ofList before, .ofList rest, same, by rwa [String.toList_ofList], ?_, ?_⟩
    · simpa using @words_append_open _ outside "" List.not_mem_nil
    · intro more plain
      have stillOpen : quoteOpen (line ++ more).toList = true := by
        rw [String.toList_append, quoteOpen_append, isOpen, quoteOpen_of_not_mem plain]
        rfl
      have content : '"' ∉ (.ofList rest ++ more : String).toList := by
        simp [String.toList_append, unquoted, plain]
      rw [← words_append_open outside content, ← atNewWord_of_open stillOpen, same,
        ← String.append_assoc]

end Steering.Line
