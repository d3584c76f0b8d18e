import Steering.Proofs.Text.CodeSet
import Steering.Text.Lowercase

/-!
# Lowercase in its surroundings

The lowercase of a text is not made of the lowercases of its parts: whether a capital sigma ends a
word depends on what stands around it, and by that it becomes `ς` or `σ`. Nothing else depends on
the surroundings. So the lowercase that a text has between two others is its own if and only if its
sigmas end words there where they do in the text itself (`KeepsSigmas`,
`lowerWithin_eq_lowerChars_iff`); for all prefixes of a text this is so if and only if it has no
sigma inside a word (`keepsSigmas_prefixes_iff`).

This decides what is left of prefixes and of runs of neighbouring characters when the case is
ignored. A prefix is a prefix of the lowercase if and only if its sigmas are kept
(`lowerChars_prefix_iff`), a run is in it if they are (`lowerChars_infix`); and if there are
surroundings that do not keep them, there are some in which the run is lost (`exists_lost`).
-/

namespace Steering.Text

/-! ### Words that end in sigma -/

/-- A capital sigma between the two texts ends a word: of the characters that casing does not
ignore, the last one before it is cased, and the first one behind it is not. -/
def endsWord (before after : List Char) : Bool := nextIsCased before.reverse && !nextIsCased after

/-- The capital sigmas of the text end words between the two others where they do in the text. -/
def KeepsSigmas (before cs after : List Char) : Prop :=
  ∀ front back, cs = front ++ 'Σ' :: back →
    endsWord (before ++ front) (back ++ after) = endsWord front back

theorem keepsSigmas_of_not_mem {cs : List Char} (none : 'Σ' ∉ cs) (before after : List Char) :
    KeepsSigmas before cs after := by
  rintro front back rfl
  simp at none

theorem nextIsCased_append (front back : List Char) :
    nextIsCased (front ++ back) =
      if (front.dropWhile isCaseIgnorable).isEmpty then nextIsCased back else nextIsCased front := by
  unfold nextIsCased
  rw [List.dropWhile_append]
  cases front.dropWhile isCaseIgnorable with
  | nil => rw [List.isEmpty_nil, if_pos rfl, if_pos rfl]
  | cons c rest =>
    rw [List.isEmpty_cons, if_neg Bool.false_ne_true, if_neg Bool.false_ne_true, List.cons_append]

theorem not_nextIsCased {cs : List Char} (ignored : (cs.dropWhile isCaseIgnorable).isEmpty) :
    nextIsCased cs = false := by
  rw [nextIsCased, List.isEmpty_iff.mp ignored]

/-- A cased character that comes first does so whatever follows. -/
theorem nextIsCased_append_of_cased {front : List Char} (cased : nextIsCased front = true)
    (back : List Char) : nextIsCased (front ++ back) = true := by
  rw [nextIsCased_append]
  split
  next ignored =>
    rw [not_nextIsCased ignored] at cased
    cases cased
  next => exact cased

set_option maxRecDepth 2000 in
theorem isCased_alpha : isCased 'Α' = true := by
  rw [isCased, CodeSet.contains, CodeSet.hasCode, casedSet, CodeSet.ranges_ofLines (by simp)]
  simp only [List.flatMap_cons, List.flatMap_nil]
  -- The characters of each line are taken from its literal, so that nothing has to be decoded.
  repeat rw [String.toList_ofList]
  decide +kernel

set_option maxRecDepth 2000 in
theorem isCaseIgnorable_alpha : isCaseIgnorable 'Α' = false := by
  rw [isCaseIgnorable, CodeSet.contains, CodeSet.hasCode, caseIgnorableSet,
    CodeSet.ranges_ofLines (by simp)]
  simp only [List.flatMap_cons, List.flatMap_nil]
  repeat rw [String.toList_ofList]
  decide +kernel

theorem nextIsCased_alpha (rest : List Char) : nextIsCased ('Α' :: rest) = true := by
  rw [nextIsCased, List.dropWhile_cons_of_neg (by rw [isCaseIgnorable_alpha]; exact nofun)]
  exact isCased_alpha

/-- If something behind a text can make a cased character come first, an alpha does. -/
theorem nextIsCased_append_alpha {front back : List Char} (uncased : nextIsCased front = false)
    (cased : nextIsCased (front ++ back) = true) : nextIsCased (front ++ ['Α']) = true := by
  rw [nextIsCased_append] at cased ⊢
  split at cased
  next ignored => rw [if_pos ignored, nextIsCased_alpha]
  next =>
    rw [uncased] at cased
    cases cased

/-- A sigma that ends a word does so without what follows. -/
theorem endsWord_of_append {before after more : List Char}
    (ends : endsWord before (after ++ more) = true) : endsWord before after = true := by
  simp only [endsWord, Bool.and_eq_true, Bool.not_eq_true'] at ends ⊢
  refine ⟨ends.1, Bool.eq_false_iff.mpr fun cased => ?_⟩
  rw [nextIsCased_append_of_cased cased] at ends
  exact nomatch ends.2

/-- A sigma that ends a word does so whatever stands in front of the word. -/
theorem endsWord_append {before after : List Char} (ends : endsWord before after = true)
    (more : List Char) : endsWord (more ++ before) after = true := by
  simp only [endsWord, Bool.and_eq_true, List.reverse_append] at ends ⊢
  exact ⟨nextIsCased_append_of_cased ends.1 _, ends.2⟩

/-- Of a text, the sigmas of all its prefixes are kept if and only if none stands inside a word. -/
theorem keepsSigmas_prefixes_iff {cs : List Char} :
    (∀ front back, cs = front ++ back → KeepsSigmas [] front back) ↔
      ∀ front back, cs = front ++ 'Σ' :: back → nextIsCased front.reverse = true →
        nextIsCased back = false := by
  constructor
  · intro keeps front back split cased
    -- The prefix that the sigma is the last character of ends a word with it.
    have last : endsWord front [] = true := by
      rw [endsWord, cased, nextIsCased, List.dropWhile_nil, Bool.not_false, Bool.and_true]
    have kept := keeps (front ++ ['Σ']) back (by simp [split]) front [] rfl
    rwa [List.nil_append, List.nil_append, last, endsWord, cased, Bool.true_and,
      Bool.not_eq_true'] at kept
  · rintro final front after rfl inside back rfl
    cases cased : nextIsCased inside.reverse with
    | false => simp only [endsWord, List.nil_append, cased, Bool.false_and]
    | true =>
      have ends : endsWord inside (back ++ after) = true := by
        rw [endsWord, cased, final inside (back ++ after) (by simp) cased, Bool.not_false,
          Bool.and_true]
      rw [List.nil_append, ends, endsWord_of_append ends]

/-! ### The lowercase of a part -/

variable {before cs after : List Char}

/-- The lowercase of a character between two texts. -/
def lowerBetween (before : List Char) (c : Char) (after : List Char) : List Char :=
  if c = 'Σ' then if endsWord before after then ['ς'] else ['σ'] else lowerChar c

/-- The lowercase that a text has between two others. -/
def lowerWithin (before after : List Char) : List Char → List Char
  | [] => []
  | c :: rest => lowerBetween before c (rest ++ after) ++ lowerWithin (before ++ [c]) after rest

theorem lowerFrom_cons (before : List Char) (c : Char) (rest : List Char) :
    lowerFrom before.reverse (c :: rest) =
      lowerBetween before c rest ++ lowerFrom (before ++ [c]).reverse rest := by
  rw [lowerFrom, List.reverse_append]
  rfl

theorem lowerFrom_append (before cs after : List Char) :
    lowerFrom before.reverse (cs ++ after) =
      lowerWithin before after cs ++ lowerFrom (before ++ cs).reverse after := by
  induction cs generalizing before with
  | nil => simp [lowerWithin]
  | cons c rest ih =>
    rw [List.cons_append, lowerFrom_cons, ih, lowerWithin, List.append_assoc, List.append_assoc,
      List.singleton_append]

theorem lowerChars_eq (cs : List Char) : lowerChars cs = lowerWithin [] [] cs := by
  have whole := lowerFrom_append [] cs []
  rwa [List.append_nil, lowerFrom, List.append_nil] at whole

theorem lowerWithin_alpha : lowerWithin before after ['Α'] = ['α'] := by
  have alpha : lowerChar 'Α' = ['α'] := by decide +kernel
  rw [lowerWithin, lowerBetween, if_neg (by decide), alpha, lowerWithin, List.append_nil]

/-- The lowercase of a text, part by part. -/
theorem lowerChars_append (before cs after : List Char) :
    lowerChars (before ++ cs ++ after) =
      lowerWithin [] (cs ++ after) before ++ lowerWithin before after cs ++
        lowerWithin (before ++ cs) [] after := by
  have last : lowerFrom (before ++ cs).reverse after = lowerWithin (before ++ cs) [] after := by
    have whole := lowerFrom_append (before ++ cs) after []
    rwa [List.append_nil, lowerFrom, List.append_nil] at whole
  calc lowerChars (before ++ cs ++ after)
    _ = lowerFrom [] (before ++ (cs ++ after)) := by rw [lowerChars, List.append_assoc]
    _ = lowerWithin [] (cs ++ after) before ++ lowerFrom before.reverse (cs ++ after) :=
      lowerFrom_append [] before (cs ++ after)
    _ = _ := by rw [lowerFrom_append, last, List.append_assoc]

/-! ### Other surroundings -/

section Surroundings

variable {one after other last cs : List Char}

theorem lowerBetween_eq_iff {c : Char} :
    lowerBetween one c after = lowerBetween other c last ↔
      (c = 'Σ' → endsWord one after = endsWord other last) := by
  unfold lowerBetween
  by_cases sigma : c = 'Σ'
  · cases endsWord one after <;> cases endsWord other last <;> simp [sigma]
  · simp [sigma]

theorem length_lowerBetween {c : Char} :
    (lowerBetween one c after).length = (lowerBetween other c last).length := by
  unfold lowerBetween
  split
  · split <;> split <;> rfl
  · rfl

theorem length_lowerWithin :
    (lowerWithin one after cs).length = (lowerWithin other last cs).length := by
  induction cs generalizing one other with
  | nil => rfl
  | cons c rest ih =>
    rw [lowerWithin, lowerWithin, List.length_append, List.length_append, ih]
    exact congrArg (· + _) length_lowerBetween

/-- A text has one lowercase in two surroundings if and only if its sigmas end words in the one
where they do in the other. -/
theorem lowerWithin_eq_iff :
    lowerWithin one after cs = lowerWithin other last cs ↔
      ∀ front back, cs = front ++ 'Σ' :: back →
        endsWord (one ++ front) (back ++ after) = endsWord (other ++ front) (back ++ last) := by
  induction cs generalizing one other with
  | nil => simp [lowerWithin]
  | cons c rest ih =>
    rw [lowerWithin, lowerWithin]
    constructor
    · intro same front back split
      obtain ⟨first, others⟩ := List.append_inj same length_lowerBetween
      cases front with
      | nil =>
        obtain ⟨rfl, rfl⟩ := List.cons.inj split
        simpa using lowerBetween_eq_iff.mp first rfl
      | cons d front =>
        obtain ⟨rfl, rfl⟩ := List.cons.inj split
        simpa using ih.mp others front back rfl
    · intro alike
      have first : lowerBetween one c (rest ++ after) = lowerBetween other c (rest ++ last) :=
        lowerBetween_eq_iff.mpr fun sigma => by simpa using alike [] rest (by rw [sigma]; rfl)
      have others : lowerWithin (one ++ [c]) after rest = lowerWithin (other ++ [c]) last rest :=
        ih.mpr fun front back split => by
          simpa using alike (c :: front) back (by rw [split, List.cons_append])
      rw [first, others]

/-- Where the second surroundings only let more sigmas end words, they change nothing, or there are
more final sigmas then and fewer others. -/
theorem count_lowerWithin
    (more : ∀ front back, cs = front ++ 'Σ' :: back →
      endsWord (one ++ front) (back ++ after) = true →
        endsWord (other ++ front) (back ++ last) = true) :
    lowerWithin one after cs = lowerWithin other last cs ∨
      (lowerWithin one after cs).count 'ς' < (lowerWithin other last cs).count 'ς' ∧
        (lowerWithin other last cs).count 'σ' < (lowerWithin one after cs).count 'σ' := by
  induction cs generalizing one other with
  | nil => exact .inl rfl
  | cons c rest ih =>
    have here : lowerBetween one c (rest ++ after) = lowerBetween other c (rest ++ last) ∨
        lowerBetween one c (rest ++ after) = ['σ'] ∧
          lowerBetween other c (rest ++ last) = ['ς'] := by
      by_cases sigma : c = 'Σ'
      · have ends := more [] rest (by rw [sigma]; rfl)
        rw [List.append_nil, List.append_nil] at ends
        simp only [lowerBetween, if_pos sigma]
        cases first : endsWord one (rest ++ after) with
        | true => simp [ends first]
        | false => cases endsWord other (rest ++ last) <;> simp
      · exact .inl (lowerBetween_eq_iff.mpr fun isSigma => absurd isSigma sigma)
    have others : lowerWithin (one ++ [c]) after rest = lowerWithin (other ++ [c]) last rest ∨ _ :=
      ih fun front back split ends => by
        simpa using more (c :: front) back (by rw [split, List.cons_append]) (by simpa using ends)
    simp only [lowerWithin, List.count_append]
    rcases here with same | ⟨first, second⟩
    · rw [same]
      rcases others with equal | ⟨final, middle⟩
      · exact .inl (by rw [equal])
      · exact .inr ⟨by omega, by omega⟩
    · -- The first sigma is one more, whether or not there are more behind it.
      have final : List.count 'ς' ['σ'] = 0 ∧ List.count 'ς' ['ς'] = 1 := by decide
      have middle : List.count 'σ' ['σ'] = 1 ∧ List.count 'σ' ['ς'] = 0 := by decide
      rw [first, second]
      right
      rcases others with equal | ⟨moreFinal, fewerMiddle⟩
      · rw [equal]
        omega
      · omega

end Surroundings

/-! ### Prefixes and runs -/

theorem lowerWithin_eq_lowerChars_iff :
    lowerWithin before after cs = lowerChars cs ↔ KeepsSigmas before cs after := by
  rw [lowerChars_eq, lowerWithin_eq_iff]
  simp only [KeepsSigmas, List.nil_append, List.append_nil]

/-- A prefix stays one in lowercase if and only if its sigmas are kept. -/
theorem lowerChars_prefix_iff :
    lowerChars cs <+: lowerChars (cs ++ after) ↔ KeepsSigmas [] cs after := by
  have whole : lowerChars (cs ++ after) = lowerWithin [] after cs ++ lowerWithin cs [] after :=
    lowerChars_append [] cs after
  rw [← lowerWithin_eq_lowerChars_iff, whole]
  constructor
  · rintro ⟨rest, same⟩
    rw [lowerChars_eq] at same ⊢
    exact (List.append_inj same length_lowerWithin).1.symm
  · intro same
    rw [same]
    exact List.prefix_append _ _

/-- A run of neighbouring characters stays one in lowercase if its sigmas are kept. -/
theorem lowerChars_infix (keeps : KeepsSigmas before cs after) :
    lowerChars cs <:+: lowerChars (before ++ cs ++ after) := by
  rw [lowerChars_append, lowerWithin_eq_lowerChars_iff.mpr keeps]
  exact ⟨_, _, rfl⟩

/-- A sigma that ends a word in the text but not in some surroundings: an alpha behind the text goes
on with the word, so that the whole has too few final sigmas. -/
theorem lost_before_alpha {front back : List Char} (split : cs = front ++ 'Σ' :: back)
    (ends : endsWord front back = true)
    (goesOn : endsWord (before ++ front) (back ++ after) = false) :
    ¬ lowerChars cs <:+: lowerChars ([] ++ cs ++ ['Α']) := by
  have cased : nextIsCased (back ++ after) = true := by
    have start := endsWord_append ends before
    simp only [endsWord, Bool.and_eq_true] at start
    rwa [endsWord, start.1, Bool.true_and, Bool.not_eq_false'] at goesOn
  have changed : endsWord front (back ++ ['Α']) = false := by
    simp only [endsWord, Bool.and_eq_true, Bool.not_eq_true'] at ends
    rw [endsWord, nextIsCased_append_alpha ends.2 cased, Bool.not_true, Bool.and_false]
  have whole : lowerChars ([] ++ cs ++ ['Α']) = lowerWithin [] ['Α'] cs ++ ['α'] := by
    rw [lowerChars_append, lowerWithin_alpha, lowerWithin, List.nil_append]
  intro found
  -- A part has no more final sigmas than the whole, but before the alpha there are fewer of them.
  have enough : (lowerWithin [] [] cs).count 'ς' ≤ (lowerWithin [] ['Α'] cs).count 'ς' := by
    have none : ['α'].count 'ς' = 0 := by decide
    have count := found.sublist.count_le 'ς'
    rwa [whole, lowerChars_eq, List.count_append, none, Nat.add_zero] at count
  have fewer : lowerWithin [] ['Α'] cs = lowerWithin [] [] cs ∨ _ :=
    count_lowerWithin fun _ _ _ ends => by rw [List.append_nil]; exact endsWord_of_append ends
  rcases fewer with same | ⟨final, -⟩
  · have kept := lowerWithin_eq_iff.mp same front back split
    rw [List.nil_append, List.append_nil, changed, ends] at kept
    cases kept
  · exact absurd enough (Nat.not_le_of_lt final)

/-- A sigma that ends a word in some surroundings but not in the text: with an alpha before the text
it does too, so that the whole has too few other sigmas. -/
theorem lost_behind_alpha {front back : List Char} (split : cs = front ++ 'Σ' :: back)
    (goesOn : endsWord front back = false)
    (ends : endsWord (before ++ front) (back ++ after) = true) :
    ¬ lowerChars cs <:+: lowerChars (['Α'] ++ cs ++ []) := by
  have alone := endsWord_of_append ends
  simp only [endsWord, Bool.and_eq_true, Bool.not_eq_true', List.reverse_append] at alone
  have uncased : nextIsCased front.reverse = false := by
    rwa [endsWord, alone.2, Bool.not_false, Bool.and_true] at goesOn
  have changed : endsWord (['Α'] ++ front) back = true := by
    rw [endsWord, alone.2, List.reverse_append]
    exact (Bool.and_true _).trans (nextIsCased_append_alpha uncased alone.1)
  have whole : lowerChars (['Α'] ++ cs ++ []) = ['α'] ++ lowerWithin ['Α'] [] cs := by
    rw [lowerChars_append, lowerWithin_alpha, lowerWithin, List.append_nil]
  intro found
  -- Here it is the sigmas that end no word of which the whole has too few.
  have enough : (lowerWithin [] [] cs).count 'σ' ≤ (lowerWithin ['Α'] [] cs).count 'σ' := by
    have none : ['α'].count 'σ' = 0 := by decide
    have count := found.sublist.count_le 'σ'
    rwa [whole, lowerChars_eq, List.count_append, none, Nat.zero_add] at count
  have fewer : lowerWithin [] [] cs = lowerWithin ['Α'] [] cs ∨ _ :=
    count_lowerWithin fun _ _ _ ends => endsWord_append ends _
  rcases fewer with same | ⟨-, middle⟩
  · have kept := lowerWithin_eq_iff.mp same front back split
    rw [List.nil_append, List.append_nil, changed, goesOn] at kept
    cases kept
  · exact absurd enough (Nat.not_le_of_lt middle)

/-- Where some surroundings change a sigma of a text, there are some in which the text is lost when
the case is ignored. -/
theorem exists_lost (changed : ¬ KeepsSigmas before cs after) :
    ∃ before after, ¬ lowerChars cs <:+: lowerChars (before ++ cs ++ after) := by
  simp only [KeepsSigmas, Classical.not_forall] at changed
  obtain ⟨front, back, split, differs⟩ := changed
  cases ends : endsWord front back with
  | true => exact ⟨[], ['Α'], lost_before_alpha split ends (by simpa [ends] using differs)⟩
  | false => exact ⟨['Α'], [], lost_behind_alpha split ends (by simpa [ends] using differs)⟩

end Steering.Text
