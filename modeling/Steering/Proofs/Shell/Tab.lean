import Steering.Proofs.Grammar.Offer
import Steering.Proofs.Shell.Atomic
import Steering.Shell.Tab

/-!
# What the tab key may insert

What replaces the word under the cursor is one word of the line again, and the line goes on to be
accepted (`tab_keeps_accepted`). A candidate is a word or a name of the grammar, a fixed word, or
the name of a resource; no line can give a resource a name that cannot be typed (`Reachable.named`),
so it can be taken as the value it is offered for. A placeholder replaces nothing.

Where the word under the cursor and the word that is completed are not the same, this fails
(`Aligned`): a quote that has just been opened, and a quote that is opened directly behind a closing
one.
-/

namespace Steering.Store.Document

open Traffic Grammar

/-- Every resource has a name that can be given as a value. -/
def Named (doc : Document) : Prop := ∀ kind, ∀ item ∈ doc.items kind, IsValue (Kind.nameOf item)

theorem named_seed : seed.Named := by
  intro kind item there
  cases kind with
  | platform =>
    have names : ∀ p ∈ seed.platforms, isMarked p.name = false ∧ '"' ∉ p.name.toList := by
      decide +kernel
    exact names item there
  | alert | application | zone => exact absurd there List.not_mem_nil

theorem named_empty : ({} : Document).Named := by
  intro kind item there
  cases kind <;> exact absurd there List.not_mem_nil

end Steering.Store.Document

namespace Steering.Shell

open Store Traffic Grammar

/-! ### The names of a reachable store -/

theorem Did.named {α : Type} {now : Instant} {w after : Workspace} {result : Except ShellError α}
    (did : Did now w result after) (named : w.store.document.Named) :
    after.store.document.Named := by
  -- What a line makes is named by a word of it, which the walk has taken as a value.
  refine did.forall_items (P := fun item => IsValue (Kind.nameOf item)) ?_ named
  intro kind item id wellMade _
  rw [Document.nameOf_asStored]
  exact wellMade.named

variable {shell : Shell} {now : Instant}

theorem Reachable.named [FilterEngine] (reachable : Reachable shell) : shell.document.Named := by
  induction reachable with
  | seeded => exact Document.named_seed
  | empty => exact Document.named_empty
  | line reachable now line ih => exact (execute_did reachable.sound.1 now line).1.named ih
  | files _ disk ih => exact ih

/-! ### What sources answer -/

/-- What a source answers over a document. -/
def answers (doc : Document) : Source → String → List Suggestion
  | .fixed offer, typed => offer.answer typed
  | .platforms scope category, typed =>
    nameSuggestions typed (((listing doc scope).filter fun p => category.all (p.category == ·)).map
      fun p => (p.name, p.category.title))
  | .resources kind, typed =>
    nameSuggestions typed ((doc.shelf (.own kind)).map fun item => (Kind.nameOf item, kind.name))

theorem run_answer {catalog : Catalog Workspace} (coherent : catalog.Coherent) (now : Instant)
    (source : Source) (typed : String) :
    ((answer (service now) source typed).run catalog).1 =
        .ok (answers catalog.document source typed) ∧
      ((answer (service now) source typed).run catalog).2.backend = catalog.backend ∧
      ((answer (service now) source typed).run catalog).2.Coherent := by
  -- Through the caches a list is what it is without them, so only the latter has to be computed.
  cases source with
  | fixed offer => exact ⟨rfl, rfl, coherent⟩
  | platforms scope category =>
    have implements := Implements.bind (.platforms now scope) fun platforms => .pure
      (nameSuggestions typed ((platforms.filter fun p => category.all (p.category == ·)).map
        fun p => (p.name, p.category.title)))
    obtain ⟨result, backend, still⟩ := implements catalog coherent
    have run : (Uncached.platforms (service now) scope >>= fun platforms => pure
        (nameSuggestions typed ((platforms.filter fun p => category.all (p.category == ·)).map
          fun p => (p.name, p.category.title)))).run catalog.backend =
        (.ok (answers catalog.document (.platforms scope category) typed), catalog.backend) := by
      rw [run_bind, run_platforms]
      rfl
    rw [run] at result backend
    exact ⟨result, backend, still⟩
  | resources kind =>
    have implements := Implements.bind (.list now (.own kind)) fun items => .pure
      (nameSuggestions typed (items.map fun item => (Kind.nameOf item, kind.name)))
    obtain ⟨result, backend, still⟩ := implements catalog coherent
    exact ⟨result, backend, still⟩

/-- The suggestions for a line depend on the store only, and looking for them changes nothing but
the caches. -/
theorem complete_spec (coherent : shell.catalog.Coherent) (now : Instant) (line : String) :
    (shell.complete now line).1 = spec.suggest (answers shell.document) line ∧
      (shell.complete now line).2.catalog.backend = shell.catalog.backend ∧
      (shell.complete now line).2.catalog.Coherent := by
  unfold complete Spec.suggest
  cases spec.complete line with
  | list suggestions => exact ⟨rfl, rfl, coherent⟩
  | ask source typed =>
    have ran := run_answer coherent now source typed
    dsimp only
    revert ran
    rcases (answer (service now) source typed).run shell.catalog with ⟨result, catalog⟩
    rintro ⟨rfl, backend, still⟩
    exact ⟨rfl, backend, still⟩

/-! ### Shells in use -/

/-- The shells over a reachable store: one that has been reached, a new one over its store, and what
these become as lines are carried out and completed. -/
inductive InUse [FilterEngine] : Shell → Prop
  | reached {shell : Shell} (reachable : Reachable shell) : InUse shell
  | anew {shell : Shell} (inUse : InUse shell) (width : Nat) :
    InUse (.new shell.catalog.backend width)
  | line {shell : Shell} (inUse : InUse shell) (now : Instant) (line : String) :
    InUse (shell.execute now line).2
  | completed {shell : Shell} (inUse : InUse shell) (now : Instant) (before : String) :
    InUse (shell.complete now before).2

theorem InUse.sound [FilterEngine] (inUse : InUse shell) :
    shell.catalog.Coherent ∧ shell.document.Named := by
  induction inUse with
  | reached reachable => exact ⟨reachable.sound.1, reachable.named⟩
  | anew _ width ih => exact ⟨Catalog.coherent_new _, ih.2⟩
  | line _ now line ih =>
    obtain ⟨did, coherent⟩ := execute_did ih.1 now line
    exact ⟨coherent, did.named ih.2⟩
  | @completed shell _ now before ih =>
    obtain ⟨-, backend, coherent⟩ := complete_spec ih.1 now before
    rw [document, backend]
    exact ⟨coherent, ih.2⟩

/-! ### The grammar of the console -/

theorem defects_spec : spec.defects = [] := by decide +kernel

/-- A fixed candidate is a plain word that can be a value. -/
def Plain : Source → Bool
  | .fixed offer => offer.candidates.all fun s =>
    decide (Line.IsPlain s.text) && decide (s.text ≠ "") && !isMarked s.text
  | _ => true

/-- All that is fixed in the grammar can be written as it is. -/
theorem plain_spec : ∀ e ∈ spec.fragments,
    (Line.IsPlain e.1 ∧ ∀ name ∈ e.2.named.keys, Line.IsPlain name) ∧
    (∀ arg ∈ e.2.positional, ∀ s ∈ arg.source, Plain s = true) ∧
    ∀ entry ∈ e.2.named.entries, ∀ s ∈ entry.2.source, Plain s = true := by decide +kernel

theorem plain_of_asks {source : Source} (asks : spec.Asks source) : Plain source = true := by
  obtain ⟨e, isFragment, declared⟩ := asks
  obtain ⟨-, positional, named⟩ := plain_spec e isFragment
  rcases declared with ⟨arg, isArg, isSource⟩ | ⟨name, arg, found, isSource⟩
  · exact positional arg isArg source isSource
  · exact named (name, arg) (Entries.mem_of_find? found) source isSource

theorem mem_of_mem_answer {offer : Suggestion.Offer} {typed : String} {s : Suggestion}
    (member : s ∈ offer.answer typed) : s ∈ offer.candidates := by
  unfold Suggestion.Offer.answer at member
  extract_lets kept at member
  have isKept : s ∈ kept := by
    split at member
    · exact List.mem_mergeSort.mp member
    · exact member
  unfold kept at isKept
  split at isKept
  · exact isKept
  · exact (List.mem_filter.mp isKept).1
  · exact (List.mem_filter.mp isKept).1

theorem spells_quoted {name description : String} (unquoted : '"' ∉ name.toList)
    (nonempty : (Suggestion.quoted name description).text ≠ "") :
    Line.Spells (Suggestion.quoted name description).text name := by
  unfold Suggestion.quoted at nonempty ⊢
  split
  next => exact .quoted unquoted
  next visible =>
    simp only [if_neg visible] at nonempty
    refine .bare ⟨fun space => visible ?_, unquoted⟩ nonempty
    exact List.any_eq_true.mpr ⟨' ', space, by decide⟩

/-- The name of a resource is a word that can be a value, however it is written. -/
theorem spells_nameSuggestion {typed : String} {named : List (String × String)}
    (values : ∀ pair ∈ named, IsValue pair.1) {s : Suggestion}
    (member : s ∈ nameSuggestions typed named) (nonempty : s.text ≠ "") :
    ∃ word, Line.Spells s.text word ∧ isMarked word = false := by
  obtain ⟨pair, isNamed, rfl⟩ := List.mem_map.mp (List.mem_filter.mp member).1
  obtain ⟨bare, unquoted⟩ := values pair isNamed
  exact ⟨pair.1, spells_quoted unquoted nonempty, bare⟩

theorem sourced_spec {doc : Document} (named : doc.Named) : spec.Sourced (answers doc) := by
  intro source asks typed s member nonempty
  cases source with
  | fixed offer =>
    have isPlain := List.all_eq_true.mp (plain_of_asks asks) s (mem_of_mem_answer member)
    simp only [Bool.and_eq_true, decide_eq_true_eq, Bool.not_eq_true'] at isPlain
    exact ⟨s.text, .bare isPlain.1.1 nonempty, isPlain.2⟩
  | platforms scope category =>
    refine spells_nameSuggestion ?_ member nonempty
    simp only [List.forall_mem_map]
    intro p isKept
    exact named .platform p (mem_of_mem_listing (List.mem_filter.mp isKept).1)
  | resources kind =>
    -- The shelf of the user's own resources is a part of what the document has of the kind.
    refine spells_nameSuggestion ?_ member nonempty
    simp only [List.forall_mem_map]
    intro item isOwn
    rw [Document.shelf_own] at isOwn
    exact named kind item (List.mem_filter.mp isOwn).1

/-! ### What is inserted -/

theorem keepOpenQuote_of_not_quote {typed text : String} (bare : typed.toList.head? ≠ some '"') :
    keepOpenQuote typed text = text := by
  unfold keepOpenQuote
  split
  next isOpened => exact absurd (by rw [isOpened, List.head?_cons]) bare
  next => rfl

theorem keepOpenQuote_of_quote {typed text : String} {opened : List Char}
    (isOpened : typed.toList = '"' :: opened) (bare : text.toList.head? ≠ some '"') :
    keepOpenQuote typed text =
      if text.toList = opened then "\"" ++ text else "\"" ++ text ++ "\"" := by
  simp only [keepOpenQuote, isOpened, if_neg bare]

theorem spells_keepOpenQuote (typed : String) {text word : String}
    (spells : Line.Spells text word) :
    Line.Spells (keepOpenQuote typed text) word ∧
      (typed.toList.head? = some '"' → (keepOpenQuote typed text).toList.head? = some '"') := by
  by_cases quote : typed.toList.head? = some '"'
  · obtain ⟨opened, isOpened⟩ := List.head?_eq_some_iff.mp quote
    by_cases quoted : text.toList.head? = some '"'
    · have same : keepOpenQuote typed text = text := by
        simp only [keepOpenQuote, isOpened, if_pos quoted]
      rw [same]
      exact ⟨spells, fun _ => quoted⟩
    · rw [keepOpenQuote_of_quote isOpened quoted]
      -- A text that does not begin with a quote is the word itself.
      cases spells with
      | bare plain nonempty =>
        split
        · exact ⟨.opened plain.2 nonempty, fun _ => by simp [String.toList_append]⟩
        · exact ⟨.quoted plain.2, fun _ => by simp [String.toList_append]⟩
      | opened | quoted => exact absurd (by simp [String.toList_append]) quoted
  · rw [keepOpenQuote_of_not_quote quote]
    exact ⟨spells, fun head => absurd head quote⟩

/-- A word that replaces itself changes nothing, unless its closing quote has been typed and its
opening quote is kept. -/
theorem keepOpenQuote_typedAs {kept word : List Char} {typed : String} (unquoted : '"' ∉ word)
    (typedAs : Line.TypedAs kept typed.toList word)
    (changes : keepOpenQuote typed (String.ofList word) ≠ typed) :
    Line.quoteOpen kept = true ∧ typed = String.ofList word ++ "\"" ∧
      keepOpenQuote typed (String.ofList word) = String.ofList word := by
  have bare : word.head? ≠ some '"' := fun head => unquoted (List.mem_of_mem_head? head)
  have text : (String.ofList word).toList.head? ≠ some '"' := by rwa [String.toList_ofList]
  -- In the first three the word comes back as it has been typed, quotes included.
  rcases typedAs with same | opened | shut | ⟨isOpen, closed⟩
  · refine absurd ?_ changes
    rw [keepOpenQuote_of_not_quote (by rwa [same]), ← same, String.ofList_toList]
  · refine absurd (String.toList_inj.mp ?_) changes
    rw [keepOpenQuote_of_quote opened text, if_pos String.toList_ofList, opened]
    simp [String.toList_append]
  · refine absurd (String.toList_inj.mp ?_) changes
    rw [keepOpenQuote_of_quote shut text, if_neg (by simp), shut, Line.toList_quoted]
    simp
  · have isTyped : typed = String.ofList word ++ "\"" := by
      rw [← String.toList_inj, closed]
      simp [String.toList_append]
    refine ⟨isOpen, isTyped, keepOpenQuote_of_not_quote ?_⟩
    cases word with
    -- The closing quote of an empty word looks like an opening one, and is put back.
    | nil => exact absurd (by rw [isTyped]; rfl) changes
    | cons c rest =>
      rw [closed]
      simpa using bare

/-! ### The law of the tab key -/

/-- The word under the cursor is the word that is completed, and the text can stand in its place. -/
structure Aligned (kept typed text : String) : Prop where
  /-- A quote that has just been opened is no word yet: behind other words it is the last of them
  that is completed. -/
  lone : typed = "\"" → (Line.split kept).words = []
  /-- A quote that is opened directly behind a closing one is kept. A text that brings a quote of
  its own closes it, and a placeholder, which drops the closing quote that has been typed, may be
  a name that is refused as a value. -/
  inside : Line.quoteOpen kept.toList = true →
    text.toList.head? ≠ some '"' ∧ (typed = text ++ "\"" → isMarked text = false)

theorem mem_tab {before : String} {r : Replacement} (member : r ∈ (shell.tab now before).1.2) :
    ∃ s ∈ (shell.complete now before).1, s.text ≠ "" ∧
      r.text = keepOpenQuote (Line.typed before) s.text := by
  rw [tab] at member
  obtain ⟨s, isText, rfl⟩ := List.mem_map.mp member
  obtain ⟨suggested, visible⟩ := List.mem_filter.mp isText
  refine ⟨s, suggested, by simpa using visible, ?_⟩
  rw [replacement]

/-- **Completion keeps a line alive.** Over a reachable store, whatever replaces the word under the
cursor and changes it adds one word to those that are kept, and the grammar accepts them all. -/
theorem tab_keeps_accepted [FilterEngine] (inUse : InUse shell) (now : Instant)
    (before : String) :
    let kept := Line.beforeCursor before (shell.tab now before).1.1
    let typed := Line.typed before
    ∀ r ∈ (shell.tab now before).1.2, r.text ≠ typed → Aligned kept typed r.text →
      ∃ word next, (Line.split (kept ++ r.text)).words = (Line.split kept).words ++ [word] ∧
        spec.walk (kept ++ r.text) (Line.split (kept ++ r.text)).words = .ok next := by
  obtain ⟨coherent, named⟩ := inUse.sound
  obtain ⟨quoted, closed, kept, typed, cut, chars, isKept, isTyped⟩ := Line.exists_cut before
  have start : (shell.tab now before).1.1 = Line.typedStart before := rfl
  dsimp only
  rw [start, isKept, isTyped]
  intro r member changes aligned
  obtain ⟨s, suggested, nonempty, isText⟩ := mem_tab member
  rw [isTyped] at isText
  rw [(complete_spec coherent now before).1] at suggested
  have words : (Line.split (String.ofList kept)).words = Line.wordsFrom false [] kept := by
    rw [Line.split, String.toList_ofList]
  have inside (isOpen : Line.quoteOpen kept = true) :=
    aligned.inside (by rwa [String.toList_ofList])
  have lone : typed = ['"'] → Line.wordsFrom false [] kept = [] := by
    intro isLone
    rw [← words, aligned.lone (by rw [isLone])]
  obtain ⟨w, walked, taken⟩ := Spec.suggest_taken defects_spec
    (fun e there => (plain_spec e there).1) (sourced_spec named) cut chars lone s suggested nonempty
  obtain ⟨word, next, spells, accepted⟩ : w.Takes s.text := by
    refine taken.elim id ?_
    rintro ⟨word, unquoted, typedAs, same, oneWord, values⟩
    -- A placeholder only changes something if it drops a closing quote.
    rw [isText, same] at changes
    obtain ⟨isOpen, dropped, stays⟩ :=
      keepOpenQuote_typedAs unquoted (by rwa [String.toList_ofList]) changes
    rw [same, stays] at isText
    have bare : isMarked (String.ofList word) = false := by
      rw [← isText] at dropped ⊢
      exact (inside isOpen).2 dropped
    obtain ⟨next, accepted⟩ := values _ bare
    rw [same] at nonempty ⊢
    exact ⟨_, next, .bare ⟨oneWord, by simpa using unquoted⟩ nonempty, accepted⟩
  obtain ⟨spells, alike⟩ := spells_keepOpenQuote (String.ofList typed) spells
  rw [← isText] at spells alike
  rw [String.toList_ofList] at alike
  have more : (Line.split (String.ofList kept ++ r.text)).words =
      (Line.split (String.ofList kept)).words ++ [word] := by
    rw [words, Line.split, String.toList_append, String.toList_ofList]
    exact cut.words_spelled spells alike fun isOpen => (inside isOpen).1
  refine ⟨word, next, more, ?_⟩
  -- The walk along the longer line is the one along what is kept, and one step.
  rw [more, words]
  refine (Walk.steps_append_eq_ok_iff _ _ _ _ _).mpr ⟨w, Walk.steps_ok_onLine _ walked, ?_⟩
  exact accepted.steps rfl

/-- A shell over the community platforms. -/
def community : Shell := .new { store := seeded } 80

/-- A name with a space is put in the quotes of which the first has been typed. -/
theorem tab_keeps_accepted_quoted :
    { text := "\"Amazon CloudFront\"", display := "\"Amazon CloudFront\"  Delivery Network" } ∈
        (community.tab default "show platform \"cloudfr").1.2 ∧
      ∃ word next, (Line.split ("show platform " ++ "\"Amazon CloudFront\"")).words =
          (Line.split "show platform ").words ++ [word] ∧
        spec.walk ("show platform " ++ "\"Amazon CloudFront\"")
          (Line.split ("show platform " ++ "\"Amazon CloudFront\"")).words = .ok next := by
  have offered : { text := "\"Amazon CloudFront\""
                   display := "\"Amazon CloudFront\"  Delivery Network" } ∈
      (community.tab default "show platform \"cloudfr").1.2 := by decide +kernel
  have kept : Line.beforeCursor "show platform \"cloudfr"
      (community.tab default "show platform \"cloudfr").1.1 = "show platform " := by decide +kernel
  have accepted := tab_keeps_accepted (.reached (.seeded {} none 80)) default
    "show platform \"cloudfr" _ offered (by decide)
  change Aligned (Line.beforeCursor _ (community.tab _ _).1.1) _ _ → _ at accepted
  rw [kept] at accepted
  exact ⟨offered, accepted ⟨by decide, by decide⟩⟩

/-- Behind another word a lone opening quote completes that word once more, which is refused there;
and a quote directly behind a closing one is closed by the one of the replacement. -/
theorem tab_at_opening_quote :
    (community.tab default "exit \"").1 = (5, [⟨"\"exit\"", "\"exit\"  Exit"⟩]) ∧
      Line.beforeCursor "exit \"" 5 = "exit " ∧ Line.typed "exit \"" = "\"" ∧
      (spec.walk "exit " (Line.split "exit ").words).isOk = true ∧
      spec.walk "exit \"exit\"" (Line.split "exit \"exit\"").words =
        .error (.expectedNamedArg "exit") ∧
      (community.tab default "show \"platform\"\"cloudfr").1 =
        (16, [⟨"\"Amazon CloudFront\"", "\"Amazon CloudFront\"  Delivery Network"⟩]) ∧
      (Line.split ("show \"platform\"\"" ++ "\"Amazon CloudFront\"")).words =
        ["show", "platform", "", "Amazon", "CloudFront"] :=
  ⟨by decide +kernel, by decide +kernel, by decide +kernel, by decide +kernel, rfl,
    by decide +kernel, by decide +kernel⟩

end Steering.Shell
