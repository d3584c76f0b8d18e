import Mathlib.Data.List.Nodup
import Steering.Proofs.Grammar.Commands

/-!
# What the report of defects says

`Spec.defects` goes through a grammar once, fragment by fragment, and takes along the path and the
argument names declared on the way. Here the report is told from the grammar alone: from the
fragments that paths lead to, and the names declared at beginnings of a path.

What is reported below a fragment is what stands at the paths that begin there and pass no blank
word (`Fragment.mem_defectsBelow_iff`), and the names taken along are those that the beginnings of
the path declare (`Spec.declares_iff`). With what is known of the defects of one fragment this gives
the whole report (`defects_exact`).
-/

namespace Steering.Grammar

variable {Code Handler Source : Type}

/-! ### The way down -/

theorem Fragment.Ordered.sorted {f : Fragment Code Handler Source} (ordered : f.Ordered) :
    Entries.Sorted f.sub := by
  cases f
  rw [Fragment.Ordered] at ordered
  exact ordered.1

theorem Fragment.Ordered.branches {f : Fragment Code Handler Source} (ordered : f.Ordered) :
    ∀ e ∈ f.sub, e.2.Ordered := by
  cases f
  rw [Fragment.Ordered] at ordered
  exact Fragment.branchesOrdered_iff.mp ordered.2

theorem Fragment.Ordered.child {f child : Fragment Code Handler Source} {word : String}
    (ordered : f.Ordered) (found : Entries.find? word f.sub = some child) : child.Ordered :=
  ordered.branches _ (Entries.mem_of_find? found)

theorem Fragment.sizeOf_child {f child : Fragment Code Handler Source} {word : String}
    (found : Entries.find? word f.sub = some child) : sizeOf child < sizeOf f := by
  have within := List.sizeOf_lt_of_mem (Entries.mem_of_find? found)
  cases f
  simp only [Prod.mk.sizeOf_spec, Fragment.mk.sizeOf_spec] at within ⊢
  omega

/-- The names of the named arguments declared on the fragments below this one that the words lead
through. -/
def Fragment.namesAlong (f : Fragment Code Handler Source) : List String → List String
  | [] => []
  | word :: rest =>
    match Entries.find? word f.sub with
    | some child => child.namesAlong rest ++ child.named.keys
    | none => []

theorem Fragment.namesAlong_cons {f child : Fragment Code Handler Source} {word : String}
    (found : Entries.find? word f.sub = some child) (rest : List String) :
    f.namesAlong (word :: rest) = child.namesAlong rest ++ child.named.keys := by
  rw [namesAlong, found]

/-- The defects of the fragment that stands at a word under `path`, without what is below it. -/
def defectsAt (path inherited : List String) (word : String)
    (child : Fragment Code Handler Source) : List Defect :=
  if Text.allBlank word then [.emptyWord path]
  else (if Text.lower word = word then [] else [.uppercaseWord word]) ++
    child.ownDefects (path ++ [word]) inherited

/-- The defects at and below the fragment at a word under `path`. -/
def defectsFrom (path inherited : List String) (word : String)
    (child : Fragment Code Handler Source) : List Defect :=
  defectsAt path inherited word child ++
    if Text.allBlank word then []
    else child.defectsBelow (path ++ [word]) (child.named.keys ++ inherited)

theorem defectsAmong_eq (path inherited : List String)
    (sub : List (String × Fragment Code Handler Source)) :
    defectsAmong path inherited sub = sub.flatMap fun e => defectsFrom path inherited e.1 e.2 := by
  induction sub with
  | nil => rfl
  | cons head rest ih =>
    obtain ⟨word, child⟩ := head
    rw [defectsAmong, List.flatMap_cons, ih, defectsFrom, defectsAt]
    split <;> simp

theorem mem_defectsFrom_iff {path inherited : List String} {word : String}
    {child : Fragment Code Handler Source} {d : Defect} :
    d ∈ defectsFrom path inherited word child ↔
      d ∈ defectsAt path inherited word child ∨ Text.allBlank word = false ∧
        d ∈ child.defectsBelow (path ++ [word]) (child.named.keys ++ inherited) := by
  rw [defectsFrom, List.mem_append]
  cases Text.allBlank word <;> simp

/-- **What is reported below a fragment** is what stands at the paths that begin there and pass no
blank word. -/
theorem Fragment.mem_defectsBelow_iff {f : Fragment Code Handler Source} (ordered : f.Ordered)
    {path inherited : List String} {d : Defect} :
    d ∈ f.defectsBelow path inherited ↔
      ∃ rest word g, (∀ w ∈ rest, Text.allBlank w = false) ∧ f.find? (rest ++ [word]) = some g ∧
        d ∈ defectsAt (path ++ rest) (f.namesAlong rest ++ inherited) word g := by
  rw [defectsBelow_eq, defectsAmong_eq, List.mem_flatMap]
  constructor
  · rintro ⟨⟨first, child⟩, member, listed⟩
    have found := ordered.sorted.find?_eq_some_iff.mpr member
    rcases mem_defectsFrom_iff.mp listed with here | ⟨notBlank, deeper⟩
    · exact ⟨[], first, child, by simp, by simp [find?, found], by simpa [namesAlong] using here⟩
    · obtain ⟨rest, word, g, passed, leads, there⟩ :=
        (mem_defectsBelow_iff (ordered.child found)).mp deeper
      refine ⟨first :: rest, word, g, List.forall_mem_cons.mpr ⟨notBlank, passed⟩,
        by simp [find?, found, leads], ?_⟩
      rw [namesAlong_cons found]
      simpa using there
  · rintro ⟨rest, word, g, passed, leads, there⟩
    cases rest with
    | nil =>
      obtain ⟨child, found, same⟩ := Option.bind_eq_some_iff.mp leads
      cases same
      exact ⟨(word, _), Entries.mem_of_find? found,
        mem_defectsFrom_iff.mpr (Or.inl (by simpa [namesAlong] using there))⟩
    | cons first rest =>
      obtain ⟨notBlank, passed⟩ := List.forall_mem_cons.mp passed
      obtain ⟨child, found, leads⟩ := Option.bind_eq_some_iff.mp leads
      refine ⟨(first, child), Entries.mem_of_find? found,
        mem_defectsFrom_iff.mpr (Or.inr ⟨notBlank,
          (mem_defectsBelow_iff (ordered.child found)).mpr ⟨rest, word, g, passed, leads, ?_⟩⟩)⟩
      rw [namesAlong_cons found] at there
      simpa using there
termination_by sizeOf f
decreasing_by all_goals exact sizeOf_child found

/-- The report, path by path. -/
theorem Spec.mem_defects_iff {spec : Spec Code Handler Source} {d : Defect} :
    d ∈ spec.defects ↔ ∃ path word f, (∀ w ∈ path, Text.allBlank w = false) ∧
      spec.find? (path ++ [word]) = some f ∧
      d ∈ defectsAt path (spec.root.namesAlong path) word f := by
  have below : spec.defects = spec.root.defectsBelow [] [] := by
    rw [Fragment.defectsBelow_eq]
    rfl
  rw [below, Fragment.mem_defectsBelow_iff spec.root_ordered]
  simp only [List.nil_append, List.append_nil, Spec.find?]

/-! ### Declared names -/

theorem Fragment.mem_namesAlong_iff {f : Fragment Code Handler Source} {words : List String}
    {name : String} : name ∈ f.namesAlong words ↔
      ∃ upper g, upper ≠ [] ∧ upper <+: words ∧ f.find? upper = some g ∧
        name ∈ g.named.keys := by
  induction words generalizing f with
  | nil => simp [namesAlong]
  | cons word rest ih =>
    constructor
    · intro member
      rw [namesAlong] at member
      split at member
      next child found =>
        rcases List.mem_append.mp member with deeper | own
        · obtain ⟨upper, g, _, before, leads, declared⟩ := ih.mp deeper
          exact ⟨word :: upper, g, List.cons_ne_nil _ _, List.cons_prefix_cons.mpr ⟨rfl, before⟩,
            by simp [find?, found, leads], declared⟩
        · exact ⟨[word], child, List.cons_ne_nil _ _, List.cons_prefix_cons.mpr
            ⟨rfl, List.nil_prefix⟩, by simp [find?, found], own⟩
      next => cases member
    · rintro ⟨upper, g, nonempty, before, leads, declared⟩
      obtain rfl | ⟨upper, rfl, onward⟩ := List.prefix_cons_iff.mp before
      · exact absurd rfl nonempty
      obtain ⟨child, found, leads⟩ := Option.bind_eq_some_iff.mp leads
      rw [namesAlong_cons found, List.mem_append]
      cases upper with
      | nil =>
        cases leads
        exact Or.inr declared
      | cons next upper => exact Or.inl (ih.mpr ⟨_, g, List.cons_ne_nil _ _, onward, leads, declared⟩)

/-- A fragment that the path leads through, the last one included, declares a named argument of
this name. -/
def Spec.Declares (spec : Spec Code Handler Source) (path : List String) (name : String) : Prop :=
  ∃ upper f, upper <+: path ∧ spec.find? upper = some f ∧ name ∈ f.named.keys

/-- The names taken along and those of the fragment itself are those declared on its path. -/
theorem Spec.declares_iff {spec : Spec Code Handler Source} {path : List String} {word : String}
    {f : Fragment Code Handler Source} (there : spec.find? (path ++ [word]) = some f)
    {name : String} :
    name ∈ f.named.keys ++ spec.root.namesAlong path ↔ spec.Declares (path ++ [word]) name := by
  rw [List.mem_append, Fragment.mem_namesAlong_iff]
  constructor
  · rintro (own | ⟨upper, g, _, before, leads, declared⟩)
    · exact ⟨_, f, List.prefix_rfl, there, own⟩
    · exact ⟨upper, g, before.trans (List.prefix_append _ _), leads, declared⟩
  · rintro ⟨upper, g, before, leads, declared⟩
    rcases List.prefix_concat_iff.mp before with rfl | before
    · rw [there, Option.some.injEq] at leads
      exact Or.inl (leads ▸ declared)
    · refine Or.inr ⟨upper, g, ?_, before, leads, declared⟩
      -- The root declares nothing.
      rintro rfl
      cases leads
      cases declared

/-! ### At one word -/

section At

variable {path inherited : List String} {word : String} {f : Fragment Code Handler Source}

theorem emptyWord_mem_at {here : List String} :
    .emptyWord here ∈ defectsAt path inherited word f ↔
      Text.allBlank word = true ∧ here = path := by
  have elsewhere : Defect.emptyWord here ∉ f.ownDefects (path ++ [word]) inherited :=
    fun listed => nomatch fragment?_of_mem_own listed
  rw [defectsAt]
  cases Text.allBlank word <;> simp [elsewhere]

theorem uppercaseWord_mem_at {upper : String} :
    .uppercaseWord upper ∈ defectsAt path inherited word f ↔
      Text.allBlank word = false ∧ Text.lower word ≠ word ∧ upper = word := by
  have elsewhere : Defect.uppercaseWord upper ∉ f.ownDefects (path ++ [word]) inherited :=
    fun listed => nomatch fragment?_of_mem_own listed
  rw [defectsAt]
  cases Text.allBlank word <;> simp [elsewhere]

/-- The defects that name a fragment are those of the fragment itself. -/
theorem own_mem_at {d : Defect} {here : List String} (names : d.fragment? = some here) :
    d ∈ defectsAt path inherited word f ↔
      Text.allBlank word = false ∧ d ∈ f.ownDefects (path ++ [word]) inherited := by
  have notEmpty : d ≠ .emptyWord path := by rintro rfl; cases names
  have notUpper : d ≠ .uppercaseWord word := by rintro rfl; cases names
  rw [defectsAt]
  cases Text.allBlank word with
  | true => simpa using notEmpty
  | false =>
    simp only [Bool.false_eq_true, if_false, List.mem_append, true_and]
    refine or_iff_right fun listed => ?_
    split at listed
    · cases listed
    · exact notUpper (List.mem_singleton.mp listed)

end At

/-! ### The number of blank words -/

/-- A blank word is reported with the path it stands under. -/
theorem path_of_emptyWord {path inherited here : List String} {word : String}
    {child : Fragment Code Handler Source} (ordered : child.Ordered)
    (listed : .emptyWord here ∈ defectsFrom path inherited word child) :
    Text.allBlank word = true ∧ here = path ∨
      Text.allBlank word = false ∧ ∃ rest, here = path ++ word :: rest := by
  rcases mem_defectsFrom_iff.mp listed with own | ⟨notBlank, deeper⟩
  · exact Or.inl (emptyWord_mem_at.mp own)
  · obtain ⟨rest, _, _, _, _, there⟩ := (Fragment.mem_defectsBelow_iff ordered).mp deeper
    refine Or.inr ⟨notBlank, rest, ?_⟩
    rw [(emptyWord_mem_at.mp there).2, List.append_assoc, List.singleton_append]

theorem count_emptyWord_among {path inherited : List String}
    {sub : List (String × Fragment Code Handler Source)} (ordered : ∀ e ∈ sub, e.2.Ordered) :
    (defectsAmong path inherited sub).count (.emptyWord path) =
      sub.countP fun e => Text.allBlank e.1 := by
  rw [defectsAmong_eq]
  induction sub with
  | nil => rfl
  | cons head rest ih =>
    obtain ⟨word, child⟩ := head
    obtain ⟨first, others⟩ := List.forall_mem_cons.mp ordered
    have own : (defectsFrom path inherited word child).count (.emptyWord path) =
        if Text.allBlank word then 1 else 0 := by
      split
      next blank => simp [defectsFrom, defectsAt, blank]
      next notBlank =>
        rw [List.count_eq_zero]
        intro listed
        rcases path_of_emptyWord first listed with ⟨blank, _⟩ | ⟨_, rest, longer⟩
        · exact notBlank blank
        · simp at longer
    rw [List.flatMap_cons, List.count_append, ih others, List.countP_cons, own, Nat.add_comm]

/-- Blank words further down are counted below the fragment that leads to them. -/
theorem count_emptyWord_of_found {path inherited more : List String} {word : String}
    {sub : List (String × Fragment Code Handler Source)} {child : Fragment Code Handler Source}
    (sorted : Entries.Sorted sub) (ordered : ∀ e ∈ sub, e.2.Ordered)
    (found : Entries.find? word sub = some child) (notBlank : Text.allBlank word = false) :
    (defectsAmong path inherited sub).count (.emptyWord (path ++ word :: more)) =
      (child.defectsBelow (path ++ [word]) (child.named.keys ++ inherited)).count
        (.emptyWord (path ++ word :: more)) := by
  rw [defectsAmong_eq]
  -- Nothing is reported under this path at other words.
  have elsewhere : ∀ e ∈ sub, e.1 ≠ word →
      (defectsFrom path inherited e.1 e.2).count (.emptyWord (path ++ word :: more)) = 0 := by
    intro e member different
    rw [List.count_eq_zero]
    intro listed
    rcases path_of_emptyWord (ordered e member) listed with ⟨_, shorter⟩ | ⟨_, rest, same⟩
    · simp at shorter
    · exact different (List.cons.inj (List.append_cancel_left same)).1.symm
  induction sub with
  | nil => cases found
  | cons head rest ih =>
    obtain ⟨first, f⟩ := head
    obtain ⟨less, sortedRest⟩ := List.pairwise_cons.mp sorted
    obtain ⟨here, later⟩ := List.forall_mem_cons.mp elsewhere
    rw [List.flatMap_cons, List.count_append]
    rw [Entries.find?] at found
    split at found
    next same =>
      cases found
      subst same
      have others : (rest.flatMap fun e => defectsFrom path inherited e.1 e.2).count
          (.emptyWord (path ++ first :: more)) = 0 := by
        rw [List.count_eq_zero, List.mem_flatMap]
        rintro ⟨e, member, listed⟩
        exact List.count_eq_zero.mp (later e member (String.ne_of_lt (less e member)).symm) listed
      have own : Defect.emptyWord (path ++ first :: more) ∉ defectsAt path inherited first child := by
        rw [emptyWord_mem_at, notBlank]
        exact fun listed => nomatch listed.1
      rw [others, Nat.add_zero, defectsFrom, List.count_append, List.count_eq_zero.mpr own,
        Nat.zero_add, notBlank, if_neg Bool.false_ne_true]
    next different =>
      rw [here different, Nat.zero_add,
        ih sortedRest (fun e member => ordered e (List.mem_cons_of_mem _ member)) found later]

theorem Fragment.count_emptyWord {f g : Fragment Code Handler Source} (ordered : f.Ordered)
    {path inherited words : List String} (leads : f.find? words = some g)
    (passed : ∀ w ∈ words, Text.allBlank w = false) :
    (f.defectsBelow path inherited).count (.emptyWord (path ++ words)) =
      g.sub.countP fun e => Text.allBlank e.1 := by
  induction words generalizing f path inherited with
  | nil =>
    cases leads
    rw [defectsBelow_eq, List.append_nil, count_emptyWord_among ordered.branches]
  | cons word rest ih =>
    obtain ⟨child, found, onward⟩ := Option.bind_eq_some_iff.mp leads
    obtain ⟨notBlank, passed⟩ := List.forall_mem_cons.mp passed
    have below : (child.defectsBelow (path ++ [word]) (child.named.keys ++ inherited)).count
        (.emptyWord (path ++ [word] ++ rest)) = g.sub.countP fun e => Text.allBlank e.1 :=
      ih (ordered.child found) onward passed
    rw [List.append_assoc, List.singleton_append] at below
    rw [defectsBelow_eq, count_emptyWord_of_found ordered.sorted ordered.branches found notBlank,
      below]

/-! ### The whole report -/

/-- Nothing is wrong with the fragment `f` that stands at `word` under `path`. -/
structure Spec.Faultless (spec : Spec Code Handler Source) (path : List String) (word : String)
    (f : Fragment Code Handler Source) : Prop where
  notBlank : Text.allBlank word = false
  lowercase : Text.lower word = word
  alive : f.code ≠ none ∨ f.sub ≠ []
  argNames : ∀ name ∈ f.argNames, IsName name
  requiredFirst : f.positional.Pairwise fun earlier later =>
    earlier.optional = true → later.optional = true
  distinct : (f.positional.map (·.name)).Nodup
  apart : ∀ name ∈ f.positional.map (·.name), ¬ spec.Declares (path ++ [word]) name

/-- Of the fragment `f` that stands at `word` under `path` the report says what is wrong with it,
kind by kind and name by name. -/
structure Spec.Reports (spec : Spec Code Handler Source) (path : List String) (word : String)
    (f : Fragment Code Handler Source) : Prop where
  uppercaseWord : .uppercaseWord word ∈ spec.defects ↔ Text.lower word ≠ word
  deadEnd : .deadEnd (path ++ [word]) ∈ spec.defects ↔ f.code = none ∧ f.sub = []
  invalidArgName : ∀ name, .invalidArgName (path ++ [word]) name ∈ spec.defects ↔
    name ∈ f.argNames ∧ ¬ IsName name
  requiredAfterOptional : ∀ name, .requiredAfterOptional (path ++ [word]) name ∈ spec.defects ↔
    ∃ earlier later, [earlier, later].Sublist f.positional ∧ earlier.optional = true ∧
      later.optional = false ∧ later.name = name
  duplicateArgument : ∀ name, .duplicateArgument (path ++ [word]) name ∈ spec.defects ↔
    name ∈ f.positional.map (·.name) ∧ spec.Declares (path ++ [word]) name ∨
      [name, name].Sublist (f.positional.map (·.name))

section Report

variable {spec : Spec Code Handler Source} {path : List String} {word : String}
  {f : Fragment Code Handler Source}

/-- What is reported of a fragment is found in it, if its path has no blank word. -/
theorem Spec.mem_defects_iff_own (there : spec.find? (path ++ [word]) = some f)
    (passed : ∀ w ∈ path ++ [word], Text.allBlank w = false) {d : Defect}
    (names : d.fragment? = some (path ++ [word])) :
    d ∈ spec.defects ↔ d ∈ f.ownDefects (path ++ [word]) (spec.root.namesAlong path) := by
  rw [Spec.mem_defects_iff]
  constructor
  · rintro ⟨path', word', f', _, there', listed⟩
    have own := ((own_mem_at names).mp listed).2
    -- The defect names the path, so that it is found at this fragment and no other.
    have same := (fragment?_of_mem_own own).symm.trans names
    rw [Option.some.injEq] at same
    obtain ⟨rfl, last⟩ := List.append_inj' same rfl
    obtain rfl := (List.cons.inj last).1
    rw [there, Option.some.injEq] at there'
    exact there' ▸ own
  · intro own
    obtain ⟨passed, last⟩ := List.forall_mem_append.mp passed
    exact ⟨path, word, f, passed, there,
      (own_mem_at names).mpr ⟨last word (List.mem_singleton_self word), own⟩⟩

theorem Spec.reports (there : spec.find? (path ++ [word]) = some f)
    (passed : ∀ w ∈ path ++ [word], Text.allBlank w = false) : spec.Reports path word f where
  uppercaseWord := by
    obtain ⟨above, last⟩ := List.forall_mem_append.mp passed
    rw [Spec.mem_defects_iff]
    constructor
    · rintro ⟨_, _, _, _, _, listed⟩
      obtain ⟨_, upper, rfl⟩ := uppercaseWord_mem_at.mp listed
      exact upper
    · intro upper
      exact ⟨path, word, f, above, there,
        uppercaseWord_mem_at.mpr ⟨last word (List.mem_singleton_self word), upper, rfl⟩⟩
  deadEnd := by
    rw [Spec.mem_defects_iff_own there passed rfl, deadEnd_mem_own]
  invalidArgName name := by
    rw [Spec.mem_defects_iff_own there passed rfl, invalidArgName_mem_own]
  requiredAfterOptional name := by
    rw [Spec.mem_defects_iff_own there passed rfl, requiredAfterOptional_mem_own]
  duplicateArgument name := by
    rw [Spec.mem_defects_iff_own there passed rfl, duplicateArgument_mem_own,
      Spec.declares_iff there]

/-- The fragment that a reported defect is about. -/
theorem Spec.exists_of_mem_defects {d : Defect} (listed : d ∈ spec.defects) :
    ∃ path word f, spec.find? (path ++ [word]) = some f ∧
      (∀ w ∈ path, Text.allBlank w = false) ∧
      (d = .emptyWord path ∧ Text.allBlank word = true ∨
        Text.allBlank word = false ∧
          (d = .uppercaseWord word ∨ d.fragment? = some (path ++ [word]))) := by
  obtain ⟨path, word, f, passed, there, listed⟩ := Spec.mem_defects_iff.mp listed
  refine ⟨path, word, f, there, passed, ?_⟩
  rw [defectsAt] at listed
  split at listed
  next blank => exact Or.inl ⟨List.mem_singleton.mp listed, blank⟩
  next notBlank =>
    refine Or.inr ⟨by simpa using notBlank, ?_⟩
    rcases List.mem_append.mp listed with upper | own
    · split at upper
      · cases upper
      · exact Or.inl (List.mem_singleton.mp upper)
    · exact Or.inr (fragment?_of_mem_own own)

/-- A fragment of which nothing is reported is faultless. -/
theorem Spec.Reports.faultless (reports : spec.Reports path word f)
    (notBlank : Text.allBlank word = false) (valid : spec.defects = []) :
    spec.Faultless path word f := by
  obtain ⟨upper, dead, invalid, order, taken⟩ := reports
  simp only [valid, List.not_mem_nil, false_iff] at upper dead invalid order taken
  refine ⟨notBlank, not_not.mp upper, not_and_or.mp dead, fun name declared => ?_, ?_, ?_, ?_⟩
  · exact not_not.mp fun bad => invalid name ⟨declared, bad⟩
  · refine List.pairwise_iff_forall_sublist.mpr fun {earlier later} sublist optional => ?_
    by_contra required
    exact order later.name
      ⟨earlier, later, sublist, optional, Bool.eq_false_iff.mpr required, rfl⟩
  · exact List.nodup_iff_sublist.mpr fun name twice => taken name (Or.inr twice)
  · exact fun name member declared => taken name (Or.inl ⟨member, declared⟩)

/-- Of a faultless fragment nothing is reported. -/
theorem Spec.Reports.not_mem (reports : spec.Reports path word f)
    (faultless : spec.Faultless path word f) {d : Defect}
    (about : d = .uppercaseWord word ∨ d.fragment? = some (path ++ [word])) : d ∉ spec.defects := by
  rcases about with rfl | names
  · rw [reports.uppercaseWord, not_not]
    exact faultless.lowercase
  cases d with
  | emptyWord _ | uppercaseWord _ => cases names
  | deadEnd here =>
    cases names
    rw [reports.deadEnd, not_and_or]
    exact faultless.alive
  | invalidArgName here name =>
    cases names
    rw [reports.invalidArgName]
    exact fun bad => bad.2 (faultless.argNames name bad.1)
  | requiredAfterOptional here name =>
    cases names
    rw [reports.requiredAfterOptional]
    rintro ⟨earlier, later, sublist, optional, required, _⟩
    have := List.pairwise_iff_forall_sublist.mp faultless.requiredFirst sublist optional
    rw [required] at this
    cases this
  | duplicateArgument here name =>
    cases names
    rw [reports.duplicateArgument]
    rintro (⟨member, declared⟩ | twice)
    · exact faultless.apart name member declared
    · exact List.nodup_iff_sublist.mp faultless.distinct name twice

end Report

/-- **The report is exact.** A grammar has no defects exactly if all fragments on all paths are
faultless. Every blank word under a path without blank words is reported, once for each such word.
Of a fragment on a path without blank words all that is wrong is reported, and nothing else; and
nothing is reported of any other fragment. -/
theorem defects_exact (spec : Spec Code Handler Source) :
    (spec.defects = [] ↔
      ∀ path word f, spec.find? (path ++ [word]) = some f → spec.Faultless path word f) ∧
    (∀ path f, spec.find? path = some f → (∀ w ∈ path, Text.allBlank w = false) →
      spec.defects.count (.emptyWord path) = f.sub.countP fun e => Text.allBlank e.1) ∧
    (∀ path word f, spec.find? (path ++ [word]) = some f →
      (∀ w ∈ path ++ [word], Text.allBlank w = false) → spec.Reports path word f) ∧
    ∀ d ∈ spec.defects, ∃ path word f, spec.find? (path ++ [word]) = some f ∧
      (∀ w ∈ path, Text.allBlank w = false) ∧
      (d = .emptyWord path ∧ Text.allBlank word = true ∨
        Text.allBlank word = false ∧
          (d = .uppercaseWord word ∨ d.fragment? = some (path ++ [word]))) := by
  refine ⟨⟨fun valid path word f there => ?_, fun faultless => ?_⟩, fun path f there passed => ?_,
    fun path word f => Spec.reports, fun d => Spec.exists_of_mem_defects⟩
  · have passed : ∀ w ∈ path ++ [word], Text.allBlank w = false := by
      intro w member
      obtain ⟨g, has⟩ := (Spec.Has.words (Or.inl rfl) there).1 w member
      exact (Spec.sound_of_mem valid has).notBlank
    exact (Spec.reports there passed).faultless (passed word (by simp)) valid
  · refine List.eq_nil_iff_forall_not_mem.mpr fun d listed => ?_
    obtain ⟨path, word, f, there, passed, ⟨_, blank⟩ | ⟨notBlank, about⟩⟩ :=
      Spec.exists_of_mem_defects listed
    · rw [(faultless path word f there).notBlank] at blank
      cases blank
    · have passed : ∀ w ∈ path ++ [word], Text.allBlank w = false :=
        List.forall_mem_append.mpr ⟨passed, by simpa using notBlank⟩
      exact (Spec.reports there passed).not_mem (faultless path word f there) about listed
  · have counted : (spec.root.defectsBelow [] []).count (.emptyWord ([] ++ path)) =
        f.sub.countP fun e => Text.allBlank e.1 :=
      Fragment.count_emptyWord spec.root_ordered there passed
    rwa [Fragment.defectsBelow_eq, List.nil_append] at counted

/-- A command with an argument whose name cannot be written, and behind it, although it is optional,
a required argument. -/
def crookedZone : Fragment Nat String String :=
  { description := "Show a zone"
    positional := [
      { name := "-raw", description := "Print JSON", optional := true },
      { name := "name", description := "Zone name" }]
    code := some 1 }

/-- A grammar with defects of every kind. -/
def crookedGrammar : Spec Nat String String :=
  .ofCommands [
    (" ", { description := "Nothing", sub := [("", { description := "Nothing again" })] }),
    ("Exit", { description := "Leave" }),
    ("show",
      { description := "Show resources"
        named := .ofList [("name", { description := "What to show" })]
        sub := [("zone", crookedZone)] })]

/-- Of the crooked command three things are reported, each with its name; of the two blank words
the upper one is. -/
theorem defects_exact_crooked :
    crookedGrammar.find? (["show"] ++ ["zone"]) = some crookedZone ∧
    (∀ w ∈ ["show"] ++ ["zone"], Text.allBlank w = false) ∧
    .invalidArgName ["show", "zone"] "-raw" ∈ crookedGrammar.defects ∧
    .requiredAfterOptional ["show", "zone"] "name" ∈ crookedGrammar.defects ∧
    .duplicateArgument ["show", "zone"] "name" ∈ crookedGrammar.defects ∧
    crookedGrammar.defects.count (.emptyWord []) = 1 := by
  have there : crookedGrammar.find? (["show"] ++ ["zone"]) = some crookedZone := rfl
  have passed : ∀ w ∈ ["show"] ++ ["zone"], Text.allBlank w = false := by decide
  obtain ⟨-, blanks, reports, -⟩ := defects_exact crookedGrammar
  obtain ⟨-, -, invalid, order, taken⟩ := reports _ _ _ there passed
  refine ⟨there, passed, (invalid _).mpr ⟨by decide, fun good => good.2.1 rfl⟩,
    (order _).mpr ⟨_, _, List.Sublist.refl _, rfl, rfl, rfl⟩,
    (taken _).mpr (Or.inl ⟨by decide, ["show"], _, by decide, rfl, by decide⟩), ?_⟩
  rw [blanks [] crookedGrammar.root rfl (by simp)]
  decide

end Steering.Grammar
