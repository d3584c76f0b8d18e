import Steering.Grammar.Validity

/-!
# The defects of one fragment

A fragment is checked in one go: its names, and its positional arguments one after another, with
the names taken so far and whether an optional one was seen. Here the kinds of defects are told
apart: for each kind there is a lemma that says when a fragment has such a defect. What the check
takes along from one argument to the next is then said by the order of the arguments alone; that one
comes before another is written as a sublist of two.
-/

namespace Steering.Grammar

variable {Code Handler Source : Type}

/-! ### Names -/

/-- A name that can be written behind a marker: it is not empty, does not start with a marker, and
has no white space. -/
def IsName (name : String) : Prop :=
  name ≠ "" ∧ name.toList.head? ≠ some marker ∧ ∀ c ∈ name.toList, Text.isBlank c = false

theorem isArgName_iff {name : String} : isArgName name = true ↔ IsName name := by
  simp [isArgName, IsName, isMarked, and_assoc]

theorem mem_nameDefects_iff {path : List String} {name : String} {d : Defect} :
    d ∈ nameDefects path name ↔ ¬ IsName name ∧ d = .invalidArgName path name := by
  rw [nameDefects, ← isArgName_iff]
  cases isArgName name <;> simp

/-- The names of all arguments that a fragment declares. -/
def Fragment.argNames (f : Fragment Code Handler Source) : List String :=
  f.named.keys ++ f.positional.map (·.name)

/-! ### Positional arguments -/

/-- One element comes before another if it is the first of all, or if it does in the rest. -/
theorem pair_sublist_cons_iff {α : Type} {a b first : α} {rest : List α} :
    [a, b].Sublist (first :: rest) ↔ a = first ∧ b ∈ rest ∨ [a, b].Sublist rest := by
  constructor
  · intro sublist
    cases sublist with
    | cons _ later => exact Or.inr later
    | cons_cons _ later => exact Or.inl ⟨rfl, List.singleton_sublist.mp later⟩
  · rintro (⟨rfl, later⟩ | later)
    · exact (List.singleton_sublist.mpr later).cons_cons _
    · exact later.cons _

section Positional

variable {path names : List String} {name : String} {seen : Bool}
  {args : List (PositionalArg Source)}

theorem invalidArgName_mem_positional :
    .invalidArgName path name ∈ positionalDefects path names seen args ↔
      name ∈ args.map (·.name) ∧ ¬ IsName name := by
  induction args generalizing names seen with
  | nil => simp [positionalDefects]
  | cons first rest ih =>
    simp only [positionalDefects, List.mem_append, mem_nameDefects_iff, ih, List.map_cons,
      List.mem_cons]
    grind

/-- A name is reported as taken if it was taken before, or comes twice. -/
theorem duplicateArgument_mem_positional :
    .duplicateArgument path name ∈ positionalDefects path names seen args ↔
      name ∈ args.map (·.name) ∧ name ∈ names ∨ [name, name].Sublist (args.map (·.name)) := by
  induction args generalizing names seen with
  | nil => simp [positionalDefects]
  | cons first rest ih =>
    simp only [positionalDefects, List.mem_append, mem_nameDefects_iff, ih, List.map_cons,
      List.mem_cons, pair_sublist_cons_iff]
    grind

/-- A required argument is reported if an optional one was seen before, or comes before it. -/
theorem requiredAfterOptional_mem_positional :
    .requiredAfterOptional path name ∈ positionalDefects path names seen args ↔
      ∃ later, later.name = name ∧ later.optional = false ∧
        (seen = true ∧ later ∈ args ∨
          ∃ earlier, earlier.optional = true ∧ [earlier, later].Sublist args) := by
  induction args generalizing names seen with
  | nil => simp [positionalDefects]
  | cons first rest ih =>
    simp only [positionalDefects, List.mem_append, mem_nameDefects_iff, ih, List.mem_cons,
      pair_sublist_cons_iff]
    grind

/-- No other kind of defect is found in positional arguments. -/
theorem kind_of_mem_positional {d : Defect} (listed : d ∈ positionalDefects path names seen args) :
    ∃ name, d = .invalidArgName path name ∨ d = .duplicateArgument path name ∨
      d = .requiredAfterOptional path name := by
  induction args generalizing names seen with
  | nil => simp [positionalDefects] at listed
  | cons first rest ih =>
    simp only [positionalDefects, List.mem_append, mem_nameDefects_iff] at listed
    grind

end Positional

/-! ### One fragment -/

/-- The words that lead to the fragment in which a defect is found. The defects of a command word
do not say. -/
def Defect.fragment? : Defect → Option (List String)
  | .emptyWord _ | .uppercaseWord _ => none
  | .deadEnd path | .invalidArgName path _ | .requiredAfterOptional path _
  | .duplicateArgument path _ => some path

section Own

variable {path inherited : List String} {name : String} {f : Fragment Code Handler Source}

theorem fragment?_of_mem_own {d : Defect} (listed : d ∈ f.ownDefects path inherited) :
    d.fragment? = some path := by
  simp only [Fragment.ownDefects, List.mem_append, List.mem_flatMap, mem_nameDefects_iff] at listed
  rcases listed with (dead | ⟨name, _, _, rfl⟩) | positional
  · split at dead
    · cases dead
    · rw [List.mem_singleton.mp dead, Defect.fragment?]
  · rfl
  · obtain ⟨name, rfl | rfl | rfl⟩ := kind_of_mem_positional positional <;> rfl

theorem deadEnd_mem_own :
    .deadEnd path ∈ f.ownDefects path inherited ↔ f.code = none ∧ f.sub = [] := by
  have elsewhere : Defect.deadEnd path ∉
      positionalDefects path (f.named.keys ++ inherited) false f.positional := by
    intro listed
    obtain ⟨name, kind | kind | kind⟩ := kind_of_mem_positional listed <;> cases kind
  simp only [Fragment.ownDefects, List.mem_append, List.mem_flatMap, mem_nameDefects_iff, elsewhere]
  simp [Fragment.isTerminal]

theorem invalidArgName_mem_own :
    .invalidArgName path name ∈ f.ownDefects path inherited ↔
      name ∈ f.argNames ∧ ¬ IsName name := by
  simp only [Fragment.ownDefects, List.mem_append, List.mem_flatMap, mem_nameDefects_iff,
    invalidArgName_mem_positional, Fragment.argNames]
  grind

theorem requiredAfterOptional_mem_own :
    .requiredAfterOptional path name ∈ f.ownDefects path inherited ↔
      ∃ earlier later, [earlier, later].Sublist f.positional ∧ earlier.optional = true ∧
        later.optional = false ∧ later.name = name := by
  simp only [Fragment.ownDefects, List.mem_append, List.mem_flatMap, mem_nameDefects_iff,
    requiredAfterOptional_mem_positional]
  grind

theorem duplicateArgument_mem_own :
    .duplicateArgument path name ∈ f.ownDefects path inherited ↔
      name ∈ f.positional.map (·.name) ∧ name ∈ f.named.keys ++ inherited ∨
        [name, name].Sublist (f.positional.map (·.name)) := by
  simp only [Fragment.ownDefects, List.mem_append, List.mem_flatMap, mem_nameDefects_iff,
    duplicateArgument_mem_positional]
  grind

end Own

end Steering.Grammar
