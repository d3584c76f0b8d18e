import Steering.Proofs.Dict
import Steering.Proofs.Grammar.Faults

/-!
# The fragments of a grammar

`Spec.fragments` lists every fragment of a grammar with its command word, at whatever depth it
stands. What a grammar without defects promises is promised of each of them (`Fragment.Sound`),
and going down from a fragment of the grammar leads to a fragment of the grammar
(`Spec.Has.child`): so a walk from the root only meets sound fragments.
-/

namespace Steering.Grammar

variable {Code Handler Source : Type}

mutual

/-- The fragments below this one, at every depth, with their command words. -/
def Fragment.descendants :
    Fragment Code Handler Source → List (String × Fragment Code Handler Source)
  | ⟨_, _, _, _, _, sub⟩ => fragmentsAmong sub

/-- The given fragments and those below them. -/
def fragmentsAmong :
    List (String × Fragment Code Handler Source) → List (String × Fragment Code Handler Source)
  | [] => []
  | (word, child) :: rest => (word, child) :: (child.descendants ++ fragmentsAmong rest)

end

/-- All fragments of a grammar but the root. -/
def Spec.fragments (spec : Spec Code Handler Source) :
    List (String × Fragment Code Handler Source) :=
  fragmentsAmong spec.topLevel

/-! ### Going down stays in the tree -/

theorem mem_fragmentsAmong {sub : List (String × Fragment Code Handler Source)}
    {e : String × Fragment Code Handler Source} (member : e ∈ sub) : e ∈ fragmentsAmong sub := by
  induction sub with
  | nil => simp at member
  | cons head rest ih =>
    obtain ⟨word, child⟩ := head
    rw [fragmentsAmong, List.mem_cons, List.mem_append]
    rcases List.mem_cons.mp member with same | later
    · exact Or.inl same
    · exact Or.inr (Or.inr (ih later))

theorem Fragment.descendants_eq (f : Fragment Code Handler Source) :
    f.descendants = fragmentsAmong f.sub := by
  cases f
  rw [Fragment.descendants]

mutual

theorem Fragment.descendants_closed {e next : String × Fragment Code Handler Source}
    (child : next ∈ e.2.sub) :
    (f : Fragment Code Handler Source) → e ∈ f.descendants → next ∈ f.descendants
  | ⟨_, _, _, _, _, sub⟩, member => by
    rw [Fragment.descendants] at member ⊢
    exact fragmentsAmong_closed child sub member

theorem fragmentsAmong_closed {e next : String × Fragment Code Handler Source}
    (child : next ∈ e.2.sub) :
    (sub : List (String × Fragment Code Handler Source)) →
    e ∈ fragmentsAmong sub → next ∈ fragmentsAmong sub
  | [], member => by simp [fragmentsAmong] at member
  | (word, first) :: rest, member => by
    rw [fragmentsAmong, List.mem_cons, List.mem_append] at member ⊢
    rcases member with rfl | deeper | later
    · rw [Fragment.descendants_eq]
      exact Or.inr (Or.inl (mem_fragmentsAmong child))
    · exact Or.inr (Or.inl (Fragment.descendants_closed child first deeper))
    · exact Or.inr (Or.inr (fragmentsAmong_closed child rest later))

end

/-- The fragment is the root of the grammar or one of its fragments. -/
def Spec.Has (spec : Spec Code Handler Source) (f : Fragment Code Handler Source) : Prop :=
  f = spec.root ∨ ∃ word, (word, f) ∈ spec.fragments

theorem Spec.Has.child {spec : Spec Code Handler Source} {f child : Fragment Code Handler Source}
    {word : String} (has : spec.Has f) (found : Entries.find? word f.sub = some child) :
    (word, child) ∈ spec.fragments := by
  have member := Entries.mem_of_find? found
  rcases has with rfl | ⟨above, has⟩
  · exact mem_fragmentsAmong member
  · exact @fragmentsAmong_closed _ _ _ (above, f) (word, child) member spec.topLevel has

/-! ### Order -/

mutual

theorem Fragment.ordered_descendants :
    (f : Fragment Code Handler Source) → f.Ordered → ∀ e ∈ f.descendants, e.2.Ordered
  | ⟨_, _, _, _, _, sub⟩, ordered => by
    rw [Fragment.Ordered] at ordered
    rw [Fragment.descendants]
    exact ordered_among sub ordered.2

theorem ordered_among :
    (sub : List (String × Fragment Code Handler Source)) → Fragment.BranchesOrdered sub →
    ∀ e ∈ fragmentsAmong sub, e.2.Ordered
  | [], _ => by simp [fragmentsAmong]
  | (word, child) :: rest, ordered => by
    rw [Fragment.BranchesOrdered] at ordered
    intro e member
    rw [fragmentsAmong, List.mem_cons, List.mem_append] at member
    rcases member with rfl | deeper | later
    · exact ordered.1
    · exact Fragment.ordered_descendants child ordered.1 e deeper
    · exact ordered_among rest ordered.2 e later

end

/-- The command words under any fragment of a grammar increase. -/
theorem Spec.Has.sorted {spec : Spec Code Handler Source} {f : Fragment Code Handler Source}
    (has : spec.Has f) : Entries.Sorted f.sub := by
  have ordered : f.Ordered := by
    rcases has with rfl | ⟨word, member⟩
    · exact spec.root_ordered
    · exact ordered_among spec.topLevel spec.ordered (word, f) member
  cases f
  rw [Fragment.Ordered] at ordered
  exact ordered.1

/-! ### What it means to have no defects -/

/-- Nothing is wrong with a fragment that stands under the given word. -/
structure Fragment.Sound (word : String) (f : Fragment Code Handler Source) : Prop where
  notBlank : Text.allBlank word = false
  lowercase : Text.lower word = word
  faultless : ∃ path inherited, f.ownDefects path inherited = []

namespace Fragment.Sound

variable {word : String} {f : Fragment Code Handler Source}

theorem word_ne_empty (sound : f.Sound word) : word ≠ "" := by
  rintro rfl
  exact absurd sound.notBlank (by decide)

/-- A sound fragment is a command or leads on. -/
theorem alive (sound : f.Sound word) : f.isTerminal = true ∨ f.sub ≠ [] := by
  obtain ⟨path, inherited, clean⟩ := sound.faultless
  have goesOn : Defect.deadEnd path ∉ f.ownDefects path inherited := by simp [clean]
  rw [deadEnd_mem_own, not_and_or] at goesOn
  exact goesOn.imp_left Option.isSome_iff_ne_none.mpr

/-- The names that a sound fragment declares can be written after a marker. -/
theorem argName (sound : f.Sound word) {name : String} (declared : name ∈ f.named.keys) :
    isArgName name = true := by
  obtain ⟨path, inherited, clean⟩ := sound.faultless
  have good : Defect.invalidArgName path name ∉ f.ownDefects path inherited := by simp [clean]
  rw [invalidArgName_mem_own, not_and, not_not] at good
  exact isArgName_iff.mpr (good (List.mem_append_left _ declared))

end Fragment.Sound

theorem Fragment.defectsBelow_eq (path inherited : List String)
    (f : Fragment Code Handler Source) :
    f.defectsBelow path inherited = defectsAmong path inherited f.sub := by
  cases f
  rw [Fragment.defectsBelow]

/-- Fragments have no defects if the first of them, what is below it, and the others have none. -/
theorem defectsAmong_cons_eq_nil_iff {path inherited : List String} {word : String}
    {child : Fragment Code Handler Source}
    {rest : List (String × Fragment Code Handler Source)} :
    defectsAmong path inherited ((word, child) :: rest) = [] ↔
      (Text.allBlank word = false ∧ Text.lower word = word ∧
        child.ownDefects (path ++ [word]) inherited = [] ∧
        child.defectsBelow (path ++ [word]) (child.named.keys ++ inherited) = []) ∧
      defectsAmong path inherited rest = [] := by
  rw [defectsAmong, List.append_eq_nil_iff]
  cases Text.allBlank word with
  | true => simp
  | false => simp [and_assoc]

mutual

theorem Fragment.sound_descendants (path inherited : List String) :
    (f : Fragment Code Handler Source) → f.defectsBelow path inherited = [] →
    ∀ e ∈ f.descendants, e.2.Sound e.1
  | ⟨_, _, _, _, _, sub⟩, clean => by
    rw [Fragment.defectsBelow] at clean
    rw [Fragment.descendants]
    exact sound_among path inherited sub clean

theorem sound_among (path inherited : List String) :
    (sub : List (String × Fragment Code Handler Source)) →
    defectsAmong path inherited sub = [] → ∀ e ∈ fragmentsAmong sub, e.2.Sound e.1
  | [], _ => by simp [fragmentsAmong]
  | (word, child) :: rest, clean => by
    obtain ⟨⟨notBlank, lowercase, own, deep⟩, others⟩ := defectsAmong_cons_eq_nil_iff.mp clean
    intro e member
    rw [fragmentsAmong, List.mem_cons, List.mem_append] at member
    rcases member with rfl | deeper | later
    · exact ⟨notBlank, lowercase, _, _, own⟩
    · exact Fragment.sound_descendants _ _ child deep e deeper
    · exact sound_among path inherited rest others e later

end

/-- **A grammar without defects is sound throughout.** -/
theorem Spec.sound_of_mem {spec : Spec Code Handler Source} (valid : spec.defects = [])
    {word : String} {f : Fragment Code Handler Source} (member : (word, f) ∈ spec.fragments) :
    f.Sound word :=
  sound_among [] [] spec.topLevel valid (word, f) member

/-- A small grammar to look at: two words that lead to a command with one required argument and a
flag declared above it, and a command of one word. -/
def zoneGrammar : Spec Nat String String :=
  .ofCommands [
    ("show",
      { description := "Show resources"
        named := .ofList [("raw", { description := "Print JSON", isFlag := true })]
        sub := [
          ("zone",
            { description := "Show a zone"
              positional := [{ name := "name", description := "Zone name" }]
              code := some 1 })] }),
    ("exit", { description := "Leave", code := some 2 })]

end Steering.Grammar
