import Mathlib.Data.List.Induction
import Steering.Dict

/-!
# What dictionaries hold

Looking up a key in sorted entries finds exactly the entry with that key. From this follows what
an overriding dictionary answers: its own value for its own keys, and the old value for all others
(`Dict.get?_override`). Of a list of entries in any order, with keys that may come again, the last
entry of a key counts (`Dict.get?_ofList_eq_some_iff`).
-/

namespace Steering

namespace Entries

variable {α : Type u}

theorem mem_of_find? {key : String} {value : α} {es : List (String × α)}
    (found : find? key es = some value) : (key, value) ∈ es := by
  induction es with
  | nil => simp [find?] at found
  | cons head rest ih =>
    obtain ⟨k, v⟩ := head
    rw [find?] at found
    split at found
    next same =>
      cases found
      subst same
      exact List.mem_cons_self
    next => exact List.mem_cons_of_mem _ (ih found)

/-- A key is found exactly if it is there, in any order of the entries. -/
theorem find?_isSome_iff {key : String} {es : List (String × α)} :
    (find? key es).isSome ↔ key ∈ es.map (·.1) := by
  induction es with
  | nil => simp [find?]
  | cons head rest ih =>
    obtain ⟨k, v⟩ := head
    rw [find?, List.map_cons, List.mem_cons]
    split
    next same => simp [same]
    next different => rw [ih, or_iff_right (Ne.symm different)]

theorem Sorted.keys {es : List (String × α)} (sorted : Sorted es) :
    (es.map (·.1)).Pairwise (· < ·) :=
  List.pairwise_map.mpr sorted

/-- In sorted entries no later entry has the key of the first. -/
theorem Sorted.find?_tail {key : String} {value : α} {rest : List (String × α)}
    (sorted : Sorted ((key, value) :: rest)) : find? key rest = none := by
  cases found : find? key rest with
  | none => rfl
  | some other =>
    have less := (List.pairwise_cons.mp sorted).1 (key, other) (mem_of_find? found)
    exact absurd less (String.lt_irrefl key)

/-- In sorted entries each entry is found by its key. -/
theorem Sorted.find?_eq_some_iff {key : String} {value : α} {es : List (String × α)}
    (sorted : Sorted es) : find? key es = some value ↔ (key, value) ∈ es := by
  refine ⟨mem_of_find?, fun member => ?_⟩
  induction es with
  | nil => cases member
  | cons head rest ih =>
    obtain ⟨k, v⟩ := head
    obtain ⟨first, sortedRest⟩ := List.pairwise_cons.mp sorted
    rw [find?]
    rcases List.mem_cons.mp member with same | later
    · cases same
      rw [if_pos rfl]
    · have less : k < key := first _ later
      rw [if_neg (String.ne_of_lt less), ih sortedRest later]

/-! ### The last entry of a key -/

/-- The value of the last entry with the key. -/
def Last (key : String) (value : α) (es : List (String × α)) : Prop :=
  ∃ before after, es = before ++ (key, value) :: after ∧ ∀ e ∈ after, e.1 ≠ key

theorem Last.mem {key : String} {value : α} {es : List (String × α)} (last : Last key value es) :
    (key, value) ∈ es := by
  obtain ⟨before, after, rfl, -⟩ := last
  exact List.mem_append_right _ List.mem_cons_self

/-- The last entry is among the later ones, if there is one with the key. -/
theorem last_append_iff {key : String} {value : α} {es more : List (String × α)} :
    Last key value (es ++ more) ↔
      Last key value more ∨ (∀ e ∈ more, e.1 ≠ key) ∧ Last key value es := by
  constructor
  · rintro ⟨before, after, split, none⟩
    rcases List.append_eq_append_iff.mp split with ⟨between, -, rfl⟩ | ⟨between, rfl, rest⟩
    · exact .inl ⟨between, after, rfl, none⟩
    · cases between with
      | nil => exact .inl ⟨[], after, rest.symm, none⟩
      | cons e between =>
        obtain ⟨rfl, rfl⟩ := List.cons.inj rest
        exact .inr ⟨fun e later => none e (List.mem_append_right _ later), before, between, rfl,
          fun e there => none e (List.mem_append_left _ there)⟩
  · rintro (⟨before, after, rfl, none⟩ | ⟨noneLater, before, after, rfl, none⟩)
    · exact ⟨es ++ before, after, by simp, none⟩
    · refine ⟨before, after ++ more, by simp, fun e there => ?_⟩
      exact (List.mem_append.mp there).elim (none e) (noneLater e)

theorem last_singleton_iff {key : String} {value : α} {e : String × α} :
    Last key value [e] ↔ (key, value) = e :=
  ⟨fun last => List.mem_singleton.mp last.mem, fun same => ⟨[], [], by rw [same, List.nil_append],
    by simp⟩⟩

/-- A key that is there has a last entry. -/
theorem exists_last {key : String} {es : List (String × α)} (there : key ∈ es.map (·.1)) :
    ∃ value, Last key value es := by
  induction es with
  | nil => cases there
  | cons e es ih =>
    by_cases later : key ∈ es.map (·.1)
    · obtain ⟨value, before, after, rfl, last⟩ := ih later
      exact ⟨value, e :: before, after, rfl, last⟩
    · have first : key = e.1 := (List.mem_cons.mp there).resolve_right later
      subst first
      exact ⟨e.2, [], es, rfl, fun other member same =>
        later (List.mem_map.mpr ⟨other, member, same⟩)⟩

/-- Where no key is there twice, every entry is the last with its key. -/
theorem last_iff_mem {key : String} {value : α} {es : List (String × α)}
    (distinct : (es.map (·.1)).Nodup) : Last key value es ↔ (key, value) ∈ es := by
  refine ⟨Last.mem, fun member => ?_⟩
  obtain ⟨before, after, rfl⟩ := List.append_of_mem member
  rw [List.map_append, List.map_cons, List.nodup_append, List.nodup_cons] at distinct
  exact ⟨before, after, rfl, fun e later same =>
    distinct.2.1.1 (List.mem_map.mpr ⟨e, later, same⟩)⟩

end Entries

namespace Dict

variable {α : Type u}

theorem contains_iff {d : Dict α} {key : String} : d.contains key = true ↔ key ∈ d.keys :=
  Entries.find?_isSome_iff

theorem contains_iff_exists {d : Dict α} {key : String} :
    d.contains key = true ↔ ∃ value, d.get? key = some value :=
  Option.isSome_iff_exists

/-- Adding entries one by one. -/
def insertAll (d : Dict α) (es : List (String × α)) : Dict α :=
  es.foldl (fun d e => d.insert e.1 e.2) d

theorem insertAll_nil (d : Dict α) : d.insertAll [] = d := rfl

theorem insertAll_cons (d : Dict α) (e : String × α) (es : List (String × α)) :
    d.insertAll (e :: es) = (d.insert e.1 e.2).insertAll es := rfl

theorem insertAll_append (d : Dict α) (es more : List (String × α)) :
    d.insertAll (es ++ more) = (d.insertAll es).insertAll more :=
  List.foldl_append

theorem insertAll_empty (es : List (String × α)) : ({} : Dict α).insertAll es = ofList es := rfl

theorem get?_insertAll_of_sorted (d : Dict α) {es : List (String × α)}
    (sorted : Entries.Sorted es) (key : String) :
    (d.insertAll es).get? key = (Entries.find? key es).or (d.get? key) := by
  induction es generalizing d with
  | nil => rfl
  | cons head rest ih =>
    obtain ⟨k, v⟩ := head
    rw [insertAll_cons, ih _ (List.pairwise_cons.mp sorted).2, Entries.find?]
    split
    next same =>
      -- No later entry takes the place of the one just added.
      subst same
      rw [sorted.find?_tail, get?_insert_self]
      rfl
    next different => rw [get?_insert_of_ne _ (Ne.symm different)]

/-- **The last entry counts** in the dictionary of a list of entries. -/
theorem get?_ofList_eq_some_iff {es : List (String × α)} {key : String} {value : α} :
    (ofList es).get? key = some value ↔ Entries.Last key value es := by
  -- Entries are added from the left, so the induction takes the last one off.
  induction es using List.reverseRecOn with
  | nil => simp [ofList, get?, empty, Entries.find?, Entries.Last]
  | append_singleton es e ih =>
    have added : ofList (es ++ [e]) = (ofList es).insert e.1 e.2 := by simp [ofList]
    rw [added, Entries.last_append_iff, Entries.last_singleton_iff]
    by_cases same : key = e.1
    · subst same
      simp [get?_insert_self, Prod.ext_iff, eq_comm]
    · simp [get?_insert_of_ne _ same, ih, Prod.ext_iff, same, Ne.symm same]

/-- **Overriding**: the new dictionary answers first, and the old one where it does not. -/
theorem get?_override (d other : Dict α) (key : String) :
    (d.override other).get? key = (other.get? key).or (d.get? key) :=
  get?_insertAll_of_sorted d other.sorted key

end Dict

end Steering
