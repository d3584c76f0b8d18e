/-!
# Dictionaries with text keys

A dictionary is a list of entries in increasing order of key, each key once. Keys are ordered by
code point. The functions in the namespace `Entries` work on plain lists of entries; `Dict` adds
the proof that the keys increase, which every operation keeps.
-/

namespace Steering

namespace Entries

variable {α : Type u}

/-- The entries are in strictly increasing order of key. -/
def Sorted (es : List (String × α)) : Prop := es.Pairwise (fun a b => a.1 < b.1)

def find? (key : String) : List (String × α) → Option α
  | [] => none
  | (k, v) :: rest => if k = key then some v else find? key rest

/-- Adds an entry at its place, or replaces the one with the same key. -/
def insert (key : String) (value : α) : List (String × α) → List (String × α)
  | [] => [(key, value)]
  | (k, v) :: rest =>
    if key < k then (key, value) :: (k, v) :: rest
    else if key = k then (key, value) :: rest
    else (k, v) :: insert key value rest

theorem Sorted.nil : Sorted ([] : List (String × α)) := List.Pairwise.nil

theorem mem_insert {key : String} {value : α} {es : List (String × α)} {e : String × α}
    (h : e ∈ insert key value es) : e = (key, value) ∨ e ∈ es := by
  induction es with
  | nil => exact Or.inl (by simpa [insert] using h)
  | cons head rest ih =>
    obtain ⟨k, v⟩ := head
    rw [insert] at h
    split at h
    · rcases List.mem_cons.1 h with h | h
      · exact Or.inl h
      · exact Or.inr h
    · split at h
      · rcases List.mem_cons.1 h with h | h
        · exact Or.inl h
        · exact Or.inr (List.mem_cons_of_mem _ h)
      · rcases List.mem_cons.1 h with h | h
        · exact Or.inr (h ▸ List.mem_cons_self ..)
        · exact (ih h).imp id (List.mem_cons_of_mem _)

private theorem key_trichotomy {a b : String} (h₁ : ¬ a < b) (h₂ : a ≠ b) : b < a := by
  rcases Std.lt_trichotomy a b with h | h | h
  · exact absurd h h₁
  · exact absurd h h₂
  · exact h

theorem Sorted.insert {es : List (String × α)} (h : Sorted es) (key : String) (value : α) :
    Sorted (insert key value es) := by
  induction es with
  | nil => exact List.pairwise_singleton _ _
  | cons head rest ih =>
    obtain ⟨k, v⟩ := head
    obtain ⟨hk, hrest⟩ := List.pairwise_cons.1 h
    rw [Entries.insert]
    split
    · next hlt =>
      refine List.pairwise_cons.2 ⟨fun e he => ?_, h⟩
      rcases List.mem_cons.1 he with rfl | he
      · exact hlt
      · exact String.lt_trans hlt (hk e he)
    · next hlt =>
      split
      · next heq =>
        subst heq
        exact List.pairwise_cons.2 ⟨hk, hrest⟩
      · next hne =>
        refine List.pairwise_cons.2 ⟨fun e he => ?_, ih hrest⟩
        rcases mem_insert he with rfl | he
        · exact key_trichotomy hlt hne
        · exact hk e he

theorem find?_insert_self (key : String) (value : α) (es : List (String × α)) :
    find? key (insert key value es) = some value := by
  induction es with
  | nil => simp [insert, find?]
  | cons head rest ih =>
    obtain ⟨k, v⟩ := head
    rw [insert]
    split
    · simp [find?]
    · split
      · simp [find?]
      · next hne => simp [find?, Ne.symm hne, ih]

theorem find?_insert_of_ne {key other : String} (hne : other ≠ key) (value : α)
    (es : List (String × α)) : find? other (insert key value es) = find? other es := by
  induction es with
  | nil => simp [insert, find?, Ne.symm hne]
  | cons head rest ih =>
    obtain ⟨k, v⟩ := head
    rw [insert]
    split
    · simp [find?, Ne.symm hne]
    · split
      · next heq =>
        subst heq
        simp [find?, Ne.symm hne]
      · simp [find?, ih]

end Entries

/-- A finite map from texts, kept in increasing order of key. -/
structure Dict (α : Type u) where
  entries : List (String × α)
  sorted : Entries.Sorted entries := by exact Entries.Sorted.nil

namespace Dict

variable {α : Type u}

def empty : Dict α := { entries := [] }

instance : EmptyCollection (Dict α) := ⟨empty⟩

instance : Inhabited (Dict α) := ⟨empty⟩

def get? (d : Dict α) (key : String) : Option α := Entries.find? key d.entries

def contains (d : Dict α) (key : String) : Bool := (d.get? key).isSome

def keys (d : Dict α) : List String := d.entries.map (·.1)

def insert (d : Dict α) (key : String) (value : α) : Dict α :=
  { entries := Entries.insert key value d.entries, sorted := d.sorted.insert key value }

/-- The entries in any order; of two with one key the later counts. -/
def ofList (es : List (String × α)) : Dict α := es.foldl (fun d e => d.insert e.1 e.2) empty

/-- Both dictionaries' entries; for a key in both, that of `other`. -/
def override (d other : Dict α) : Dict α := other.entries.foldl (fun d e => d.insert e.1 e.2) d

@[ext] theorem ext {d e : Dict α} (h : d.entries = e.entries) : d = e := by
  cases d; cases e; cases h; rfl

theorem get?_insert_self (d : Dict α) (key : String) (value : α) :
    (d.insert key value).get? key = some value :=
  Entries.find?_insert_self key value d.entries

theorem get?_insert_of_ne (d : Dict α) {key other : String} (h : other ≠ key) (value : α) :
    (d.insert key value).get? other = d.get? other :=
  Entries.find?_insert_of_ne h value d.entries

end Dict

end Steering
