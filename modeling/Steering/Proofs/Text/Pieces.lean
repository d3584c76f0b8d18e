import Mathlib.Data.List.DropRight
import Steering.Text.Pieces

/-!
# Comma lists

A text is cut at its separators as `List.splitOn` cuts it, so a comma between two texts keeps their
items apart, whatever the texts are (`splitList_append`). Trimming a second time changes nothing
(`trimChars_trimChars`), and it adds no characters to a piece, so the items that are read have a
normal form (`IsItem`). Items in that form, joined by commas, are read back as they are, and no
other texts are (`splitList_normalForm`).
-/

namespace Steering.Text

/-! ### Trimming -/

/-- Where no blank stands at the beginning, trimming the end puts none there. -/
theorem trimStart_trimEnd {cs : List Char} (trimmed : trimStart cs = cs) :
    trimStart (trimEnd cs) = trimEnd cs := by
  obtain ⟨rest, same⟩ : trimEnd cs <+: cs := List.rdropWhile_prefix isBlank cs
  cases shape : trimEnd cs with
  | nil => rfl
  | cons c more =>
    -- The first character has been the first one before.
    rw [shape] at same
    subst same
    have visible : ¬ isBlank c = true := by
      simpa using List.dropWhile_eq_self_iff.mp trimmed
    rw [trimStart, List.dropWhile_cons_of_neg visible]

theorem trimChars_trimChars (cs : List Char) : trimChars (trimChars cs) = trimChars cs := by
  have start : trimStart (trimStart cs) = trimStart cs := List.dropWhile_idempotent isBlank cs
  have finish : trimEnd (trimEnd (trimStart cs)) = trimEnd (trimStart cs) :=
    List.rdropWhile_idempotent isBlank (trimStart cs)
  simp only [trimChars]
  rw [trimStart_trimEnd start, finish]

theorem mem_of_mem_trimChars {c : Char} {cs : List Char} (there : c ∈ trimChars cs) : c ∈ cs :=
  (List.dropWhile_sublist isBlank).subset
    ((List.rdropWhile_prefix isBlank (trimStart cs)).subset there)

/-! ### Pieces -/

variable {separator : Char}

theorem piecesFrom_eq (begun cs : List Char) :
    piecesFrom separator begun cs = List.splitOnPPrepend (· == separator) cs begun := by
  induction cs generalizing begun with
  | nil => rfl
  | cons c rest ih =>
    rw [piecesFrom, List.splitOnPPrepend_cons_eq_if, ih, ih, List.splitOnPPrepend_nil_right]
    simp only [beq_iff_eq]

theorem pieces_eq_splitOn (cs : List Char) : pieces separator cs = cs.splitOn separator :=
  piecesFrom_eq [] cs

/-- No piece has a separator in it. -/
theorem not_mem_of_mem_piecesFrom {begun cs : List Char} (clean : separator ∉ begun) :
    ∀ piece ∈ piecesFrom separator begun cs, separator ∉ piece := by
  induction cs generalizing begun with
  | nil =>
    intro piece member
    rw [piecesFrom, List.mem_singleton] at member
    simpa [member] using clean
  | cons c rest ih =>
    intro piece member
    rw [piecesFrom] at member
    split at member
    · rcases List.mem_cons.mp member with rfl | later
      · simpa using clean
      · exact ih List.not_mem_nil piece later
    next other =>
      refine ih (fun inside => ?_) piece member
      exact (List.mem_cons.mp inside).elim (other ·.symm) clean

/-! ### Items -/

/-- A text that can be an item of a comma list: there is something in it, but no comma, and no white
space at its ends. -/
structure IsItem (item : String) : Prop where
  nonempty : item ≠ ""
  unbroken : ',' ∉ item.toList
  trimmed : trim item = item

theorem splitList_append (before after : String) :
    splitList (before ++ "," ++ after) = splitList before ++ splitList after := by
  have chars : (before ++ "," ++ after).toList = before.toList ++ ',' :: after.toList := by
    simp [String.toList_append]
  simp only [splitList, chars, pieces_eq_splitOn, List.splitOn_append_cons_self, List.map_append,
    List.filter_append]

theorem isItem_of_mem_splitList {text item : String} (member : item ∈ splitList text) :
    IsItem item := by
  simp only [splitList, List.mem_map, List.mem_filter] at member
  obtain ⟨_, ⟨⟨piece, isPiece, rfl⟩, nonempty⟩, rfl⟩ := member
  constructor
  · simpa using nonempty
  · rw [String.toList_ofList]
    exact fun comma => not_mem_of_mem_piecesFrom List.not_mem_nil piece isPiece
      (mem_of_mem_trimChars comma)
  · rw [trim, String.toList_ofList, trimChars_trimChars]

/-- An item alone is a list of one. -/
theorem splitList_of_isItem {item : String} (isItem : IsItem item) : splitList item = [item] := by
  have trimmed : trimChars item.toList = item.toList := by
    have same := congrArg String.toList isItem.trimmed
    rwa [trim, String.toList_ofList] at same
  rw [splitList, pieces_eq_splitOn, List.splitOn_eq_singleton isItem.unbroken, List.map_singleton,
    trimmed]
  simp [isItem.nonempty]

theorem splitList_intercalate {items : List String} (isItem : ∀ item ∈ items, IsItem item) :
    splitList (String.intercalate "," items) = items := by
  induction items with
  | nil => rfl
  | cons item rest ih =>
    obtain ⟨first, others⟩ := List.forall_mem_cons.mp isItem
    cases rest with
    | nil => rw [String.intercalate_singleton, splitList_of_isItem first]
    | cons next rest =>
      rw [String.intercalate_cons_cons, splitList_append, splitList_of_isItem first, ih others,
        List.singleton_append]

/-- **Comma lists have a normal form.** A comma keeps what is on its two sides apart. The items that
are read are in the form `IsItem`; texts are read back from the list that joins them if and only if
all of them are. So a list that has been read is not changed by joining and reading it again. -/
theorem splitList_normalForm :
    (∀ before after : String,
      splitList (before ++ "," ++ after) = splitList before ++ splitList after) ∧
    (∀ text : String, ∀ item ∈ splitList text, IsItem item) ∧
    (∀ items : List String,
      splitList (String.intercalate "," items) = items ↔ ∀ item ∈ items, IsItem item) ∧
    ∀ text : String, splitList (String.intercalate "," (splitList text)) = splitList text := by
  have reads : ∀ text : String, ∀ item ∈ splitList text, IsItem item :=
    fun _ _ => isItem_of_mem_splitList
  refine ⟨splitList_append, reads, fun items => ⟨fun same => ?_, splitList_intercalate⟩,
    fun text => splitList_intercalate (reads text)⟩
  rw [← same]
  exact reads _

end Steering.Text
