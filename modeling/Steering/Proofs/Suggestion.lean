import Mathlib.Data.List.Infix
import Steering.Suggestion
import Steering.Proofs.Text.Lowercase

/-!
# Narrowing with and without regard to case

A suggestion that begins with, or contains, what has been typed should not be lost when the case is
ignored. It can be: the lowercase of a capital sigma depends on whether a word ends behind it, and
the word may end where the typing stops, but not in the suggestion. Only sigmas do this. Of the
suggestions that begin with the typed text, those stay in which its sigmas are kept; and none that
contains it is ever lost if and only if no surroundings change one of its sigmas. So a suggestion
stays while its own text is typed, letter by letter, if and only if no capital sigma stands inside a
word of it (`ignoring_case_keeps`).
-/

namespace Steering.Suggestion

theorem occursIn_iff {needle text : List Char} :
    occursIn needle text = true ↔ needle <:+: text := by
  induction text with
  | nil => simp [occursIn]
  | cons c rest ih =>
    rw [occursIn, Bool.or_eq_true, ih, List.isPrefixOf_iff_prefix, List.infix_cons_iff]

theorem filter_sublist_filter_iff {α : Type} {p q : α → Bool} {l : List α} :
    (l.filter p).Sublist (l.filter q) ↔ ∀ x ∈ l, p x = true → q x = true := by
  constructor
  · intro kept x there holds
    exact (List.mem_filter.mp (kept.subset (List.mem_filter.mpr ⟨there, holds⟩))).2
  · intro implied
    have twice : l.filter p = (l.filter q).filter p := by
      rw [List.filter_filter]
      refine List.filter_congr fun x there => ?_
      cases holds : p x with
      | true => rw [implied x there holds, Bool.and_true]
      | false => rw [Bool.false_and]
    rw [twice]
    exact List.filter_sublist

variable {typed : String} {all : List Suggestion}

/-- Which suggestions that begin with the typed text begin with it in lowercase too. -/
theorem startingWith_sublist_iff :
    (startingWith false typed all).Sublist (startingWith true typed all) ↔
      ∀ s ∈ all, ∀ after, s.text.toList = typed.toList ++ after →
        Text.KeepsSigmas [] typed.toList after := by
  unfold startingWith
  rw [filter_sublist_filter_iff]
  simp only [folded, if_true, if_neg Bool.false_ne_true, List.isPrefixOf_iff_prefix]
  constructor
  · intro kept s there after whole
    have lowered := kept s there (whole ▸ List.prefix_append _ _)
    rw [whole] at lowered
    exact Text.lowerChars_prefix_iff.mp lowered
  · rintro keeps s there ⟨after, whole⟩
    rw [← whole]
    exact Text.lowerChars_prefix_iff.mpr (keeps s there after whole.symm)

theorem containing_sublist_iff :
    (containing false typed all).Sublist (containing true typed all) ↔
      ∀ s ∈ all, typed.toList <:+: s.text.toList →
        Text.lowerChars typed.toList <:+: Text.lowerChars s.text.toList := by
  unfold containing
  rw [filter_sublist_filter_iff]
  simp only [folded, if_true, if_neg Bool.false_ne_true, occursIn_iff]

/-- A suggestion that contains the typed text with its sigmas kept is not lost. -/
theorem containing_sublist
    (keeps : ∀ s ∈ all, typed.toList <:+: s.text.toList → ∃ before after,
      s.text.toList = before ++ typed.toList ++ after ∧
        Text.KeepsSigmas before typed.toList after) :
    (containing false typed all).Sublist (containing true typed all) := by
  refine containing_sublist_iff.mpr fun s there found => ?_
  obtain ⟨before, after, whole, kept⟩ := keeps s there found
  rw [whole]
  exact Text.lowerChars_infix kept

/-- Nothing that contains the typed text is ever lost if and only if its sigmas are kept between any
two texts. -/
theorem containing_sublist_forall_iff :
    (∀ all, (containing false typed all).Sublist (containing true typed all)) ↔
      ∀ before after, Text.KeepsSigmas before typed.toList after := by
  constructor
  · intro kept before after
    refine Classical.byContradiction fun changed => ?_
    obtain ⟨front, back, lost⟩ := Text.exists_lost changed
    refine lost ?_
    -- The text in which the run is lost is a suggestion like any other.
    have run := containing_sublist_iff.mp (kept [⟨.ofList (front ++ typed.toList ++ back), ""⟩]) _
      List.mem_cons_self
    rw [String.toList_ofList] at run
    exact run ⟨front, back, rfl⟩
  · intro keeps all
    refine containing_sublist fun s _ ⟨before, after, whole⟩ => ?_
    exact ⟨before, after, whole.symm, keeps before after⟩

/-- A suggestion is offered for each of its prefixes if and only if no capital sigma stands inside a
word of it. -/
theorem offered_for_prefixes_iff {s : Suggestion} :
    (∀ front back, s.text.toList = front ++ back → startingWith true (.ofList front) [s] = [s]) ↔
      ∀ front back, s.text.toList = front ++ 'Σ' :: back →
        Text.nextIsCased front.reverse = true → Text.nextIsCased back = false := by
  rw [← Text.keepsSigmas_prefixes_iff]
  refine forall₂_congr fun front back => forall_congr' fun whole => ?_
  simp only [startingWith, folded, if_true, List.filter_eq_self, List.mem_singleton, forall_eq,
    List.isPrefixOf_iff_prefix, String.toList_ofList, whole]
  exact Text.lowerChars_prefix_iff

/-- **What ignoring the case keeps.** What is kept with regard to case is kept without it, in the
same order, as far as the sigmas of the typed text are kept; without a capital sigma in it nothing is
ever lost. While its own text is typed, a suggestion stays if and only if no sigma of it stands
inside a word. -/
theorem ignoring_case_keeps (typed : String) (s : Suggestion) :
    (∀ all, (startingWith false typed all).Sublist (startingWith true typed all) ↔
      ∀ s ∈ all, ∀ after, s.text.toList = typed.toList ++ after →
        Text.KeepsSigmas [] typed.toList after) ∧
    (∀ all, (∀ s ∈ all, typed.toList <:+: s.text.toList → ∃ before after,
        s.text.toList = before ++ typed.toList ++ after ∧
          Text.KeepsSigmas before typed.toList after) →
      (containing false typed all).Sublist (containing true typed all)) ∧
    ((∀ all, (containing false typed all).Sublist (containing true typed all)) ↔
      ∀ before after, Text.KeepsSigmas before typed.toList after) ∧
    ('Σ' ∉ typed.toList → ∀ all,
      (startingWith false typed all).Sublist (startingWith true typed all) ∧
        (containing false typed all).Sublist (containing true typed all)) ∧
    ((∀ front back, s.text.toList = front ++ back →
        startingWith true (.ofList front) [s] = [s]) ↔
      ∀ front back, s.text.toList = front ++ 'Σ' :: back →
        Text.nextIsCased front.reverse = true → Text.nextIsCased back = false) := by
  refine ⟨fun _ => startingWith_sublist_iff, fun _ => containing_sublist,
    containing_sublist_forall_iff, fun none all => ⟨?_, ?_⟩, offered_for_prefixes_iff⟩
  · exact startingWith_sublist_iff.mpr fun _ _ _ _ => Text.keepsSigmas_of_not_mem none _ _
  · exact containing_sublist_forall_iff.mpr (fun _ _ => Text.keepsSigmas_of_not_mem none _ _) all

/-- The sigma that ends the typed `ΚΑΣ` is in the middle of the word in `ΚΑΣΑ`. -/
theorem ignoring_case_loses :
    startingWith false "ΚΑΣ" [⟨"ΚΑΣΑ", ""⟩] = [⟨"ΚΑΣΑ", ""⟩] ∧
      startingWith true "ΚΑΣ" [⟨"ΚΑΣΑ", ""⟩] = [] ∧
      containing false "ΚΑΣ" [⟨"ΚΑΣΑ", ""⟩] = [⟨"ΚΑΣΑ", ""⟩] ∧
      containing true "ΚΑΣ" [⟨"ΚΑΣΑ", ""⟩] = [] := by
  have typed : "ΚΑΣ".toList = ['Κ', 'Α', 'Σ'] := String.toList_ofList
  have text : "ΚΑΣΑ".toList = ['Κ', 'Α', 'Σ', 'Α'] := String.toList_ofList
  have ends : Text.endsWord ['Κ', 'Α'] [] = true := by
    rw [Text.endsWord, List.reverse_cons, List.reverse_singleton, List.singleton_append,
      Text.nextIsCased_alpha, Text.nextIsCased, List.dropWhile_nil, Bool.not_false, Bool.and_true]
  have goesOn : Text.endsWord ([] ++ ['Κ', 'Α']) ([] ++ ['Α']) = false := by
    rw [Text.endsWord, List.nil_append ['Α'], Text.nextIsCased_alpha, Bool.not_true, Bool.and_false]
  have lost : ¬ Text.lowerChars ['Κ', 'Α', 'Σ'] <:+: Text.lowerChars ['Κ', 'Α', 'Σ', 'Α'] :=
    Text.lost_before_alpha rfl ends goesOn
  refine ⟨by decide +kernel, ?_, by decide +kernel, ?_⟩
  · simp only [startingWith, List.filter_eq_nil_iff, List.mem_singleton, forall_eq, folded, if_true,
      typed, text, List.isPrefixOf_iff_prefix]
    exact fun found => lost found.isInfix
  · simp only [containing, List.filter_eq_nil_iff, List.mem_singleton, forall_eq, folded, if_true,
      typed, text, occursIn_iff]
    exact lost

end Steering.Suggestion
