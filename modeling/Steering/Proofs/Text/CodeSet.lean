import Steering.Text.CodeSet

/-!
# Reading sets of characters

The ranges of a set that is written on several lines are those of its lines, one line after the
other (`ranges_ofLines`). With that, whether a character is in a large table can be found out by
reading the lines one by one.
-/

namespace Steering.Text.CodeSet

/-- The ranges written in the rest of a text, as `readRanges` reads them. -/
def rangesIn (low : Option Nat) (value : Nat) : List Char → List (Nat × Nat)
  | [] => [(low.getD value, value)]
  | ',' :: rest => (low.getD value, value) :: rangesIn none 0 rest
  | '-' :: rest => rangesIn (some value) 0 rest
  | c :: rest => rangesIn low (value * 16 + (hexDigit? c).getD 0) rest

theorem readRanges_eq (low : Option Nat) (value : Nat) (done : Array (Nat × Nat)) (cs : List Char) :
    readRanges low value done cs = done ++ (rangesIn low value cs).toArray := by
  fun_induction readRanges low value done cs with
  | case1 low value done => simp [rangesIn]
  | case2 low value done rest ih => simp [rangesIn, ih]
  | case3 low value done rest ih => rw [ih, rangesIn]
  | case4 low value done c rest noComma noHyphen ih => rw [ih, rangesIn] <;> assumption

/-- A comma ends a range, and the next one begins behind it. -/
theorem rangesIn_append (low : Option Nat) (value : Nat) (cs rest : List Char) :
    rangesIn low value (cs ++ ',' :: rest) = rangesIn low value cs ++ rangesIn none 0 rest := by
  fun_induction rangesIn low value cs with
  | case1 low value => simp [rangesIn]
  | case2 low value more ih => rw [List.cons_append, rangesIn, ih, List.cons_append]
  | case3 low value more ih => rw [List.cons_append, rangesIn, ih]
  | case4 low value c more noComma noHyphen ih =>
    rw [List.cons_append, rangesIn, ih] <;> assumption

theorem rangesIn_intercalate (line : String) (lines : List String) :
    rangesIn none 0 (String.intercalate "," (line :: lines)).toList =
      (line :: lines).flatMap fun line => rangesIn none 0 line.toList := by
  induction lines generalizing line with
  | nil => simp
  | cons next rest ih =>
    have chars : (String.intercalate "," (line :: next :: rest)).toList =
        line.toList ++ ',' :: (String.intercalate "," (next :: rest)).toList := by
      simp [String.intercalate_cons_cons, String.toList_append]
    rw [chars, rangesIn_append, ih]
    simp only [List.flatMap_cons]

/-- A set that is written on several lines is read line by line. -/
theorem ranges_ofLines {line : String} (nonempty : line ≠ "") (lines : List String) :
    (ofLines (line :: lines)).ranges =
      ((line :: lines).flatMap fun line => rangesIn none 0 line.toList).toArray := by
  have something : String.intercalate "," (line :: lines) ≠ "" := by
    cases lines <;> simp [String.intercalate_cons_cons, nonempty]
  simp only [ofLines, ofText, String.isEmpty_iff, something, if_false]
  rw [readRanges_eq, rangesIn_intercalate, Array.empty_append]

end Steering.Text.CodeSet
