import Mathlib.Algebra.Group.Nat.Defs
import Mathlib.Data.List.TakeWhile
import Steering.Instant

/-!
# Instants are read back

The text of an instant stands for that instant (`parse?_toText`). Each part of the text is read by
the reading function of that part, which stops at the mark that follows.
-/

namespace Steering

theorem some_of_bind {α β : Type} {x : Option α} {next : α → Option β} {a : α} {b : β}
    (first : x = some a) (rest : next a = some b) : x >>= next = some b :=
  Option.bind_eq_some_iff.mpr ⟨a, first, rest⟩

/-- What holds of all that a reading may give after its first part holds of all that it gives. -/
theorem forall_of_bind {α β : Type} {P : β → Prop} {x : Option α} {next : α → Option β}
    (goesOn : ∀ a, x = some a → ∀ b, next a = some b → P b) : ∀ b, x >>= next = some b → P b := by
  intro b read
  obtain ⟨a, first, read⟩ := Option.bind_eq_some_iff.mp read
  exact goesOn a first b read

namespace Instant

/-! ### Digits -/

/-- A text that does not go on with a digit. -/
def Stops (text : List Char) : Prop := ∀ c ∈ text.head?, c.isDigit = false

theorem isBlank_of_isDigit {c : Char} (digit : c.isDigit = true) : Text.isBlank c = false := by
  have range : 48 ≤ c.toNat ∧ c.toNat ≤ 57 := by
    simpa [Char.isDigit, UInt32.le_iff_toNat_le] using digit
  simp [Text.isBlank]
  omega

theorem isDigit_of_mem_padded {width n : Nat} : ∀ c ∈ padded width n, c.isDigit = true := by
  intro c member
  rcases List.mem_append.mp member with zero | digit
  · rw [List.eq_of_mem_replicate zero]
    rfl
  · exact Nat.isDigit_of_mem_toDigits (by decide) (by decide) digit

theorem padded_ne_nil (width n : Nat) : padded width n ≠ [] := by
  simp [padded]

theorem length_padded {width n : Nat} (positive : 0 < width) (small : n < 10 ^ width) :
    (padded width n).length = width := by
  have few := (Nat.length_toDigits_le_iff (by decide) positive).mpr small
  simp only [padded, List.length_append, List.length_replicate]
  omega

theorem ofDigitChars_padded (width n : Nat) : Nat.ofDigitChars 10 (padded width n) 0 = n := by
  rw [padded, Nat.ofDigitChars_append, Nat.ofDigitChars_replicate_zero]
  simp [Nat.ofDigitChars_ten_toDigits]

theorem readDigits_append {digits rest : List Char} {width : Nat} (nonempty : digits ≠ [])
    (all : ∀ c ∈ digits, c.isDigit = true) (fits : digits.length ≤ width) (stops : Stops rest) :
    readDigits width (digits ++ rest) = some (Nat.ofDigitChars 10 digits 0, rest) := by
  have read : ((digits ++ rest).take width).takeWhile Char.isDigit = digits := by
    rw [List.take_append, List.take_of_length_le fits, List.takeWhile_append_of_pos all]
    cases rest with
    | nil => simp
    | cons c rest =>
      have noDigit : c.isDigit = false := stops c rfl
      cases width - digits.length <;> simp [noDigit]
  simp only [readDigits, read]
  simp [nonempty, Nat.ofDigitChars_eq_foldl, Nat.mul_comm]

theorem trimStart_padded (width n : Nat) (rest : List Char) :
    Text.trimStart (padded width n ++ rest) = padded width n ++ rest := by
  obtain ⟨c, digits, isCons⟩ := List.exists_cons_of_ne_nil (padded_ne_nil width n)
  have digit : c.isDigit = true := isDigit_of_mem_padded c (isCons ▸ List.mem_cons_self)
  rw [isCons, List.cons_append, Text.trimStart, List.dropWhile_cons_of_neg]
  simp [isBlank_of_isDigit digit]

/-! ### The parts of a text -/

theorem readNumber_padded {width n : Nat} {rest : List Char} (positive : 0 < width)
    (small : n < 10 ^ width) (stops : Stops rest) :
    readNumber width (padded width n ++ rest) = some (n, rest) := by
  rw [readNumber, trimStart_padded,
    readDigits_append (padded_ne_nil width n) isDigit_of_mem_padded
      (length_padded positive small).le stops, ofDigitChars_padded]

theorem readMark_self {mark : Char} (visible : Text.isBlank mark = false) (rest : List Char) :
    readMark mark (mark :: rest) = some rest := by
  simp [readMark, Text.trimStart, visible]

theorem readYear_writeYear (year : Int) {rest : List Char} (stops : Stops rest) :
    readYear (writeYear year ++ rest) = some (year, rest) := by
  unfold writeYear
  split
  next near =>
    have unsigned : ∀ sign more, sign.isDigit = false →
        padded 4 year.toNat ++ rest ≠ sign :: more := by
      intro sign more noDigit same
      obtain ⟨c, digits, isCons⟩ := List.exists_cons_of_ne_nil (padded_ne_nil 4 year.toNat)
      rw [isCons, List.cons_append, List.cons.injEq] at same
      have digit : c.isDigit = true := isDigit_of_mem_padded c (isCons ▸ List.mem_cons_self)
      rw [same.1, noDigit] at digit
      cases digit
    have read : readDigits 4 (padded 4 year.toNat ++ rest) = some (year.toNat, rest) := by
      rw [readDigits_append (padded_ne_nil 4 _) isDigit_of_mem_padded
        (length_padded (by decide) (by omega)).le stops, ofDigitChars_padded]
    rw [readYear, trimStart_padded]
    split
    next minus => exact absurd minus (unsigned '-' _ rfl)
    next plus => exact absurd plus (unsigned '+' _ rfl)
    next =>
      rw [read, Option.map_some]
      simp only [Int.toNat_of_nonneg near.1]
  next far =>
    have read : readDigits (padded 4 year.natAbs ++ rest).length (padded 4 year.natAbs ++ rest) =
        some (year.natAbs, rest) := by
      rw [readDigits_append (padded_ne_nil 4 _) isDigit_of_mem_padded (by simp) stops,
        ofDigitChars_padded]
    split
    next negative =>
      have start : readYear ('-' :: padded 4 year.natAbs ++ rest) = (readDigits
          (padded 4 year.natAbs ++ rest).length (padded 4 year.natAbs ++ rest)).map
            fun read => (-(read.1 : Int), read.2) := rfl
      rw [start, read, Option.map_some]
      simp only [Option.some.injEq, Prod.mk.injEq, and_true]
      omega
    next positive =>
      have start : readYear ('+' :: padded 4 year.natAbs ++ rest) = (readDigits
          (padded 4 year.natAbs ++ rest).length (padded 4 year.natAbs ++ rest)).map
            fun read => ((read.1 : Int), read.2) := rfl
      rw [start, read, Option.map_some]
      simp only [Option.some.injEq, Prod.mk.injEq, and_true]
      omega

theorem readFraction_padded {width n : Nat} (positive : 0 < width) (fits : width ≤ 9)
    (small : n < 10 ^ width) :
    readFraction ('.' :: padded width n ++ ['Z']) = some (n * 10 ^ (9 - width), ['Z']) := by
  have stops : Stops ['Z'] := by simp [Stops]
  have length := length_padded positive small
  have read : readDigits 9 (padded width n ++ ['Z']) = some (n, ['Z']) := by
    rw [readDigits_append (padded_ne_nil width n) isDigit_of_mem_padded (by omega) stops,
      ofDigitChars_padded]
  rw [List.cons_append, readFraction, read]
  simp [length]

theorem readFraction_writeFraction {nanosecond : Nat} (small : nanosecond < 1000000000) :
    readFraction (writeFraction nanosecond ++ ['Z']) = some (nanosecond, ['Z']) := by
  unfold writeFraction
  split
  next zero =>
    subst zero
    rfl
  next =>
    split
    next millis =>
      rw [readFraction_padded (by decide) (by decide) (by omega)]
      simp only [Option.some.injEq, Prod.mk.injEq, and_true]
      omega
    next =>
      split
      next micros =>
        rw [readFraction_padded (by decide) (by decide) (by omega)]
        simp only [Option.some.injEq, Prod.mk.injEq, and_true]
        omega
      next =>
        rw [readFraction_padded (by decide) (by decide) (by omega)]
        simp

theorem fromOffset_zero {t : Instant} (hour : t.hour < 24) (minute : t.minute < 60) :
    t.fromOffset 0 = t := by
  have early : ¬((t.hour : Int) * 60 + t.minute - 0 < 0) := by omega
  have late : ¬(1440 ≤ (t.hour : Int) * 60 + t.minute - 0) := by omega
  have minutes : (((t.hour : Int) * 60 + t.minute - 0) % 1440).toNat = t.hour * 60 + t.minute := by
    omega
  simp only [fromOffset, early, late, if_false, minutes]
  have hours : (t.hour * 60 + t.minute) / 60 = t.hour := by omega
  have rest : (t.hour * 60 + t.minute) % 60 = t.minute := by omega
  rw [hours, rest]

theorem stops_writeFraction (nanosecond : Nat) : Stops (writeFraction nanosecond ++ ['Z']) := by
  unfold writeFraction
  repeat' split
  all_goals simp [Stops]

theorem daysInMonth_lt (year : Int) (month : Nat) : daysInMonth year month < 10 ^ 2 := by
  unfold daysInMonth
  split <;> (try split) <;> decide

/-- **An instant is read back from its text.** -/
theorem parse?_toText {t : Instant} (valid : t.isValid = true) : parse? t.toText = some t := by
  have bounds := valid
  simp only [isValid, Bool.and_eq_true, decide_eq_true_eq] at bounds
  obtain ⟨⟨⟨⟨⟨⟨⟨⟨⟨-, -⟩, -⟩, month⟩, -⟩, day⟩, hour⟩, minute⟩, second⟩, nanosecond⟩ := bounds
  have day : t.day < 10 ^ 2 := day.trans_lt (daysInMonth_lt _ _)
  have stops (mark : Char) (noDigit : mark.isDigit = false) (rest : List Char) :
      Stops (mark :: rest) := by simpa [Stops] using noDigit
  rw [parse?, toText, String.toList_ofList, writeChars]
  simp only [List.append_assoc, List.cons_append]
  unfold readChars
  rw [readYear_writeYear _ (stops '-' rfl _)]
  dsimp only [Option.bind_eq_bind, Option.bind_some]
  rw [readMark_self rfl, Option.bind_some,
    readNumber_padded (by decide) (by omega) (stops '-' rfl _), Option.bind_some,
    readMark_self rfl, Option.bind_some, readNumber_padded (by decide) day (stops 'T' rfl _),
    Option.bind_some]
  simp only [true_or, if_true]
  rw [readNumber_padded (by decide) (by omega) (stops ':' rfl _), Option.bind_some,
    readMark_self rfl, Option.bind_some,
    readNumber_padded (by decide) (by omega) (stops ':' rfl _), Option.bind_some,
    readMark_self rfl, Option.bind_some,
    readNumber_padded (by decide) (by omega) (stops_writeFraction _), Option.bind_some,
    readFraction_writeFraction nanosecond, Option.bind_some]
  have offset : readOffset (Text.trimStart ['Z']) = some (0, []) := rfl
  have blank : Text.trimStart [] = [] := rfl
  simp only [offset, Option.bind_some, blank, if_true]
  rw [fromOffset_zero hour minute]
  exact if_pos (by rw [valid]; rfl)

/-! ### How an instant is written -/

/-- The date and the time of day down to the second. -/
def clock (t : Instant) : List Char :=
  writeYear t.year ++ '-' :: padded 2 t.month ++ '-' :: padded 2 t.day ++ 'T' ::
    padded 2 t.hour ++ ':' :: padded 2 t.minute ++ ':' :: padded 2 t.second

/-- Nothing is lost if only so many digits of the fraction are written. -/
def Exact (digits nanosecond : Nat) : Prop := 10 ^ (9 - digits) ∣ nanosecond

/-- The first digits of the fraction, without a point if there are none. -/
def fraction (digits nanosecond : Nat) : List Char :=
  if digits = 0 then [] else '.' :: padded digits (nanosecond / 10 ^ (9 - digits))

/-- A fraction has the fewest digits with which nothing is lost. -/
theorem writeFraction_eq {nanosecond : Nat} (small : nanosecond < 1000000000) :
    ∃ digits ∈ [0, 3, 6, 9], Exact digits nanosecond ∧
      (∀ fewer ∈ [0, 3, 6, 9], Exact fewer nanosecond → digits ≤ fewer) ∧
      writeFraction nanosecond = fraction digits nanosecond := by
  simp only [List.forall_mem_cons, List.not_mem_nil, false_implies, implies_true, and_true, Exact,
    Nat.reduceSub, Nat.reducePow]
  -- Each branch has excluded the shorter fractions before it.
  unfold writeFraction
  split
  next zero => exact ⟨0, by simp, ⟨0, zero⟩, by simp, rfl⟩
  next nonzero =>
    split
    next millis =>
      exact ⟨3, by simp, Nat.dvd_of_mod_eq_zero millis, by omega, rfl⟩
    next moreThanMillis =>
      split
      next micros =>
        exact ⟨6, by simp, Nat.dvd_of_mod_eq_zero micros, by omega, rfl⟩
      next moreThanMicros =>
        exact ⟨9, by simp, Nat.one_dvd _, by omega, by simp [fraction]⟩

/-- In the years of four digits the clock has 19 characters. -/
theorem length_clock {t : Instant} (valid : t.isValid = true) (first : 0 ≤ t.year)
    (last : t.year ≤ 9999) : t.clock.length = 19 := by
  simp only [isValid, Bool.and_eq_true, decide_eq_true_eq] at valid
  obtain ⟨⟨⟨⟨⟨⟨⟨-, month⟩, -⟩, day⟩, hour⟩, minute⟩, second⟩, -⟩ := valid
  have year : (writeYear t.year).length = 4 := by
    rw [writeYear, if_pos ⟨first, last⟩, length_padded (by decide) (by omega)]
  have two {n : Nat} (small : n < 10 ^ 2) : (padded 2 n).length = 2 :=
    length_padded (by decide) small
  have day := two (day.trans_lt (daysInMonth_lt _ _))
  simp only [clock, List.length_append, List.length_cons, year, two (n := t.month) (by omega), day,
    two (n := t.hour) (by omega), two (n := t.minute) (by omega), two (n := t.second) (by omega)]

/-- An instant that has been read exists. -/
theorem isValid_of_parse? {text : String} {t : Instant} (parsed : parse? text = some t) :
    t.isValid = true := by
  -- Whatever the numbers are, only an instant that exists is given in the end.
  have ends (offset : Int) (rest : List Char) (shown : Instant) (t : Instant)
      (read : (if Text.trimStart rest = [] then
        if shown.isValid && (shown.fromOffset offset).isValid then some (shown.fromOffset offset)
        else none
      else none) = some t) : t.isValid = true := by
    split at read
    · split at read
      next valid =>
        cases read
        exact (Bool.and_eq_true_iff.mp valid).2
      next => cases read
    · cases read
  have reads : ∀ t, readChars text.toList = some t → t.isValid = true := by
    refine forall_of_bind fun year _ => forall_of_bind fun _ _ => ?_
    refine forall_of_bind fun month _ => forall_of_bind fun _ _ => forall_of_bind fun day _ => ?_
    dsimp only
    split
    case' h_1 => split
    all_goals
      refine forall_of_bind fun _ _ => forall_of_bind fun hour _ => forall_of_bind fun _ _ => ?_
      refine forall_of_bind fun minute _ => forall_of_bind fun _ _ => ?_
      refine forall_of_bind fun second _ => forall_of_bind fun nanosecond _ => ?_
      exact forall_of_bind fun _ _ => ends _ _ _
  exact reads t parsed

end Instant

end Steering
