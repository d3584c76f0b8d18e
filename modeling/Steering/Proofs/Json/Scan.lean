import Mathlib.Data.List.Forall2
import Mathlib.Data.List.TakeDrop
import Mathlib.Data.List.TakeWhile
import Steering.Json.Printer
import Steering.Json.Reader

/-!
# Scanning what has been written

A text *spells* tokens if the scan finds them in it, whatever comes after, as long as that cannot be
taken for more of a number or word at the end (`Ended`). Punctuation, blanks, strings and scalars
each spell their token, and texts put together spell their tokens one after the other.
-/

namespace Steering.Json

/-- A text that does not go on with a number or word. -/
def Ended : List Char → Prop
  | [] => True
  | c :: _ => isScalarChar c = false

theorem Ended.append {text more : List Char} (ended : Ended text) (goesOn : Ended more) :
    Ended (text ++ more) := by
  cases text with
  | nil => exact goesOn
  | cons => exact ended

/-- The scan finds the tokens in the text and goes on with what follows it. -/
def Spells (text : List Char) (tokens : List Token) : Prop :=
  ∀ rest, Ended rest →
    scan .outside (text ++ rest) = (scan .outside rest).map (tokens ++ ·)

namespace Spells

variable {text more : List Char} {tokens others : List Token}

theorem nil : Spells [] [] := by
  intro rest _
  rw [List.nil_append]
  cases scan .outside rest <;> rfl

theorem append (first : Spells text tokens) (second : Spells more others) (ended : Ended more) :
    Spells (text ++ more) (tokens ++ others) := by
  intro rest goesOn
  rw [List.append_assoc, first _ (ended.append goesOn), second rest goesOn]
  cases scan .outside rest <;> simp

/-- Characters of punctuation are neither blank nor quote nor part of a scalar. -/
theorem punctuation {c : Char} {token : Token} (mark : punctuation? c = some token)
    (goesOn : Spells text tokens) : Spells (c :: text) (token :: tokens) := by
  intro rest ended
  have scanned : scan .outside (c :: (text ++ rest)) =
      (scan .outside (text ++ rest)).map (token :: ·) := by
    unfold punctuation? at mark
    split at mark <;> cases mark <;> rw [scan] <;> rfl
  rw [List.cons_append, scanned, goesOn rest ended]
  cases scan .outside rest <;> rfl

theorem spaces {blanks : List Char} (blank : ∀ c ∈ blanks, isSpace c = true)
    (goesOn : Spells text tokens) : Spells (blanks ++ text) tokens := by
  induction blanks with
  | nil => exact goesOn
  | cons c blanks ih =>
    obtain ⟨here, blank⟩ := List.forall_mem_cons.mp blank
    intro rest ended
    have noQuote : c ≠ '"' := by
      rintro rfl
      cases here
    rw [← ih blank rest ended, List.cons_append, List.cons_append, scan]
    simp [noQuote, here]

end Spells

/-! ### Scalars -/

/-- A scalar goes on up to the first character that cannot be part of it. -/
theorem scan_scalar {chars : List Char} (scalar : ∀ c ∈ chars, isScalarChar c = true)
    (read rest : List Char) (ended : Ended rest) :
    scan (.scalar read) (chars ++ rest) =
      (scan .outside rest).bind (endScalar (chars.reverse ++ read)) := by
  induction chars generalizing read with
  | nil =>
    cases rest with
    | nil => rfl
    | cons c rest =>
      have noScalar : isScalarChar c = false := ended
      rw [List.nil_append, scan, scan]
      simp only [noScalar, Bool.false_eq_true, if_false, List.reverse_nil, List.nil_append]
      split
      · rfl
      · split
        · rfl
        · cases punctuation? c with
          | some token => cases scan .outside rest <;> rfl
          | none => rfl
  | cons c chars ih =>
    obtain ⟨here, scalar⟩ := List.forall_mem_cons.mp scalar
    rw [List.cons_append, scan, if_pos here, ih scalar, List.reverse_cons, List.append_assoc]
    rfl

theorem Spells.scalar {chars : List Char} {value : Json} (nonempty : chars ≠ [])
    (made : ∀ c ∈ chars, isScalarChar c = true) (read : scalar? chars = some value) :
    Spells chars [.scalar value] := by
  intro rest ended
  cases chars with
  | nil => exact absurd rfl nonempty
  | cons c chars =>
    obtain ⟨here, made⟩ := List.forall_mem_cons.mp made
    -- It can be the beginning of nothing else.
    have noQuote : c ≠ '"' := by
      rintro rfl
      cases here
    have noSpace : isSpace c = false := by
      cases blank : isSpace c with
      | false => rfl
      | true =>
        simp only [isSpace, Bool.or_eq_true, beq_iff_eq] at blank
        rcases blank with ((rfl | rfl) | rfl) | rfl <;> cases here
    rw [List.cons_append, scan]
    simp only [noQuote, noSpace, here, if_true, if_false, Bool.false_eq_true]
    have ends :
        endScalar (chars.reverse ++ [c]) = fun tokens => some (.scalar value :: tokens) := by
      funext tokens
      simp [endScalar, read]
    rw [scan_scalar made _ _ ended, ends]
    cases scan .outside rest <;> rfl

theorem Spells.null : Spells (writeScalar .null) [.scalar .null] :=
  .scalar (by decide) (List.all_eq_true.mp rfl) rfl

theorem Spells.bool (b : Bool) : Spells (writeScalar (.bool b)) [.scalar (.bool b)] := by
  cases b <;> exact .scalar (by decide) (List.all_eq_true.mp rfl) rfl

/-! ### Numbers -/

theorem digitsValue_eq_ofDigitChars (digits : List Char) :
    digitsValue digits = Nat.ofDigitChars 10 digits 0 := by
  simp only [digitsValue, Nat.ofDigitChars_eq_foldl, Nat.mul_comm]

/-- A written number has no superfluous zero in front. -/
theorem toDigits_eq_cons {n : Nat} (positive : 0 < n) :
    ∃ d rest, Nat.toDigits 10 n = d :: rest ∧ d ≠ '0' := by
  induction n using Nat.strongRecOn with
  | ind n ih =>
    by_cases small : n < 10
    · refine ⟨n.digitChar, [], Nat.toDigits_of_lt_base small, ?_⟩
      rw [Ne, Nat.digitChar_eq_zero]
      exact Nat.pos_iff_ne_zero.mp positive
    · obtain ⟨d, rest, digits, front⟩ := ih (n / 10) (by omega) (by omega)
      refine ⟨d, rest ++ [(n % 10).digitChar], ?_, front⟩
      rw [Nat.toDigits_of_base_le (by decide) (by omega), digits]
      rfl

theorem isWhole_toDigits (n : Nat) : isWhole (Nat.toDigits 10 n) = true := by
  rcases n.eq_zero_or_pos with rfl | positive
  · rfl
  · obtain ⟨d, rest, digits, front⟩ := toDigits_eq_cons positive
    rw [digits]
    cases rest <;> simp [isWhole, front]

theorem spanDigits_of_isDigit {digits : List Char} (all : ∀ c ∈ digits, c.isDigit = true) :
    spanDigits digits = (digits, []) := by
  rw [spanDigits, List.span_eq_takeWhile_dropWhile, List.takeWhile_eq_self_iff.mpr all,
    List.dropWhile_eq_nil_iff.mpr all]

theorem isScalarChar_of_isDigit {c : Char} (digit : c.isDigit = true) : isScalarChar c = true := by
  simp [isScalarChar, Char.isAlphanum, digit]

theorem scalar?_toDigits (n : Nat) : scalar? (Nat.toDigits 10 n) = some (.natural n) := by
  have digits : ∀ c ∈ Nat.toDigits 10 n, c.isDigit = true := fun c member =>
    Nat.isDigit_of_mem_toDigits (by decide) (by decide) member
  have whole := isWhole_toDigits n
  have value : digitsValue (Nat.toDigits 10 n) = n := by
    rw [digitsValue_eq_ofDigitChars, Nat.ofDigitChars_ten_toDigits]
  generalize Nat.toDigits 10 n = cs at digits whole value
  have isNoWord : ∀ c rest, c.isDigit = false → cs ≠ c :: rest := by
    rintro c rest noDigit rfl
    rw [digits c List.mem_cons_self] at noDigit
    cases noDigit
  rw [scalar?, if_neg (isNoWord _ _ rfl), if_neg (isNoWord _ _ rfl), if_neg (isNoWord _ _ rfl),
    number?]
  · simp [spanDigits_of_isDigit digits, whole, isFraction, isExponent, value]
  · exact fun rest => isNoWord '-' rest rfl

theorem Spells.natural (n : Nat) : Spells (writeScalar (.natural n)) [.scalar (.natural n)] :=
  .scalar Nat.toDigits_ne_nil
    (fun _ member =>
      isScalarChar_of_isDigit (Nat.isDigit_of_mem_toDigits (by decide) (by decide) member))
    (scalar?_toDigits n)

/-! ### Strings -/

/-- What has been read of a string in which no half of a surrogate pair has been found. -/
def StringScan.ofRead (read : List Char) : StringScan := { content := read }

theorem hexQuad?_escape {n : Nat} (small : n < 32) :
    hexQuad? '0' '0' (hexDigit (n / 16)) (hexDigit (n % 16)) = some n := by
  revert n
  decide

/-- A written character stands for itself. -/
theorem scan_escapeChar (c : Char) (read rest : List Char) :
    scan (.string (.ofRead read)) (escapeChar c ++ rest) =
      scan (.string (.ofRead (c :: read))) rest := by
  unfold escapeChar
  split
  -- the characters with an escape of their own
  iterate 7
    · rw [List.cons_append, List.cons_append, List.nil_append, scan]
      · rfl
      · simp
  next noQuote noBackslash _ _ _ _ _ =>
    split
    next control =>
      have unit : ¬(0xDC00 ≤ c.toNat ∧ c.toNat < 0xE000) ∧
          ¬(0xD800 ≤ c.toNat ∧ c.toNat < 0xDC00) := by omega
      have pushed : (StringScan.ofRead read).pushUnit c.toNat = .ofRead (c :: read) := by
        rw [StringScan.pushUnit, if_neg unit.1, if_neg unit.2, Char.ofNat_toNat]
        rfl
      simp only [List.cons_append, List.nil_append]
      rw [scan, hexQuad?_escape control]
      simp only [pushed]
    next plain =>
      rw [List.cons_append, List.nil_append, scan]
      · rw [if_neg fun either => either.elim noBackslash plain]
        rfl
      · exact noQuote
      · exact fun _ _ _ _ _ backslash => absurd backslash noBackslash
      · exact fun _ _ backslash => absurd backslash noBackslash

theorem scan_escaped (content read rest : List Char) :
    scan (.string (.ofRead read)) (content.flatMap escapeChar ++ rest) =
      scan (.string (.ofRead (content.reverse ++ read))) rest := by
  induction content generalizing read with
  | nil => rfl
  | cons c content ih =>
    rw [List.flatMap_cons, List.append_assoc, scan_escapeChar, ih, List.reverse_cons,
      List.append_assoc]
    rfl

theorem Spells.string (s : String) : Spells (writeString s) [.string (some s)] := by
  intro rest _
  have finished : (StringScan.ofRead s.toList.reverse).finish = some s := by
    simp [StringScan.ofRead, StringScan.finish]
  have written : writeString s ++ rest = '"' :: (s.toList.flatMap escapeChar ++ '"' :: rest) := by
    simp [writeString]
  have opened : scan .outside ('"' :: (s.toList.flatMap escapeChar ++ '"' :: rest)) =
      scan (.string (.ofRead [])) (s.toList.flatMap escapeChar ++ '"' :: rest) := by
    rw [scan]
    rfl
  rw [written, opened, scan_escaped, List.append_nil, scan, finished]
  rfl

end Steering.Json
