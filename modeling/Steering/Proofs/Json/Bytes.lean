import Mathlib.Algebra.BigOperators.Group.List.Basic
import Steering.Json.Bytes

/-!
# Bytes of a text

Bytes that are UTF-8 throughout are read as the text that they are of (`textOfBytes?_toUTF8`), so it
does not matter whether a file of JSON is taken for a text or for bytes. A character is looked for
at every length that it may have, and found at its own only, because no character begins another
(`eq_of_utf8EncodeChar_append`).
-/

namespace Steering.Json

open String (utf8EncodeChar)

theorem fromUTF8?_eq_some_iff {bytes : ByteArray} {text : String} :
    String.fromUTF8? bytes = some text ↔ text.toByteArray = bytes := by
  unfold String.fromUTF8?
  constructor
  · intro read
    split at read
    · cases read
      rfl
    · cases read
  · rintro rfl
    rw [dif_pos text.isValidUTF8]
    rfl

theorem toByteArray_ofList_singleton (c : Char) :
    (String.ofList [c]).toByteArray = (utf8EncodeChar c).toByteArray := by
  rw [← String.utf8Encode_toList, String.toList_ofList, List.utf8Encode_singleton]

theorem toList_fromUTF8?_eq_singleton_iff {bytes : List UInt8} {c : Char} :
    (String.fromUTF8? ⟨bytes.toArray⟩).map String.toList = some [c] ↔ bytes = utf8EncodeChar c := by
  have whole : (⟨bytes.toArray⟩ : ByteArray) = bytes.toByteArray := by
    rw [← List.data_toByteArray]
  rw [Option.map_eq_some_iff, whole]
  constructor
  · rintro ⟨text, read, isChar⟩
    obtain rfl : text = String.ofList [c] := by rw [← isChar, String.ofList_toList]
    rw [fromUTF8?_eq_some_iff, toByteArray_ofList_singleton, List.toByteArray_inj] at read
    exact read.symm
  · rintro rfl
    refine ⟨String.ofList [c], ?_, String.toList_ofList⟩
    rw [fromUTF8?_eq_some_iff, toByteArray_ofList_singleton]

/-- No character begins another. -/
theorem eq_of_utf8EncodeChar_append {c d : Char} {rest more : List UInt8}
    (same : utf8EncodeChar d ++ more = utf8EncodeChar c ++ rest) : d = c ∧ more = rest := by
  have first (e : Char) (bytes : List UInt8) :
      (utf8EncodeChar e ++ bytes).toByteArray.utf8DecodeChar? 0 = some e := by
    rw [List.toByteArray_append, ByteArray.utf8DecodeChar?_utf8EncodeChar_append]
  have decoded := first d more
  rw [same, first c rest] at decoded
  cases decoded
  exact ⟨rfl, List.append_cancel_left same⟩

/-! ### Reading -/

theorem charIn?_eq_some_iff {bytes rest : List UInt8} {length : Nat} {c : Char} :
    charIn? bytes length = some (c, rest) ↔
      bytes.take length = utf8EncodeChar c ∧ bytes.drop length = rest := by
  rw [← toList_fromUTF8?_eq_singleton_iff]
  unfold charIn?
  split
  next d read => simp [read]
  next other =>
    refine iff_of_false nofun ?_
    rintro ⟨read, -⟩
    exact other c read

theorem firstChar?_append (c : Char) (rest : List UInt8) :
    firstChar? (utf8EncodeChar c ++ rest) = some (c, rest) := by
  have found : charIn? (utf8EncodeChar c ++ rest) c.utf8Size = some (c, rest) := by
    rw [charIn?_eq_some_iff, ← String.length_utf8EncodeChar]
    exact ⟨List.take_left, List.drop_left⟩
  have isLength : c.utf8Size ∈ [1, 2, 3, 4] := by
    have least := c.utf8Size_pos
    have most := c.utf8Size_le_four
    simp only [List.mem_cons, List.not_mem_nil, or_false]
    omega
  have isSome : (firstChar? (utf8EncodeChar c ++ rest)).isSome = true :=
    List.findSome?_isSome_iff.mpr ⟨_, isLength, by rw [found]; rfl⟩
  obtain ⟨⟨d, more⟩, first⟩ := Option.isSome_iff_exists.mp isSome
  -- At whatever length the first one is found, the bytes are made up of it and what is behind it.
  obtain ⟨length, -, atLength⟩ := List.exists_of_findSome?_eq_some first
  obtain ⟨front, back⟩ := charIn?_eq_some_iff.mp atLength
  have whole : utf8EncodeChar d ++ more = utf8EncodeChar c ++ rest := by
    rw [← front, ← back, List.take_append_drop]
  obtain ⟨rfl, rfl⟩ := eq_of_utf8EncodeChar_append whole
  exact first

theorem charsOfBytes?_flatMap (escaped : Bool) {cs : List Char} {fuel : Nat}
    (enough : cs.length ≤ fuel) :
    charsOfBytes? escaped fuel (cs.flatMap utf8EncodeChar) = some cs := by
  induction cs generalizing escaped fuel with
  | nil => cases fuel <;> rfl
  | cons c cs ih =>
    rw [List.length_cons] at enough
    obtain ⟨fuel, rfl⟩ : ∃ less, fuel = less + 1 := ⟨fuel - 1, by omega⟩
    have first := firstChar?_append c (cs.flatMap utf8EncodeChar)
    rw [← List.flatMap_cons] at first
    generalize (c :: cs).flatMap utf8EncodeChar = bytes at first ⊢
    cases bytes with
    | nil => cases first
    | cons byte bytes =>
      rw [charsOfBytes?, first]
      dsimp only
      rw [ih _ (Nat.le_of_succ_le_succ enough)]
      rfl

/-- **The bytes of a text are read as the text.** -/
theorem textOfBytes?_toUTF8 (text : String) :
    textOfBytes? text.toUTF8.data.toList = some text := by
  have bytes : text.toUTF8.data.toList = text.toList.flatMap utf8EncodeChar := by
    rw [String.toUTF8_eq_toByteArray, ← String.utf8Encode_toList, List.utf8Encode,
      List.data_toByteArray, List.toList_toArray]
  -- Every character has a byte at least, so the fuel lasts.
  have enough : text.toList.length ≤ (text.toList.flatMap utf8EncodeChar).length := by
    rw [List.length_flatMap]
    refine (List.length_map _).symm.trans_le (List.length_le_sum_of_one_le _ ?_)
    simp only [List.forall_mem_map, String.length_utf8EncodeChar]
    exact fun c _ => c.utf8Size_pos
  rw [textOfBytes?, bytes, charsOfBytes?_flatMap false enough, Option.map_some,
    String.ofList_toList]

end Steering.Json
