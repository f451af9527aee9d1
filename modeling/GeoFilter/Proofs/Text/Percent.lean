import Mathlib
import GeoFilter.Text.Percent

/-!
Reading percent-encoded texts. An escape is one byte, and any other character is the bytes
of its UTF-8; the bytes together have to be the UTF-8 of a text. What is encoded can be read
back, and it holds nothing but unreserved characters and percent signs.
-/

namespace GeoFilter.Text

/-- The value of a hexadecimal digit, whose letters may be of either case. -/
def hexDigit? (c : Char) : Option Nat :=
  if c.isDigit then some (c.toNat - 48)
  else if 'A' ≤ c ∧ c ≤ 'F' then some (c.toNat - 55)
  else if 'a' ≤ c ∧ c ≤ 'f' then some (c.toNat - 87)
  else none

/-- The bytes that an encoded text stands for. There are none if a percent sign lacks its
two digits. -/
def escapedBytes? : List Char → Option (List UInt8)
  | [] => some []
  | '%' :: high :: low :: rest => do
      let high ← hexDigit? high
      let low ← hexDigit? low
      return UInt8.ofNat (16 * high + low) :: (← escapedBytes? rest)
  | c :: rest =>
      if c = '%' then none else (escapedBytes? rest).map (String.utf8EncodeChar c ++ ·)

/-- The text that was encoded. -/
def percentDecode? (text : List Char) : Option String := do
  String.fromUTF8? (← escapedBytes? text).toByteArray

theorem hexDigit?_upperHexDigit {n : Nat} (h : n < 16) : hexDigit? (upperHexDigit n) = some n := by
  have hall : ∀ n ∈ List.range 16, hexDigit? (upperHexDigit n) = some n := by decide
  exact hall n (List.mem_range.mpr h)

theorem isAlphanum_upperHexDigit {n : Nat} (h : n < 16) : (upperHexDigit n).isAlphanum = true := by
  have hall : ∀ n ∈ List.range 16, (upperHexDigit n).isAlphanum = true := by decide
  exact hall n (List.mem_range.mpr h)

theorem escapedBytes?_escape {high low : Char} {h l : Nat} (hhigh : hexDigit? high = some h)
    (hlow : hexDigit? low = some l) (rest : List Char) :
    escapedBytes? ('%' :: high :: low :: rest) =
      (escapedBytes? rest).map (UInt8.ofNat (16 * h + l) :: ·) := by
  rw [escapedBytes?, hhigh, hlow]
  cases escapedBytes? rest <;> rfl

theorem escapedBytes?_cons {c : Char} (h : c ≠ '%') (rest : List Char) :
    escapedBytes? (c :: rest) = (escapedBytes? rest).map (String.utf8EncodeChar c ++ ·) := by
  rw [escapedBytes?.eq_def]
  split
  · contradiction
  · rename_i heq
    cases heq
    exact absurd rfl h
  · rename_i heq
    cases heq
    rw [if_neg h]

theorem escapedBytes?_percentByte (byte : UInt8) (rest : List Char) :
    escapedBytes? (percentByte byte ++ rest) = (escapedBytes? rest).map (byte :: ·) := by
  have hsmall : byte.toNat < 256 := byte.toNat_lt
  have hhigh := hexDigit?_upperHexDigit (n := byte.toNat / 16) (by omega)
  have hlow := hexDigit?_upperHexDigit (n := byte.toNat % 16) (by omega)
  have hbyte : 16 * (byte.toNat / 16) + byte.toNat % 16 = byte.toNat := Nat.div_add_mod _ _
  rw [percentByte, List.cons_append, List.cons_append, List.cons_append, List.nil_append,
    escapedBytes?_escape hhigh hlow, hbyte, UInt8.ofNat_toNat]

theorem escapedBytes?_percentBytes (bytes : List UInt8) (rest : List Char) :
    escapedBytes? (bytes.flatMap percentByte ++ rest) = (escapedBytes? rest).map (bytes ++ ·) := by
  induction bytes with
  | nil => simp
  | cons byte later ih =>
      rw [List.flatMap_cons, List.append_assoc, escapedBytes?_percentByte, ih, Option.map_map]
      rfl

theorem ne_percent_of_isUnreserved {c : Char} (h : isUnreserved c = true) : c ≠ '%' := by
  rintro rfl
  exact absurd h (by decide)

/-- Whether a character was escaped or not, its bytes are read back. -/
theorem escapedBytes?_percentChar (c : Char) (rest : List Char) :
    escapedBytes? (percentChar c ++ rest) =
      (escapedBytes? rest).map (String.utf8EncodeChar c ++ ·) := by
  unfold percentChar
  split
  · rename_i hunreserved
    exact escapedBytes?_cons (ne_percent_of_isUnreserved hunreserved) rest
  · exact escapedBytes?_percentBytes _ rest

theorem escapedBytes?_percentChars (text : List Char) :
    escapedBytes? (text.flatMap percentChar) = some (text.flatMap String.utf8EncodeChar) := by
  induction text with
  | nil => rfl
  | cons c rest ih =>
      rw [List.flatMap_cons, escapedBytes?_percentChar, ih]
      rfl

theorem fromUTF8?_utf8Encode (text : String) :
    String.fromUTF8? text.toList.utf8Encode = some text := by
  rw [String.utf8Encode_toList, String.fromUTF8?, dif_pos text.isValidUTF8]
  rfl

/-- An encoded text is read back as it was. -/
theorem percentDecode?_percentEncode (text : String) :
    percentDecode? (percentEncode text).toList = some text := by
  rw [percentDecode?, percentEncode, String.toList_ofList, escapedBytes?_percentChars]
  exact fromUTF8?_utf8Encode text

theorem mem_percentByte {byte : UInt8} {c : Char} (h : c ∈ percentByte byte) :
    isUnreserved c = true ∨ c = '%' := by
  have hsmall : byte.toNat < 256 := byte.toNat_lt
  have hdigit : ∀ {n : Nat}, n < 16 → isUnreserved (upperHexDigit n) = true := fun hn => by
    rw [isUnreserved, isAlphanum_upperHexDigit hn]
    rfl
  simp only [percentByte, List.mem_cons, List.not_mem_nil, or_false] at h
  rcases h with rfl | rfl | rfl
  · exact .inr rfl
  · exact .inl (hdigit (by omega))
  · exact .inl (hdigit (by omega))

theorem mem_percentEncode {text : String} {c : Char} (h : c ∈ (percentEncode text).toList) :
    isUnreserved c = true ∨ c = '%' := by
  rw [percentEncode, String.toList_ofList] at h
  obtain ⟨source, _, hc⟩ := List.mem_flatMap.mp h
  unfold percentChar at hc
  split at hc
  · rename_i hunreserved
    rw [List.mem_singleton.mp hc]
    exact .inl hunreserved
  · obtain ⟨byte, _, hbyte⟩ := List.mem_flatMap.mp hc
    exact mem_percentByte hbyte

/-- A separator of parameters never stands in an encoded text. -/
theorem not_mem_percentEncode {separator : Char} (hreserved : isUnreserved separator = false)
    (hpercent : separator ≠ '%') (text : String) : separator ∉ (percentEncode text).toList := by
  intro h
  rcases mem_percentEncode h with hunreserved | heq
  · exact absurd (hreserved.symm.trans hunreserved) (by decide)
  · exact hpercent heq

end GeoFilter.Text
