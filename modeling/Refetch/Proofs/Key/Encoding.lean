/-
# Percent-encoding can be undone

Every byte is written as one unreserved character or as a percent sign with two digits, and the
two forms begin differently. An encoded text therefore determines the bytes it was made from, and
since a text is determined by its UTF-8 form, no two texts have the same encoded form.

The encoded form has an alphabet of its own, without the characters that separate names, values
and parameters. `isEncoded` is that alphabet.
-/

import Mathlib.Data.List.Basic
import Refetch.Text.Percent

namespace Refetch.Text

/-- The characters of encoded texts: the unreserved ones and the percent sign. Hexadecimal digits
are unreserved. -/
def isEncoded (c : Char) : Bool :=
  c == '%' || decide (c.toNat < 256) && isUnreserved (UInt8.ofNat c.toNat)

/-- A byte names the character with its number. -/
theorem toNat_ofNat_byte (b : UInt8) : (Char.ofNat b.toNat).toNat = b.toNat := by
  have small : b.toNat < 256 := b.toNat_lt
  have valid : b.toNat.isValidChar := Or.inl (by omega)
  rw [Char.ofNat, dif_pos valid]
  rfl

theorem isEncoded_upperHexDigit {n : Nat} (h : n < 16) : isEncoded (upperHexDigit n) = true := by
  revert n
  decide

theorem upperHexDigit_inj {m n : Nat} (hm : m < 16) (hn : n < 16)
    (h : upperHexDigit m = upperHexDigit n) : m = n := by
  have all : ∀ m < 16, ∀ n < 16, upperHexDigit m = upperHexDigit n → m = n := by decide
  exact all m hm n hn h

/-- The percent sign is not unreserved, so a byte that stands for itself is never taken for the
beginning of an escape. -/
theorem ofNat_ne_percent {b : UInt8} (h : isUnreserved b = true) : Char.ofNat b.toNat ≠ '%' := by
  intro same
  have number : b.toNat = 37 := by rw [← toNat_ofNat_byte b, same]; rfl
  have byte : b = 37 := UInt8.toNat_inj.mp number
  rw [byte] at h
  exact absurd h (by decide)

theorem encodeByte_ne_nil (b : UInt8) : encodeByte b ≠ [] := by
  unfold encodeByte percentByte
  split <;> simp

/-- An escape determines its byte. -/
theorem percentByte_inj {b c : UInt8}
    (high : upperHexDigit (b.toNat / 16) = upperHexDigit (c.toNat / 16))
    (low : upperHexDigit (b.toNat % 16) = upperHexDigit (c.toNat % 16)) : b = c := by
  have hb : b.toNat < 256 := b.toNat_lt
  have hc : c.toNat < 256 := c.toNat_lt
  have quotients := upperHexDigit_inj (by omega) (by omega) high
  have remainders := upperHexDigit_inj (by omega) (by omega) low
  exact UInt8.toNat_inj.mp (by omega)

theorem encodeByte_of_unreserved {b : UInt8} (h : isUnreserved b = true) :
    encodeByte b = [Char.ofNat b.toNat] := if_pos h

theorem encodeByte_of_reserved {b : UInt8} (h : ¬ isUnreserved b = true) :
    encodeByte b = ['%', upperHexDigit (b.toNat / 16), upperHexDigit (b.toNat % 16)] := if_neg h

/-- The encoded form of a byte can be told from whatever follows it. -/
theorem encodeByte_append_inj {b c : UInt8} {u v : List Char}
    (h : encodeByte b ++ u = encodeByte c ++ v) : b = c ∧ u = v := by
  by_cases hb : isUnreserved b = true
  · rw [encodeByte_of_unreserved hb] at h
    by_cases hc : isUnreserved c = true
    · rw [encodeByte_of_unreserved hc] at h
      have number := congrArg Char.toNat (List.cons.inj h).1
      rw [toNat_ofNat_byte, toNat_ofNat_byte] at number
      exact ⟨UInt8.toNat_inj.mp number, (List.cons.inj h).2⟩
    · rw [encodeByte_of_reserved hc] at h
      exact absurd (List.cons.inj h).1 (ofNat_ne_percent hb)
  · rw [encodeByte_of_reserved hb] at h
    by_cases hc : isUnreserved c = true
    · rw [encodeByte_of_unreserved hc] at h
      exact absurd (List.cons.inj h).1.symm (ofNat_ne_percent hc)
    · rw [encodeByte_of_reserved hc] at h
      simp only [List.cons_append, List.nil_append, List.cons.injEq, true_and] at h
      obtain ⟨high, low, rest⟩ := h
      exact ⟨percentByte_inj high low, rest⟩

/-- Encoded bytes determine the bytes. -/
theorem flatMap_encodeByte_injective :
    Function.Injective fun bytes : List UInt8 => bytes.flatMap encodeByte := by
  intro first
  induction first with
  | nil =>
      intro second h
      cases second with
      | nil => rfl
      | cons b rest => simp [encodeByte_ne_nil] at h
  | cons b rest ih =>
      intro second h
      cases second with
      | nil => simp [encodeByte_ne_nil] at h
      | cons c others =>
          simp only [List.flatMap_cons] at h
          obtain ⟨same, tails⟩ := encodeByte_append_inj h
          rw [same, ih tails]

/-- A text is determined by its UTF-8 form. -/
theorem utf8Bytes_injective : Function.Injective utf8Bytes := by
  intro s t h
  have arrays : s.toUTF8.data = t.toUTF8.data := Array.toList_inj.mp h
  exact String.toByteArray_inj.mp (ByteArray.ext arrays)

/-- No two texts have the same encoded form. -/
theorem percentEncode_injective : Function.Injective percentEncode := by
  intro s t h
  have characters : (utf8Bytes s).flatMap encodeByte = (utf8Bytes t).flatMap encodeByte :=
    String.ofList_injective h
  exact utf8Bytes_injective (flatMap_encodeByte_injective characters)

theorem isEncoded_of_mem_encodeByte {c : Char} {b : UInt8} (h : c ∈ encodeByte b) :
    isEncoded c = true := by
  have small : b.toNat < 256 := b.toNat_lt
  unfold encodeByte percentByte at h
  split at h
  next free =>
    rw [List.mem_singleton.mp h, isEncoded, toNat_ofNat_byte]
    simp [small, free]
  next =>
    simp only [List.mem_cons, List.not_mem_nil, or_false] at h
    rcases h with rfl | rfl | rfl
    · rfl
    · exact isEncoded_upperHexDigit (by omega)
    · exact isEncoded_upperHexDigit (by omega)

/-- An encoded text stays within its alphabet. -/
theorem isEncoded_of_mem_percentEncode {c : Char} {s : String}
    (h : c ∈ (percentEncode s).toList) : isEncoded c = true := by
  rw [percentEncode, String.toList_ofList, List.mem_flatMap] at h
  obtain ⟨b, -, hc⟩ := h
  exact isEncoded_of_mem_encodeByte hc

end Refetch.Text
