/-
# The order of texts is the order of their bytes

Texts are compared character by character, and their UTF-8 forms byte by byte. Both give the same
order: a larger character has a larger first byte, or shares the first bytes with the smaller one
and has a larger byte where they part, and neither form is the beginning of the other.
-/

import Refetch.Text.Percent

namespace Refetch.Text

/-- The UTF-8 form of a text is that of its characters, one after the other. -/
theorem utf8Bytes_eq_flatMap (s : String) :
    utf8Bytes s = s.toList.flatMap String.utf8EncodeChar := by
  have bytes : s.toUTF8 = (s.toList.flatMap String.utf8EncodeChar).toByteArray :=
    String.utf8Encode_toList.symm
  rw [utf8Bytes, bytes]
  simp

/-- Of two numbers written to the base 64 the smaller one is smaller before the last digit, or only
in the last digit. -/
theorem lt_iff_base64 {m n : Nat} :
    m < n ↔ m / 64 < n / 64 ∨ m / 64 = n / 64 ∧ m % 64 < n % 64 := by
  omega

/-- The forms of two characters part before either ends, and the smaller one has the smaller
byte there. -/
theorem utf8EncodeChar_append_lt {c d : Char} (h : c < d) (u v : List UInt8) :
    String.utf8EncodeChar c ++ u < String.utf8EncodeChar d ++ v := by
  have less : c.val.toNat < d.val.toNat := h
  have bound : d.val.toNat < 1114112 := by
    have valid := d.valid
    simp only [UInt32.isValidChar, Nat.isValidChar] at valid
    omega
  -- the length of a form grows with the character, and the first byte tells the length
  have digits := lt_iff_base64.mp less
  have digits' : c.val.toNat / 64 < d.val.toNat / 64 →
      c.val.toNat / 4096 < d.val.toNat / 4096 ∨
        c.val.toNat / 4096 = d.val.toNat / 4096 ∧
          c.val.toNat / 64 % 64 < d.val.toNat / 64 % 64 := by
    intro h
    simpa only [Nat.div_div_eq_div_mul] using lt_iff_base64.mp h
  have digits'' : c.val.toNat / 4096 < d.val.toNat / 4096 →
      c.val.toNat / 262144 < d.val.toNat / 262144 ∨
        c.val.toNat / 262144 = d.val.toNat / 262144 ∧
          c.val.toNat / 4096 % 64 < d.val.toNat / 4096 % 64 := by
    intro h
    simpa only [Nat.div_div_eq_div_mul] using lt_iff_base64.mp h
  fun_cases String.utf8EncodeChar c <;> fun_cases String.utf8EncodeChar d
  all_goals
    simp (disch := omega) only [List.cons_append, List.nil_append, List.cons_lt_cons_iff,
      UInt8.lt_iff_toNat_lt, ← UInt8.toNat_inj, UInt8.toNat_ofNat', Nat.mod_eq_of_lt]
    omega

theorem flatMap_utf8EncodeChar_lt :
    ∀ {cs ds : List Char}, cs < ds →
      cs.flatMap String.utf8EncodeChar < ds.flatMap String.utf8EncodeChar
  | _, [], h => absurd h (List.not_lt_nil _)
  | [], d :: ds, _ => by
    rw [List.flatMap_nil, List.flatMap_cons]
    cases form : String.utf8EncodeChar d with
    | nil => exact absurd form String.utf8EncodeChar_ne_nil
    | cons byte bytes => exact List.nil_lt_cons _ _
  | c :: cs, d :: ds, h => by
    rw [List.flatMap_cons, List.flatMap_cons]
    rcases List.cons_lt_cons_iff.mp h with less | ⟨rfl, rest⟩
    · exact utf8EncodeChar_append_lt less _ _
    · exact List.append_left_lt (flatMap_utf8EncodeChar_lt rest)

/-- Texts are ordered as their UTF-8 forms are. -/
theorem utf8Bytes_lt_iff {s t : String} : utf8Bytes s < utf8Bytes t ↔ s < t := by
  have mono : ∀ {s t : String}, s < t → utf8Bytes s < utf8Bytes t := fun h => by
    rw [utf8Bytes_eq_flatMap, utf8Bytes_eq_flatMap]
    exact flatMap_utf8EncodeChar_lt (String.lt_iff.mp h)
  refine ⟨fun h => ?_, mono⟩
  by_cases more : t < s
  · exact absurd (mono more) (List.lt_asymm h)
  · refine Decidable.by_contra fun notLess => ?_
    obtain rfl := String.le_antisymm (String.not_lt.mp more) (String.not_lt.mp notLess)
    exact List.lt_irrefl _ h

end Refetch.Text
