/-
# Parameters stay out of the base key

A canonical query string is made of characters that stand for themselves, of escapes and of the two
signs between names, values and parameters. Whatever the names and values are, it holds neither a
question mark nor a number sign. What parameters append to a key therefore begins with its first
question mark or follows it, and the base key is that of the key alone: an entry that is made for a
key with parameters is the entry that the computed key would have been given on its own.
-/

import Refetch.Proofs.Key.Encoding
import Refetch.Proofs.Store.Advance
import Refetch.Proofs.Store.Filing

namespace Refetch

namespace Text

/-- ASCII letters and digits, and four signs. -/
def StandsForItself (c : Char) : Prop := c.isAlphanum = true ∨ c ∈ ['-', '_', '.', '~']

/-- Upper case hexadecimal digits. -/
def IsHexDigit (c : Char) : Prop := c.isDigit = true ∨ c ∈ ['A', 'B', 'C', 'D', 'E', 'F']

/-- The signs between the parts of a query string. -/
def separators : List Char := ['=', '&']

instance (c : Char) : Decidable (StandsForItself c) := inferInstanceAs (Decidable (_ ∨ _))

instance (c : Char) : Decidable (IsHexDigit c) := inferInstanceAs (Decidable (_ ∨ _))

/-- What query strings are made of. A percent sign never stands alone: it begins an escape. -/
inductive QueryText : List Char → Prop
  | nil : QueryText []
  | plain {c : Char} {rest : List Char} (itself : StandsForItself c) (tail : QueryText rest) :
      QueryText (c :: rest)
  | separator {c : Char} {rest : List Char} (between : c ∈ separators) (tail : QueryText rest) :
      QueryText (c :: rest)
  | escape {high low : Char} {rest : List Char} (first : IsHexDigit high)
      (second : IsHexDigit low) (tail : QueryText rest) : QueryText ('%' :: high :: low :: rest)

namespace QueryText

variable {text others : List Char}

theorem append (h : QueryText text) (h' : QueryText others) : QueryText (text ++ others) := by
  induction h with
  | nil => exact h'
  | plain itself _ ih => exact .plain itself ih
  | separator between _ ih => exact .separator between ih
  | escape first second _ ih => exact .escape first second ih

theorem flatMap {α : Type} {f : α → List Char} {parts : List α}
    (h : ∀ part ∈ parts, QueryText (f part)) : QueryText (parts.flatMap f) := by
  induction parts with
  | nil => exact .nil
  | cons part parts ih =>
      obtain ⟨first, later⟩ := List.forall_mem_cons.mp h
      exact first.append (ih later)

/-- Parts with ampersands between them. -/
theorem intercalate {parts : List (List Char)} (h : ∀ part ∈ parts, QueryText part) :
    QueryText (['&'].intercalate parts) := by
  induction parts with
  | nil => exact .nil
  | cons part parts ih =>
      obtain ⟨first, later⟩ := List.forall_mem_cons.mp h
      cases parts with
      | nil => simpa [List.intercalate] using first
      | cons next parts =>
          rw [List.intercalate_cons_cons, List.append_assoc]
          exact first.append (.separator (by decide) (ih later))

/-- The characters of a query string. -/
theorem characters (h : QueryText text) :
    ∀ c ∈ text, StandsForItself c ∨ IsHexDigit c ∨ c ∈ separators ∨ c = '%' := by
  induction h with
  | nil => simp
  | plain itself _ ih => exact List.forall_mem_cons.mpr ⟨.inl itself, ih⟩
  | separator between _ ih => exact List.forall_mem_cons.mpr ⟨.inr (.inr (.inl between)), ih⟩
  | escape first second _ ih =>
      simp only [List.forall_mem_cons]
      exact ⟨.inr (.inr (.inr trivial)), .inr (.inl first), .inr (.inl second), ih⟩

theorem unmarked (h : QueryText text) : '?' ∉ text ∧ '#' ∉ text :=
  ⟨fun member => absurd (h.characters _ member) (by decide),
    fun member => absurd (h.characters _ member) (by decide)⟩

end QueryText

theorem standsForItself_of_isUnreserved {b : UInt8} (free : isUnreserved b = true) :
    StandsForItself (Char.ofNat b.toNat) := by
  have every : ∀ n < 256, isUnreserved (UInt8.ofNat n) = true → StandsForItself (Char.ofNat n) := by
    decide +kernel
  exact every b.toNat b.toNat_lt (by rwa [UInt8.ofNat_toNat])

theorem isHexDigit_upperHexDigit : ∀ n < 16, IsHexDigit (upperHexDigit n) := by decide

theorem queryText_encodeByte (b : UInt8) : QueryText (encodeByte b) := by
  have small : b.toNat < 256 := b.toNat_lt
  by_cases free : isUnreserved b = true
  · rw [encodeByte_of_unreserved free]
    exact .plain (standsForItself_of_isUnreserved free) .nil
  · rw [encodeByte_of_reserved free]
    exact .escape (isHexDigit_upperHexDigit _ (by omega)) (isHexDigit_upperHexDigit _ (by omega))
      .nil

theorem queryText_percentEncode (s : String) : QueryText (percentEncode s).toList := by
  rw [percentEncode, String.toList_ofList]
  exact QueryText.flatMap fun b _ => queryText_encodeByte b

end Text

open Text

namespace Params

theorem queryText_encodePair (name value : String) : QueryText (encodePair name value).toList := by
  rw [encodePair, String.toList_append, String.toList_append, List.append_assoc]
  exact (queryText_percentEncode name).append
    (.separator (by decide) (queryText_percentEncode value))

/-- Whatever its names and values are, the query string of a parameter set is a query string. -/
theorem queryText_encode (p : Params) : QueryText p.encode.toList := by
  rw [encode, String.toList_intercalate]
  apply QueryText.intercalate
  intro part member
  obtain ⟨text, among, rfl⟩ := List.mem_map.mp member
  obtain ⟨⟨name, value⟩, -, rfl⟩ := List.mem_map.mp among
  exact queryText_encodePair name value

end Params

namespace Store

/-- The entry that is made for a key with parameters is that of the computed key. -/
theorem entry_getOrCreate_of_missing {s : Store} {key : String} {params : Option Params}
    (missing : s.find? (computeKey key params) = none) :
    (s.getOrCreate key params).1.entry (s.getOrCreate key params).2 =
      Entry.ofKey (computeKey key params) := by
  rw [getOrCreate_of_missing missing, entry_push, if_pos rfl, Entry.ofKey, baseKeyOf_computeKey]

end Store

/-- Parameters, whatever they are, do not reach the base key of a key, which may carry query strings
of its own:

* the computed key has the base key that the key has;
* the query string consists of ASCII letters and digits, `-`, `_`, `.`, `~`, escapes, equals signs
  and ampersands, and so holds neither a question mark nor a number sign;
* an entry that is made for the key with the parameters is the one that is made of the computed key
  alone; and in a store in which no entry was inserted under another base key than its own, also an
  entry that was there already has the same base key as that one. -/
theorem parameters_stay_out_of_base_key :
    (∀ (key : String) (params : Option Params),
        baseKeyOf (computeKey key params) = baseKeyOf key) ∧
      (∀ p : Params, QueryText p.encode.toList ∧ '?' ∉ p.encode.toList ∧
        '#' ∉ p.encode.toList) ∧
      ∀ (s : Store) (key : String) (params : Option Params),
        (s.find? (computeKey key params) = none →
          (s.getOrCreate key params).1.entry (s.getOrCreate key params).2 =
            Entry.ofKey (computeKey key params)) ∧
        (s.Plain →
          ((s.getOrCreate key params).1.entry (s.getOrCreate key params).2).baseKey =
            (Entry.ofKey (computeKey key params)).baseKey) := by
  refine ⟨baseKeyOf_computeKey, ?_, ?_⟩
  · intro p
    have encoded := p.queryText_encode
    exact ⟨encoded, encoded.unmarked⟩
  · intro s key params
    refine ⟨Store.entry_getOrCreate_of_missing, ?_⟩
    intro plain
    exact (plain.getOrCreate key params).filed _ _ (s.find?_getOrCreate key params)

/-- Names and values with question marks and number signs, after a key with two question marks. The
entry is made at the first reading and found at the second. -/
theorem marked_parameters_are_escaped :
    let key := "/a?b?c"
    let params := some ((Params.empty.add "q?" "#é&").add "a" "?")
    let made := Store.empty.getOrCreate key params
    let found := made.1.getOrCreate key params
    computeKey key params = "/a?b?c&a=%3F&q%3F=%23%C3%A9%26" ∧
      Store.empty.find? (computeKey key params) = none ∧
      made.1.entry made.2 = Entry.ofKey (computeKey key params) ∧
      found.2 = made.2 ∧ (found.1.entry found.2).baseKey = "/a" := by
  intro key params made found
  obtain ⟨same, -, entries⟩ := parameters_stay_out_of_base_key
  have missing : Store.empty.find? (computeKey key params) = none := rfl
  have again : made.1.find? (computeKey key params) = some made.2 :=
    Store.find?_getOrCreate .empty key params
  refine ⟨by decide +kernel, missing, (entries .empty key params).1 missing, ?_, ?_⟩
  · exact congrArg Prod.snd (Store.getOrCreate_of_find again)
  · calc
      (found.1.entry found.2).baseKey = baseKeyOf (computeKey key params) :=
        (entries made.1 key params).2 (.getOrCreate .empty key params)
      _ = baseKeyOf key := same key params
      _ = "/a" := by decide +kernel

end Refetch
