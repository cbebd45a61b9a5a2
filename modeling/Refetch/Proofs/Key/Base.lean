/-
# The base key of a computed key

The base key of a text is what stands before its first question mark. Whatever follows a question
mark does not count, so neither parameters nor a query string in the key itself change the base key,
and the base key of a path that begins with another one begins with it too.
-/

import Mathlib.Data.List.TakeWhile
import Refetch.Key

namespace Refetch

variable {front key : String}

/-- What stands before the first question mark is not cut. -/
theorem baseKeyOf_append (plain : '?' ∉ front.toList) (rest : String) :
    baseKeyOf (front ++ rest) = front ++ baseKeyOf rest := by
  have uncut : ∀ c ∈ front.toList, (c != '?') = true := by
    intro c member
    simpa using fun same : c = '?' => plain (same ▸ member)
  rw [baseKeyOf, String.toList_append, List.takeWhile_append_of_pos uncut, String.ofList_append,
    String.ofList_toList, baseKeyOf]

/-- A text without a question mark is its own base key. -/
theorem baseKeyOf_eq_self (plain : '?' ∉ key.toList) : baseKeyOf key = key := by
  have whole := baseKeyOf_append plain ""
  rwa [show baseKeyOf "" = "" from rfl, String.append_empty] at whole

theorem unmarked_baseKeyOf (key : String) : '?' ∉ (baseKeyOf key).toList := by
  rw [baseKeyOf, String.toList_ofList]
  intro member
  simpa using List.mem_takeWhile_imp member

theorem baseKeyOf_baseKeyOf (key : String) : baseKeyOf (baseKeyOf key) = baseKeyOf key :=
  baseKeyOf_eq_self (unmarked_baseKeyOf key)

theorem length_baseKeyOf_le (key : String) : (baseKeyOf key).length ≤ key.length := by
  rw [baseKeyOf, String.length_ofList, ← String.length_toList]
  exact (List.takeWhile_prefix _).length_le

/-- Nothing that follows a question mark counts. -/
theorem baseKeyOf_append_of_mem (marked : '?' ∈ key.toList) (rest : String) :
    baseKeyOf (key ++ rest) = baseKeyOf key := by
  have cut : ¬ (key.toList.takeWhile (· != '?')).length = key.toList.length := by
    intro whole
    have uncut := (List.takeWhile_prefix (· != '?')).eq_of_length whole
    simpa using List.takeWhile_eq_self_iff.mp uncut '?' marked
  rw [baseKeyOf, String.toList_append, List.takeWhile_append, if_neg cut, baseKeyOf]

/-- Parameters do not change the base key. -/
theorem baseKeyOf_computeKey (key : String) (params : Option Params) :
    baseKeyOf (computeKey key params) = baseKeyOf key := by
  cases params with
  | none => rfl
  | some p =>
      cases empty : p.isEmpty with
      | true => simp only [computeKey, empty, if_true]
      | false =>
          simp only [computeKey, empty, Bool.false_eq_true, if_false, String.append_assoc]
          by_cases marked : '?' ∈ key.toList
          · exact baseKeyOf_append_of_mem marked _
          · have plain : hasInlineQuery key = false := by simpa [hasInlineQuery] using marked
            rw [baseKeyOf_append marked, plain, baseKeyOf_eq_self marked]
            have opened : baseKeyOf ("?" ++ p.encode) = "" := by
              rw [baseKeyOf_append_of_mem (by decide)]
              rfl
            simp only [Bool.false_eq_true, if_false, opened, String.append_empty]

end Refetch
