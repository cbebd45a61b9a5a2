/-
# What leaves the data and the error of an entry alone

Only a value that is stored and a fetch that settles give an entry data or an error. Whatever else
is done to it is `Quiet`: it may begin a fetch, join callers to it or take back a revalidation.
-/

import Refetch.Entry

namespace Refetch

namespace Entry

/-- What becomes of an entry that is given neither data nor an error: the numbers given to its
callers stay in order, and it does not come to be revalidated unless a fetch begins. -/
structure Quiet (e e' : Entry) : Prop where
  data : e'.data = e.data
  error : e'.error = e.error
  joined : e.joined ≤ e'.joined
  queued : (∀ w ∈ e.waiters.getD [], w < e.joined) → ∀ w ∈ e'.waiters.getD [], w < e'.joined
  stamped : e'.revalidatedAt ≠ none →
    (e.revalidatedAt ≠ none ∧ (e'.waiters = none → e.waiters = none)) ∨
      (e.waiters = none ∧ e'.waiters ≠ none)

theorem Quiet.refl (e : Entry) : Quiet e e where
  data := rfl
  error := rfl
  joined := Nat.le_refl _
  queued := fun h => h
  stamped := fun stamped => Or.inl ⟨stamped, fun idle => idle⟩

/-- An entry that keeps its callers is quiet if its revalidation time is kept or taken away. -/
theorem Quiet.of_same_flight {e e' : Entry} (data : e'.data = e.data) (error : e'.error = e.error)
    (waiters : e'.waiters = e.waiters) (joined : e'.joined = e.joined)
    (stamp : e'.revalidatedAt = e.revalidatedAt ∨ e'.revalidatedAt = none) : Quiet e e' where
  data := data
  error := error
  joined := Nat.le_of_eq joined.symm
  queued := by
    rw [waiters, joined]
    exact fun h => h
  stamped := by
    intro stamped
    rw [waiters]
    exact Or.inl ⟨stamp.elim (fun same => same ▸ stamped) fun gone => absurd gone stamped,
      fun idle => idle⟩

theorem Quiet.join (e : Entry) {queue : List WaiterId} (flying : e.waiters = some queue) :
    Quiet e (e.join queue).1 where
  data := rfl
  error := rfl
  joined := Nat.le_succ _
  queued := by
    intro below w member
    rw [flying] at below
    rcases List.mem_append.mp member with old | new
    · exact Nat.lt_succ_of_lt (below w old)
    · rw [List.mem_singleton.mp new]
      exact Nat.lt_succ_self _
  stamped := fun stamped => Or.inl ⟨stamped, fun idle => by cases idle⟩

theorem Quiet.begin (e : Entry) (window : Option Int) (now : Instant) :
    Quiet e (e.begin window now).1 := by
  cases flying : e.waiters with
  | some queue =>
      rw [begin_of_waiters flying]
      exact .join e flying
  | none =>
      cases fresh : window.any (e.freshWithin · now) with
      | true =>
          rw [begin_of_fresh flying fresh]
          exact .refl e
      | false =>
          rw [begin_of_stale flying fresh]
          refine ⟨rfl, rfl, Nat.le_refl _, fun _ _ member => ?_, fun _ => ?_⟩
          · cases member
          · exact Or.inr ⟨flying, by simp⟩

theorem Quiet.wait (e : Entry) : Quiet e e.wait.1 := by
  cases flying : e.waiters with
  | some queue =>
      rw [wait_of_waiters flying]
      exact .join e flying
  | none =>
      rw [wait_of_no_waiters flying]
      exact .refl e

theorem Quiet.abandon (e : Entry) : Quiet e e.abandon.1 where
  data := rfl
  error := rfl
  joined := Nat.le_refl _
  queued := fun _ _ member => by cases member
  stamped := fun stamped => absurd rfl stamped

end Entry

end Refetch
