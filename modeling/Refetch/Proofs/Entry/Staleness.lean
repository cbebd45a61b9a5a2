/-
# Staleness is decided by the history

An entry is fresh by its revalidation time alone. Of the acts in its life some stamp this time: a
fetch that begins and a value that is stored leave their own time, an invalidation and a leader that
is dropped leave none. All others, settling a fetch above all, leave it as it was. So the time is
that of the last act that stamped it, whatever the clock said before, and an invalidation that falls
into a fetch is not undone when this fetch settles.
-/

import Refetch.Proofs.Entry.Delivery

namespace Refetch

namespace Entry

/-- Is a revalidation time no longer than the window ago. A time yet to come is. -/
def FreshAt (stamp : Option Instant) (window : Int) (now : Instant) : Prop :=
  ∃ last, stamp = some last ∧ now.since last ≤ window

theorem freshWithin_iff (e : Entry) (window : Int) (now : Instant) :
    e.freshWithin window now = true ↔ FreshAt e.revalidatedAt window now := by
  unfold freshWithin FreshAt
  cases e.revalidatedAt <;> simp

/-- An entry must be fetched again if and only if it is not fresh, also where the two meet. -/
theorem mustRevalidate_iff (e : Entry) (window : Int) (now : Instant) :
    e.mustRevalidate window now = true ↔ ¬ FreshAt e.revalidatedAt window now := by
  unfold mustRevalidate FreshAt
  cases e.revalidatedAt <;> simp

/-- Who asks to begin a fetch follows the one in flight; failing that, is told that the entry is
fresh, if there is a window and it is; failing that, leads. -/
theorem begin_snd (e : Entry) (window : Option Int) (now : Instant) :
    (e.begin window now).2 =
      if e.loading = true then .follower e.joined
      else if window.any (e.freshWithin · now) = true then .fresh else .leader := by
  cases flying : e.waiters with
  | some queue => simp [begin_of_waiters flying, loading, flying]
  | none =>
      cases fresh : window.any (e.freshWithin · now) with
      | true => simp [begin_of_fresh flying fresh, loading, flying]
      | false => simp [begin_of_stale flying fresh, loading, flying]

theorem begin_eq_fresh_iff {e : Entry} {window : Option Int} {now : Instant} :
    (e.begin window now).2 = .fresh ↔
      e.waiters = none ∧ window.any (e.freshWithin · now) = true := by
  rw [begin_snd]
  cases flying : e.waiters <;> simp [loading, flying]

theorem begin_eq_leader_iff {e : Entry} {window : Option Int} {now : Instant} :
    (e.begin window now).2 = .leader ↔
      e.waiters = none ∧ window.any (e.freshWithin · now) = false := by
  rw [begin_snd]
  cases flying : e.waiters <;> simp [loading, flying]

namespace Life

/-- What an act leaves of the revalidation time, if it stamps it. -/
def stampOf : Act × Told → Option (Option Instant)
  | (.begin _ now, .ticket .leader) | (.set _ now, _) => some (some now)
  | (.invalidate, _) | (.drop _, _) => some none
  | _ => none

/-- What the last act of a history that stamped the revalidation time has left of it. -/
def lastStamp (history : List (Act × Told)) : Option Instant :=
  (history.filterMap stampOf).getLast?.getD none

theorem revalidatedAt_settle (e : Entry) (result : FetchResult Json) :
    (e.settle result).1.revalidatedAt = e.revalidatedAt := by
  cases result <;> rfl

/-- An act stamps the revalidation time or leaves it as it was. -/
theorem revalidatedAt_of_step {s s' : Life} {act : Act} {told : Told}
    (h : s.step act = some (s', told)) :
    s'.entry.revalidatedAt = (stampOf (act, told)).getD s.entry.revalidatedAt := by
  cases act with
  | begin window now =>
      cases flying : s.entry.waiters with
      | some queue =>
          simp only [step, begin_of_waiters flying] at h
          cases h
          rfl
      | none =>
          cases fresh : window.any (s.entry.freshWithin · now) with
          | true =>
              simp only [step, begin_of_fresh flying fresh] at h
              cases h
              rfl
          | false =>
              simp only [step, begin_of_stale flying fresh] at h
              cases h
              rfl
  | wait =>
      cases flying : s.entry.waiters with
      | some queue =>
          simp only [step, wait_of_waiters flying] at h
          cases h
          rfl
      | none =>
          simp only [step, wait_of_no_waiters flying] at h
          cases h
          rfl
  | set _ _ | invalidate | subscribe | unsubscribe _ =>
      cases h
      rfl
  | settle fetch result =>
      simp only [step] at h
      split at h
      next =>
        cases h
        exact revalidatedAt_settle s.entry result
      next => cases h
  | drop fetch =>
      simp only [step] at h
      split at h
      next =>
        cases h
        rfl
      next => cases h

/-- The last stamp of a longer history is the last one of its later part, if that has any. -/
theorem getLast?_filterMap_cons (p : Act × Told) (rest : List (Act × Told))
    (before : Option Instant) :
    ((p :: rest).filterMap stampOf).getLast?.getD before =
      (rest.filterMap stampOf).getLast?.getD ((stampOf p).getD before) := by
  rw [List.filterMap_cons]
  cases stampOf p with
  | none => rfl
  | some stamp => cases last : rest.filterMap stampOf <;> simp [List.getLast?_cons]

/-- Over a run the revalidation time becomes what its last stamp has left of it. -/
theorem revalidatedAt_of_run {s after : Life} {acts : List Act} {told : List Told}
    (ran : s.run acts = some (after, told)) :
    after.entry.revalidatedAt =
      ((acts.zip told).filterMap stampOf).getLast?.getD s.entry.revalidatedAt := by
  induction acts generalizing s told with
  | nil =>
      cases ran
      rfl
  | cons act acts ih =>
      obtain ⟨s', first, rest, stepped, rested, rfl⟩ := run_cons ran
      rw [List.zip_cons_cons, getLast?_filterMap_cons, ih rested, revalidatedAt_of_step stepped]

/-- Without a stamp that leaves a time, what was taken away stays away. -/
theorem stale_of_run {s after : Life} {acts : List Act} {told : List Told}
    (ran : s.run acts = some (after, told)) (stale : s.entry.revalidatedAt = none)
    (unstamped : ∀ p ∈ acts.zip told, ∀ now, stampOf p ≠ some (some now)) :
    after.entry.revalidatedAt = none := by
  rw [revalidatedAt_of_run ran, stale]
  cases last : ((acts.zip told).filterMap stampOf).getLast? with
  | none => rfl
  | some stamp =>
      obtain ⟨p, member, stamped⟩ := List.mem_filterMap.mp (List.mem_of_getLast? last)
      cases stamp with
      | none => rfl
      | some now => exact absurd stamped (unstamped p member now)

/-- What a caller is told that asks to begin a fetch depends on whether one is led and on the
revalidation time, and on nothing else. -/
theorem Sound.ticket_iff {s : Life} (h : s.Sound) (window : Option Int) (now : Instant) :
    ((∃ waiter, (s.entry.begin window now).2 = .follower waiter) ↔ s.led ≠ []) ∧
      ((s.entry.begin window now).2 = .fresh ↔
        s.led = [] ∧ ∃ w, window = some w ∧ FreshAt s.entry.revalidatedAt w now) ∧
      ((s.entry.begin window now).2 = .leader ↔
        s.led = [] ∧ ¬ ∃ w, window = some w ∧ FreshAt s.entry.revalidatedAt w now) := by
  have fresh : window.any (s.entry.freshWithin · now) = true ↔
      ∃ w, window = some w ∧ FreshAt s.entry.revalidatedAt w now := by
    cases window with
    | none => simp
    | some w => simp [freshWithin_iff]
  rw [begin_snd, ← fresh]
  by_cases led : s.led = []
  · have idle : s.entry.loading ≠ true := fun loading => h.loading_iff.mp loading led
    by_cases within : window.any (s.entry.freshWithin · now) = true <;> simp [led, idle, within]
  · simp [led, h.loading_iff.mpr led]

theorem step_begin (s : Life) (window : Option Int) (now : Instant) :
    ∃ s', s.step (.begin window now) = some (s', .ticket (s.entry.begin window now).2) :=
  ⟨_, rfl⟩

/-- After every run of acts, with whatever times:

* the revalidation time is that of the last fetch that began or value that was stored, unless the
  entry was invalidated or a leader dropped since; and settling a fetch would leave it so;
* an invalidation holds until a fetch begins or a value is stored, also if a fetch that was in
  flight settles meanwhile;
* who asks to begin a fetch with a window follows the one in flight; if there is none, the entry is
  fresh for it exactly when the revalidation time is no longer than the window ago, and else it
  leads; and the entry must be fetched again, in flight or not, exactly when it is not fresh;
* who asks without a window is never told that the entry is fresh. -/
theorem staleness_of_history {key baseKey : String} {acts : List Act} {s : Life}
    {told : List Told} (ran : (born key baseKey).run acts = some (s, told)) :
    s.entry.revalidatedAt = lastStamp (acts.zip told) ∧
      (∀ fetch result s' answer, s.step (.settle fetch result) = some (s', answer) →
        s'.entry.revalidatedAt = lastStamp (acts.zip told)) ∧
      (∀ invalidated answer later after toldLater,
        s.step .invalidate = some (invalidated, answer) →
        invalidated.run later = some (after, toldLater) →
        (∀ p ∈ later.zip toldLater, ∀ now, stampOf p ≠ some (some now)) →
        ∀ window now, after.entry.mustRevalidate window now = true) ∧
      (∀ window now,
        ∃ s' ticket, s.step (.begin (some window) now) = some (s', .ticket ticket) ∧
          ((∃ waiter, ticket = .follower waiter) ↔ s.led ≠ []) ∧
          (ticket = .fresh ↔ s.led = [] ∧ FreshAt (lastStamp (acts.zip told)) window now) ∧
          (ticket = .leader ↔ s.led = [] ∧ ¬ FreshAt (lastStamp (acts.zip told)) window now) ∧
          (s.entry.mustRevalidate window now = true ↔
            ¬ FreshAt (lastStamp (acts.zip told)) window now)) ∧
      ∀ now, ∃ s' ticket, s.step (.begin none now) = some (s', .ticket ticket) ∧
        ticket ≠ .fresh := by
  have sound := ((sound_born key baseKey).run ran).1
  have stamped : s.entry.revalidatedAt = lastStamp (acts.zip told) := revalidatedAt_of_run ran
  refine ⟨stamped, ?_, ?_, ?_, ?_⟩
  · intro fetch result s' answer stepped
    rw [revalidatedAt_of_step stepped, ← stamped]
    rfl
  · intro invalidated answer later after toldLater stepped rested unstamped window now
    have stale := stale_of_run rested (revalidatedAt_of_step stepped) unstamped
    rw [mustRevalidate_iff, stale]
    rintro ⟨_, absent, -⟩
    cases absent
  · intro window now
    obtain ⟨s', asked⟩ := step_begin s (some window) now
    obtain ⟨follows, fresh, leads⟩ := sound.ticket_iff (some window) now
    refine ⟨s', _, asked, follows, ?_, ?_, ?_⟩
    · simpa [← stamped] using fresh
    · simpa [← stamped] using leads
    · rw [← stamped]
      exact mustRevalidate_iff s.entry window now
  · intro now
    obtain ⟨s', asked⟩ := step_begin s none now
    refine ⟨s', _, asked, fun told_fresh => ?_⟩
    obtain ⟨-, _, absent, -⟩ := (sound.ticket_iff none now).2.1.mp told_fresh
    cases absent

/-- An entry was invalidated during its fetch, which then settled with a value. It stays stale, for
every window and also at times before the fetch began, until the next fetch. -/
theorem invalidation_outlives_fetch :
    let acts : List Act := [.begin none ⟨5⟩, .invalidate, .settle 0 (.ok .null)]
    ∃ s told, (born "/apps" "/apps").run acts = some (s, told) ∧
      s.entry.data = some .null ∧ lastStamp (acts.zip told) = none ∧
      ∀ window now, ∃ s', s.step (.begin (some window) now) = some (s', .ticket .leader) := by
  intro acts
  obtain ⟨s, told, ran⟩ : ∃ s told, (born "/apps" "/apps").run acts = some (s, told) :=
    ⟨_, _, rfl⟩
  obtain ⟨-, -, -, tickets, -⟩ := staleness_of_history ran
  cases ran
  refine ⟨_, _, rfl, rfl, rfl, ?_⟩
  intro window now
  obtain ⟨s', ticket, asked, -, -, leads, -⟩ := tickets window now
  have stale : ¬ FreshAt none window now := by
    rintro ⟨_, absent, -⟩
    cases absent
  obtain rfl := leads.mpr ⟨rfl, stale⟩
  exact ⟨s', asked⟩

end Life

end Entry

end Refetch
