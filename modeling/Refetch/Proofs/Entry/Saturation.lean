/-
# The cut of the window cannot be seen

The window in which an entry is fresh is the dedupe interval, cut off at the longest signed span. An
interval may be longer than that, but no two dates are that far apart: their years have 19 bits. So
the cut decides nothing. Whether an entry must be fetched again, and what is told to a caller that
asks to begin a fetch, is what the whole interval would have it be, and a run of an entry with
windows that are cut off is its run with whole intervals.

The conversion of lengths of time to signed spans is taken as any that fails exactly for those that
are too long. The proof begins with the calendar, from which the bound on distances comes. A
distance that short is within the window if and only if it is within the interval; from there it is
one act after the other, as long as all of them have dates.
-/

import Refetch.Proofs.Entry.Staleness

namespace Refetch

namespace Instant

/-- The year of a point in time. -/
def year (i : Instant) : Int := (civilOfDays (i.seconds.fdiv 86400)).1

/-- Is there a date for the point in time: a year of 19 bits, the sign among them. -/
def Representable (i : Instant) : Prop := -262144 ≤ i.year ∧ i.year < 262144

instance (i : Instant) : Decidable i.Representable := inferInstanceAs (Decidable (_ ∧ _))

/-- A cycle of the calendar has 400 years, so the cycle in which a day lies gives its year but for
these and one more, since years are counted from March. -/
theorem year_of_cycle (days : Int) :
    (days + 719468) / 146097 * 400 ≤ (civilOfDays days).1 ∧
      (civilOfDays days).1 ≤ (days + 719468) / 146097 * 400 + 401 := by
  have cycle : (days + 719468).fdiv 146097 = (days + 719468) / 146097 :=
    Int.fdiv_eq_ediv_of_nonneg _ (by decide)
  have within : ((days + 719468).fmod 146097).toNat < 146097 := by
    have above := Int.fmod_nonneg_of_pos (days + 719468) (show (0 : Int) < 146097 by decide)
    have below := Int.fmod_lt_of_pos (days + 719468) (show (0 : Int) < 146097 by decide)
    omega
  unfold civilOfDays
  simp only [cycle]
  generalize ((days + 719468).fmod 146097).toNat = day at within ⊢
  split <;> omega

theorem Representable.bounded {i : Instant} (h : i.Representable) :
    -10000000000000000000000 < i.nanos ∧ i.nanos < 10000000000000000000000 := by
  obtain ⟨least, greatest⟩ := h
  obtain ⟨above, below⟩ := year_of_cycle (i.seconds.fdiv 86400)
  have days : i.seconds.fdiv 86400 = i.nanos / 1000000000 / 86400 := by
    rw [seconds, Int.fdiv_eq_ediv_of_nonneg _ (by decide), Int.fdiv_eq_ediv_of_nonneg _ (by decide)]
  unfold year at least greatest
  rw [days] at least greatest above below
  omega

/-- No two dates are as far apart as the longest window is long. -/
theorem since_lt_longestWindow {now last : Instant} (late : now.Representable)
    (early : last.Representable) : now.since last < CacheConfig.longestWindow := by
  have upper := late.bounded.2
  have lower := early.bounded.1
  unfold since CacheConfig.longestWindow
  omega

end Instant

namespace Duration

/-- The longest signed span in nanoseconds: the most milliseconds that 64 bits hold with a sign. -/
def longestSpan : Nat := (UInt64.size / 2 - 1) * 1000000

theorem longestWindow_eq : CacheConfig.longestWindow = longestSpan := by decide

/-- What is relied on of a conversion of lengths of time to signed spans in nanoseconds: it fails
exactly for those longer than the longest span, and changes no other. -/
structure Converts (convert : Duration → Option Int) : Prop where
  fails : ∀ d, convert d = none ↔ longestSpan < d.nanos
  keeps : ∀ d span, convert d = some span → span = d.nanos

/-- The conversion that looks at the seconds first, and at the nanoseconds below a second where the
seconds are those of the longest span. -/
def toSpan? (d : Duration) : Option Int :=
  if 9223372036854775 < d.secs then none
  else if d.secs = 9223372036854775 ∧ 807000000 < d.subsecNanos then none
  else some (d.secs * 1000000000 + d.subsecNanos)

theorem converts_toSpan? : Converts toSpan? where
  fails d := by
    rw [← longestWindow_eq]
    unfold toSpan? secs subsecNanos CacheConfig.longestWindow
    split
    next long => simp only [true_iff]; omega
    next =>
      split
      next long => simp only [true_iff]; omega
      next short => simp only [reduceCtorEq, false_iff]; omega
  keeps d span converted := by
    unfold toSpan? secs subsecNanos at converted
    split at converted
    next => cases converted
    next =>
      split at converted
      next => cases converted
      next => cases converted; omega

/-- Where the conversion fails, the longest span stands in. -/
theorem Converts.getD_eq {convert : Duration → Option Int} (h : Converts convert) (d : Duration) :
    (convert d).getD longestSpan = (min d.nanos longestSpan : Nat) := by
  cases converted : convert d with
  | none =>
      have long := (h.fails d).mp converted
      rw [Option.getD_none, Nat.min_eq_right (Nat.le_of_lt long)]
  | some span =>
      have short : ¬ longestSpan < d.nanos := by
        intro long
        rw [(h.fails d).mpr long] at converted
        cases converted
      rw [Option.getD_some, h.keeps d span converted, Nat.min_eq_left (Nat.not_lt.mp short)]

end Duration

/-- A distance below the longest window does not tell the window from the interval. -/
theorem CacheConfig.le_window_iff (c : CacheConfig) {distance : Int}
    (short : distance < longestWindow) :
    distance ≤ c.window ↔ distance ≤ c.dedupeInterval.nanos := by
  unfold window
  omega

namespace Entry

/-- Is the revalidation time a date, if there is one. -/
def Dated (e : Entry) : Prop := ∀ last, e.revalidatedAt = some last → last.Representable

variable {c : CacheConfig} {e : Entry} {now : Instant}

theorem freshAt_window_iff (dated : e.Dated) (date : now.Representable) :
    FreshAt e.revalidatedAt c.window now ↔ FreshAt e.revalidatedAt c.dedupeInterval.nanos now := by
  unfold FreshAt
  refine exists_congr fun last => and_congr_right fun stamped => c.le_window_iff ?_
  exact Instant.since_lt_longestWindow date (dated last stamped)

theorem freshWithin_window (dated : e.Dated) (date : now.Representable) :
    e.freshWithin c.window now = e.freshWithin c.dedupeInterval.nanos now := by
  rw [Bool.eq_iff_iff, freshWithin_iff, freshWithin_iff, freshAt_window_iff dated date]

theorem mustRevalidate_window (dated : e.Dated) (date : now.Representable) :
    e.mustRevalidate c.window now = e.mustRevalidate c.dedupeInterval.nanos now := by
  rw [Bool.eq_iff_iff, mustRevalidate_iff, mustRevalidate_iff, freshAt_window_iff dated date]

theorem begin_window (dated : e.Dated) (date : now.Representable) :
    e.begin (some c.window) now = e.begin (some c.dedupeInterval.nanos) now := by
  simp only [begin, Option.any_some, freshWithin_window dated date]

theorem dated_of_stamped {last : Instant} (stamped : e.revalidatedAt = some last)
    (date : last.Representable) : e.Dated := by
  intro other same
  rw [stamped] at same
  cases same
  exact date

theorem mustRevalidate_of_stamped {last : Instant} (stamped : e.revalidatedAt = some last)
    (window : Int) : e.mustRevalidate window now = true ↔ window < now.since last := by
  simp [mustRevalidate, stamped]

/-- Freshness is the failure of staleness, so a caller that finds no fetch in flight leads exactly
when the entry is stale. -/
theorem begin_snd_of_stamped {last : Instant} (stamped : e.revalidatedAt = some last)
    (window : Int) :
    (e.begin (some window) now).2 =
      if e.loading = true then .follower e.joined
      else if window < now.since last then .leader else .fresh := by
  have fresh : e.freshWithin window now = true ↔ ¬ window < now.since last := by
    simp [freshWithin, stamped]
  rw [begin_snd, Option.any_some]
  by_cases stale : window < now.since last
  · rw [if_neg (fun within => fresh.mp within stale), if_pos stale]
  · rw [if_pos (fresh.mpr stale), if_neg stale]

/-- The time of an act that has one. -/
def Act.time : Act → Option Instant
  | .begin _ now | .set _ now => some now
  | _ => none

/-- An act with a date, or without a time. -/
def Act.Dated (act : Act) : Prop := ∀ now, act.time = some now → now.Representable

/-- The act with another window, if it has one. -/
def Act.within (window : Int) : Act → Act
  | .begin (some _) now => .begin (some window) now
  | act => act

theorem Act.Dated.within {act : Act} (date : act.Dated) {window : Int} :
    (act.within window).Dated := by
  cases act with
  | begin asked _ => cases asked <;> exact date
  | _ => exact date

namespace Life

theorem time_of_stampOf {act : Act} {told : Told} {now : Instant}
    (stamp : stampOf (act, told) = some (some now)) : act.time = some now := by
  cases act with
  | begin _ _ =>
      cases told with
      | ticket ticket => cases ticket <;> simp_all [stampOf, Act.time]
      | _ => simp [stampOf] at stamp
  | set _ _ => simpa [stampOf, Act.time] using stamp
  | _ => simp [stampOf] at stamp

/-- The revalidation time stays a date if acts have dates. -/
theorem dated_of_step {s s' : Life} {act : Act} {told : Told}
    (stepped : s.step act = some (s', told)) (dated : s.entry.Dated) (date : act.Dated) :
    s'.entry.Dated := by
  intro last stamped
  rw [revalidatedAt_of_step stepped] at stamped
  cases stamp : stampOf (act, told) with
  | none =>
      rw [stamp] at stamped
      exact dated last stamped
  | some left =>
      rw [stamp] at stamped
      cases stamped
      exact date last (time_of_stampOf stamp)

/-- One act does the same with the window as with the interval. -/
theorem step_within {s : Life} {act : Act} (dated : s.entry.Dated) (date : act.Dated) :
    s.step (act.within c.window) = s.step (act.within c.dedupeInterval.nanos) := by
  cases act with
  | begin asked now =>
      cases asked with
      | none => rfl
      | some _ => simp only [Act.within, step, begin_window dated (date now rfl)]
  | _ => rfl

theorem run_within {s : Life} {acts : List Act} (dated : s.entry.Dated)
    (dates : ∀ act ∈ acts, act.Dated) :
    s.run (acts.map (·.within c.window)) = s.run (acts.map (·.within c.dedupeInterval.nanos)) := by
  induction acts generalizing s with
  | nil => rfl
  | cons act acts ih =>
      obtain ⟨date, later⟩ := List.forall_mem_cons.mp dates
      have same := step_within (c := c) dated date
      rw [List.map_cons, List.map_cons]
      cases stepped : s.step (act.within c.dedupeInterval.nanos) with
      | none =>
          rw [run, run, same, stepped]
          rfl
      | some after =>
          obtain ⟨s', told⟩ := after
          have kept : s'.entry.Dated := dated_of_step stepped dated date.within
          rw [run_cons_of_step (same.trans stepped), run_cons_of_step stepped, ih kept later]

theorem dated_of_run {s after : Life} {acts : List Act} {told : List Told}
    (ran : s.run acts = some (after, told)) (dated : s.entry.Dated)
    (dates : ∀ act ∈ acts, act.Dated) : after.entry.Dated := by
  induction acts generalizing s told with
  | nil =>
      cases ran
      exact dated
  | cons act acts ih =>
      obtain ⟨date, later⟩ := List.forall_mem_cons.mp dates
      obtain ⟨s', first, rest, stepped, rested, rfl⟩ := run_cons ran
      exact ih rested (dated_of_step stepped dated date) later

/-- For every dedupe interval:

* the window is the interval or the longest span, whichever is shorter, and so is the interval
  converted to a signed span with the longest one in place of a failure;
* the window of a longer interval is no shorter;
* with a date as its revalidation time an entry must be fetched again, at another date, exactly when
  the interval is exceeded in whole nanoseconds; who asks to begin a fetch then leads and else is
  told that the entry is fresh, or joins the fetch in flight;
* a run in which all acts have dates is possible with the window if and only if it is with the whole
  interval, comes to the same and tells every caller the same; and the entry it comes to must be
  fetched again with the window exactly when it must with the interval. -/
theorem saturation_is_unobservable (c : CacheConfig) :
    (∀ convert, Duration.Converts convert →
        (convert c.dedupeInterval).getD Duration.longestSpan = c.window) ∧
      c.window = min c.dedupeInterval.nanos Duration.longestSpan ∧
      (∀ other : CacheConfig, c.dedupeInterval.nanos ≤ other.dedupeInterval.nanos →
        c.window ≤ other.window) ∧
      (∀ (e : Entry) (last now : Instant), e.revalidatedAt = some last → last.Representable →
        now.Representable →
          (e.mustRevalidate c.window now = true ↔
            c.dedupeInterval.nanos < now.nanos - last.nanos) ∧
          (e.begin (some c.window) now).2 =
            if e.loading = true then .follower e.joined
            else if c.dedupeInterval.nanos < now.nanos - last.nanos then .leader else .fresh) ∧
      ∀ (key baseKey : String) (acts : List Act), (∀ act ∈ acts, act.Dated) →
        (born key baseKey).run (acts.map (·.within c.window)) =
            (born key baseKey).run (acts.map (·.within c.dedupeInterval.nanos)) ∧
          ∀ s told, (born key baseKey).run (acts.map (·.within c.window)) = some (s, told) →
            ∀ now, now.Representable →
              s.entry.mustRevalidate c.window now =
                s.entry.mustRevalidate c.dedupeInterval.nanos now := by
  have shorter : c.window = min c.dedupeInterval.nanos Duration.longestSpan := by
    rw [← Duration.longestWindow_eq, CacheConfig.window]
  refine ⟨?_, shorter, ?_, ?_, ?_⟩
  · intro convert converts
    rw [converts.getD_eq c.dedupeInterval, shorter]
  · intro other longer
    unfold CacheConfig.window
    omega
  · intro e last now stamped early late
    have dated := dated_of_stamped stamped early
    constructor
    · rw [mustRevalidate_window dated late, mustRevalidate_of_stamped stamped, Instant.since]
    · rw [begin_window dated late, begin_snd_of_stamped stamped, Instant.since]
  · intro key baseKey acts dates
    have unstamped : (born key baseKey).entry.Dated := fun _ stamped => nomatch stamped
    refine ⟨run_within unstamped dates, ?_⟩
    intro s told ran now late
    refine mustRevalidate_window (dated_of_run ran unstamped ?_) late
    intro act member
    obtain ⟨original, asked, rfl⟩ := List.mem_map.mp member
    exact (dates original asked).within

/-- An interval of 64 bits of seconds is cut off. An entry that was fetched at the beginning of the
year -262143 is fresh for it until the year 262142 is over. -/
theorem fresh_for_all_dates :
    let c : CacheConfig := { dedupeInterval := { nanos := UInt64.size * 1000000000 - 1 } }
    let first : Instant := .ofSeconds (-8334601228800)
    let final : Instant := ⟨8210266876799999999999⟩
    let acts : List Act := [.begin (some 0) first, .settle 0 (.ok .null)]
    first.year = -262143 ∧ final.year = 262142 ∧ c.window < c.dedupeInterval.nanos ∧
      (Duration.toSpan? c.dedupeInterval).getD Duration.longestSpan = c.window ∧
      ({} : CacheConfig).window ≤ c.window ∧
      ∃ s told, (born "/apps" "/apps").run (acts.map (·.within c.window)) = some (s, told) ∧
        (born "/apps" "/apps").run (acts.map (·.within c.dedupeInterval.nanos)) = some (s, told) ∧
        s.entry.mustRevalidate c.dedupeInterval.nanos final = false ∧
        (s.entry.begin (some c.window) final).2 = .fresh := by
  intro c first final acts
  have early : first.Representable := by decide +kernel
  have late : final.Representable := by decide +kernel
  have dates : ∀ act ∈ acts, act.Dated := by
    intro act member now time
    simp only [acts, List.mem_cons, List.not_mem_nil, or_false] at member
    obtain rfl | rfl := member <;> cases time
    exact early
  obtain ⟨converted, -, -, decides, runs⟩ := saturation_is_unobservable c
  obtain ⟨-, -, longer, -⟩ := saturation_is_unobservable {}
  obtain ⟨same, agrees⟩ := runs "/apps" "/apps" acts dates
  obtain ⟨s, told, ran, stamped, idle⟩ : ∃ s told,
      (born "/apps" "/apps").run (acts.map (·.within c.window)) = some (s, told) ∧
        s.entry.revalidatedAt = some first ∧ s.entry.loading = false := ⟨_, _, rfl, rfl, rfl⟩
  have near : ¬ (c.dedupeInterval.nanos : Int) < final.nanos - first.nanos := by decide +kernel
  obtain ⟨stale, ticket⟩ := decides s.entry first final stamped early late
  refine ⟨by decide +kernel, by decide +kernel, by decide +kernel,
    converted _ Duration.converts_toSpan?, longer c (by decide +kernel), s, told, ran,
    same ▸ ran, ?_, ?_⟩
  · rw [← agrees s told ran final late, Bool.eq_false_iff]
    exact fun must => near (stale.mp must)
  · rw [ticket, if_neg (by simp [idle]), if_neg near]

/-- Between points in time that have no date the cut would be seen. -/
example :
    let c : CacheConfig := { dedupeInterval := { nanos := CacheConfig.longestWindow + 1 } }
    let e : Entry := { key := "/apps", baseKey := "/apps", revalidatedAt := some ⟨0⟩ }
    let now : Instant := ⟨CacheConfig.longestWindow + 1⟩
    e.mustRevalidate c.window now = true ∧ e.mustRevalidate c.dedupeInterval.nanos now = false := by
  decide +kernel

end Life

end Entry

end Refetch
