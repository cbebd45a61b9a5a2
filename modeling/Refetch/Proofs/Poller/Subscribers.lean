/-
# The subscribers of a shared poller

Subscriptions to a query and to its clones share one poller. Each takes a lease on it as it begins
and gives the lease back as it ends, whether it is ended or dropped. Taking a lease is one step;
giving it back is two, since the last lease takes the teardown of the job with it and only then runs
it, when others may have begun anew: the job of a new first subscriber can run while the one before
is being torn down.

A `Sharing` is a poller with the leases that are out and the jobs that there were. Which leases are
out can be read off the acts alone (`unreturned`), and the poller counts these.
-/

import Mathlib.Data.List.Range
import Refetch.Poller

namespace Refetch

/-- Tells the leases on one poller apart; they are numbered as they are given out. -/
abbrev LeaseId := Nat

/-- A poller in use. -/
structure Sharing where
  poller : Poller := {}
  /-- How many leases were given out. -/
  given : Nat := 0
  /-- The leases that are out. -/
  held : List LeaseId := []
  /-- How many jobs were started; they are numbered in this order. -/
  started : Nat := 0
  /-- The jobs whose teardown was taken and has not run yet. -/
  leaving : List JobId := []
  tornDown : List JobId := []

namespace Sharing

/-- What happens to a poller. -/
inductive Act where
  /-- A subscription begins and is given the next lease. -/
  | acquire
  /-- A subscription is ended, or is dropped. Its lease goes back the first time. -/
  | release (lease : LeaseId)
  /-- The teardown of a job runs that was taken with the last lease. -/
  | tearDown (job : JobId)
  deriving DecidableEq

/-- What comes of an act; `none` if there is no such subscription or no such teardown. -/
def step (s : Sharing) : Act → Option Sharing
  | .acquire =>
    let (poller, starts) := s.poller.acquire s.started
    some { s with poller, given := s.given + 1, held := s.held ++ [s.given],
                  started := s.started + starts.toNat }
  | .release lease =>
    if lease ∈ s.held then
      let (poller, job) := s.poller.release
      some { s with poller, held := s.held.erase lease, leaving := s.leaving ++ job.toList }
    else if lease < s.given then some s else none
  | .tearDown job =>
    if job ∈ s.leaving then
      some { s with leaving := s.leaving.erase job, tornDown := s.tornDown ++ [job] }
    else none

/-- What comes of acts one after another. -/
def run (s : Sharing) (acts : List Act) : Option Sharing := acts.foldlM step s

/-- The leases that were given out in the course of these acts and did not go back. -/
def unreturned (acts : List Act) : List LeaseId :=
  (List.range (acts.count .acquire)).filter fun lease => .release lease ∉ acts

/-- Every job that was started, once: torn down, about to be torn down, or running. -/
def jobs (s : Sharing) : List JobId := s.tornDown ++ s.leaving ++ s.poller.job.toList

/-- What an act can do to a poller. -/
inductive Change (s s' : Sharing) : Act → Prop
  /-- The first subscriber starts a job. -/
  | starts (nobody : s.poller.subscribers = 0) (poller : s'.poller = ⟨1, some s.started⟩)
      (given : s'.given = s.given + 1) (held : s'.held = s.held ++ [s.given])
      (started : s'.started = s.started + 1) (leaving : s'.leaving = s.leaving)
      (tornDown : s'.tornDown = s.tornDown) : Change s s' .acquire
  /-- Another subscriber joins in. -/
  | joins (somebody : s.poller.subscribers ≠ 0)
      (poller : s'.poller = ⟨s.poller.subscribers + 1, s.poller.job⟩)
      (given : s'.given = s.given + 1) (held : s'.held = s.held ++ [s.given])
      (started : s'.started = s.started) (leaving : s'.leaving = s.leaving)
      (tornDown : s'.tornDown = s.tornDown) : Change s s' .acquire
  /-- A subscriber leaves others behind. -/
  | leaves (lease : LeaseId) (there : lease ∈ s.held) (others : 1 < s.poller.subscribers)
      (poller : s'.poller = ⟨s.poller.subscribers - 1, s.poller.job⟩) (given : s'.given = s.given)
      (held : s'.held = s.held.erase lease) (started : s'.started = s.started)
      (leaving : s'.leaving = s.leaving) (tornDown : s'.tornDown = s.tornDown) :
      Change s s' (.release lease)
  /-- The last subscriber leaves and takes the teardown with it. -/
  | empties (lease : LeaseId) (there : lease ∈ s.held) (last : s.poller.subscribers ≤ 1)
      (poller : s'.poller = ⟨0, none⟩) (given : s'.given = s.given)
      (held : s'.held = s.held.erase lease) (started : s'.started = s.started)
      (leaving : s'.leaving = s.leaving ++ s.poller.job.toList)
      (tornDown : s'.tornDown = s.tornDown) : Change s s' (.release lease)
  /-- Who has left has nothing to give back. -/
  | left (lease : LeaseId) (gone : lease ∉ s.held) (was : lease < s.given) (same : s' = s) :
      Change s s' (.release lease)
  /-- A teardown runs that was taken. -/
  | tearsDown (job : JobId) (taken : job ∈ s.leaving) (poller : s'.poller = s.poller)
      (given : s'.given = s.given) (held : s'.held = s.held) (started : s'.started = s.started)
      (leaving : s'.leaving = s.leaving.erase job) (tornDown : s'.tornDown = s.tornDown ++ [job]) :
      Change s s' (.tearDown job)

theorem change_of_step {s s' : Sharing} {act : Act} (h : s.step act = some s') :
    Change s s' act := by
  cases act with
  | acquire =>
      by_cases nobody : s.poller.subscribers = 0
      · simp only [step, Poller.acquire, nobody, if_true] at h
        cases h
        exact .starts nobody rfl rfl rfl rfl rfl rfl
      · simp only [step, Poller.acquire, nobody, if_false] at h
        cases h
        exact .joins nobody rfl rfl rfl rfl rfl rfl
  | release lease =>
      simp only [step] at h
      split at h
      next there =>
        by_cases last : s.poller.subscribers ≤ 1
        · have none_left : s.poller.subscribers - 1 = 0 := by omega
          simp only [Poller.release, none_left, if_true] at h
          cases h
          exact .empties lease there last rfl rfl rfl rfl rfl rfl
        · have some_left : s.poller.subscribers - 1 ≠ 0 := by omega
          simp only [Poller.release, some_left, if_false] at h
          cases h
          exact .leaves lease there (by omega) rfl rfl rfl rfl (by simp) rfl
      next gone =>
        split at h
        next was =>
          cases h
          exact .left lease gone was rfl
        next => cases h
  | tearDown job =>
      simp only [step] at h
      split at h
      next taken =>
        cases h
        exact .tearsDown job taken rfl rfl rfl rfl rfl rfl
      next => cases h

/-- The leases are given out in order, and are out that were given out and did not go back. -/
structure Recorded (acts : List Act) (s : Sharing) : Prop where
  given : s.given = acts.count .acquire
  returned : ∀ lease, .release lease ∈ acts → lease < acts.count .acquire
  held : s.held = unreturned acts

theorem recorded_new : Recorded [] {} where
  given := rfl
  returned := by simp
  held := rfl

theorem nodup_unreturned (acts : List Act) : (unreturned acts).Nodup :=
  List.nodup_range.filter _

/-- A new lease is out, since it cannot have gone back before. -/
theorem unreturned_acquire {acts : List Act}
    (returned : ∀ lease, .release lease ∈ acts → lease < acts.count .acquire) :
    unreturned (acts ++ [.acquire]) = unreturned acts ++ [acts.count .acquire] := by
  have new : Act.release (acts.count .acquire) ∉ acts := fun member =>
    Nat.lt_irrefl _ (returned _ member)
  simp [unreturned, List.range_succ, List.filter_append, new]

theorem unreturned_release (acts : List Act) (lease : LeaseId) :
    unreturned (acts ++ [.release lease]) = (unreturned acts).erase lease := by
  rw [(nodup_unreturned acts).erase_eq_filter]
  simp only [unreturned, List.filter_filter]
  simp only [List.count_append, List.count_singleton, reduceCtorEq, beq_iff_eq, if_false,
    Nat.add_zero]
  refine List.filter_congr fun other _ => ?_
  by_cases same : other = lease <;> simp [same]

theorem unreturned_tearDown (acts : List Act) (job : JobId) :
    unreturned (acts ++ [.tearDown job]) = unreturned acts := by
  simp [unreturned]

/-- A lease that is given back is one that was given out. -/
theorem Recorded.given_of_held {acts : List Act} {s : Sharing} (h : s.Recorded acts)
    {lease : LeaseId} (there : lease ∈ s.held) : lease < s.given := by
  rw [h.held, unreturned, List.mem_filter, List.mem_range] at there
  rw [h.given]
  exact there.1

theorem Recorded.acquire {acts : List Act} {s s' : Sharing} (h : s.Recorded acts)
    (given : s'.given = s.given + 1) (held : s'.held = s.held ++ [s.given]) :
    s'.Recorded (acts ++ [.acquire]) where
  given := by simp [given, h.given]
  returned := by
    intro lease member
    have before := h.returned lease (by simpa using member)
    simpa using Nat.lt_succ_of_lt before
  held := by rw [held, unreturned_acquire h.returned, h.held, h.given]

theorem Recorded.release {acts : List Act} {s s' : Sharing} (h : s.Recorded acts)
    {lease : LeaseId} (was : lease < s.given) (given : s'.given = s.given)
    (held : s'.held = s.held.erase lease) : s'.Recorded (acts ++ [.release lease]) where
  given := by simp [given, h.given]
  returned := by
    intro other member
    simp only [List.mem_append, List.mem_singleton, Act.release.injEq] at member
    rcases member with before | rfl
    · simpa using h.returned other before
    · simpa [← h.given] using was
  held := by rw [held, unreturned_release, h.held]

theorem Recorded.change {acts : List Act} {s s' : Sharing} {act : Act} (h : s.Recorded acts)
    (c : Change s s' act) : s'.Recorded (acts ++ [act]) := by
  cases c with
  | starts _ _ given held | joins _ _ given held => exact h.acquire given held
  | leaves lease there _ _ given held | empties lease there _ _ given held =>
      exact h.release (h.given_of_held there) given held
  | left lease gone was same =>
      subst same
      exact h.release was rfl (List.erase_of_not_mem gone).symm
  | tearsDown job _ _ given held =>
      refine ⟨by simp [given, h.given], ?_, by rw [held, unreturned_tearDown, h.held]⟩
      intro lease member
      simpa using h.returned lease (by simpa using member)

/-- The poller counts the leases that are out, and runs a job while there are any; and no job is
lost or torn down twice. -/
structure Sound (s : Sharing) : Prop where
  counts : s.poller.subscribers = s.held.length
  running : s.poller.job.isSome = true ↔ 0 < s.poller.subscribers
  accounted : s.jobs.Perm (List.range s.started)

theorem sound_new : Sound {} where
  counts := rfl
  running := by simp
  accounted := by simp [jobs]

/-- While nobody subscribes, no job runs. -/
theorem Sound.no_job {s : Sharing} (h : s.Sound) (nobody : s.poller.subscribers = 0) :
    s.poller.job = none := by
  rw [← Option.not_isSome_iff_eq_none, h.running, nobody]
  exact Nat.lt_irrefl 0

theorem Sound.change {s s' : Sharing} {act : Act} (h : s.Sound) (c : Change s s' act) :
    s'.Sound := by
  cases c with
  | starts nobody poller _ held started leaving tornDown =>
      have empty : s.held.length = 0 := h.counts ▸ nobody
      refine ⟨by simp [poller, held, empty], by simp [poller], ?_⟩
      have before := h.accounted
      simp only [jobs, h.no_job nobody, Option.toList_none, List.append_nil] at before
      simp only [jobs, poller, started, leaving, tornDown, Option.toList_some, List.range_succ]
      exact before.append_right _
  | joins somebody poller _ held started leaving tornDown =>
      refine ⟨by simp [poller, held, h.counts], ?_, ?_⟩
      · have runs := h.running.mpr (Nat.pos_of_ne_zero somebody)
        simp [poller, runs]
      · simpa [jobs, poller, started, leaving, tornDown] using h.accounted
  | leaves lease there others poller _ held started leaving tornDown =>
      refine ⟨?_, ?_, ?_⟩
      · rw [poller, held, List.length_erase_of_mem there, h.counts]
      · have runs := h.running.mpr (Nat.lt_of_lt_of_le Nat.zero_lt_one (Nat.le_of_lt others))
        simp [poller, runs]
        omega
      · simpa [jobs, poller, started, leaving, tornDown] using h.accounted
  | empties lease there last poller _ held started leaving tornDown =>
      refine ⟨?_, by simp [poller], ?_⟩
      · have counts := h.counts
        rw [poller, held, List.length_erase_of_mem there]
        show 0 = _
        omega
      · simpa [jobs, poller, started, leaving, tornDown] using h.accounted
  | left lease _ _ same =>
      subst same
      exact h
  | tearsDown job taken poller _ held started leaving tornDown =>
      refine ⟨by rw [poller, held, h.counts], by rw [poller, h.running], ?_⟩
      have moved : (s.tornDown ++ [job] ++ s.leaving.erase job).Perm (s.tornDown ++ s.leaving) := by
        rw [List.append_assoc]
        exact (List.perm_cons_erase taken).symm.append_left _
      simp only [jobs, poller, started, leaving, tornDown]
      exact (moved.append_right _).trans h.accounted

/-- Acts one after another keep what every act keeps. -/
theorem Sound.run {before acts : List Act} {s after : Sharing} (recorded : s.Recorded before)
    (sound : s.Sound) (ran : s.run acts = some after) :
    after.Recorded (before ++ acts) ∧ after.Sound := by
  induction acts generalizing before s with
  | nil =>
      cases ran
      exact ⟨by simpa using recorded, sound⟩
  | cons act acts ih =>
      obtain ⟨next, stepped, rested⟩ := Option.bind_eq_some_iff.mp ran
      have change := change_of_step stepped
      simpa using ih (recorded.change change) (sound.change change) rested

/-- An act starts a job exactly if it brings the first subscriber. -/
theorem started_of_step {s s' : Sharing} {act : Act} (h : s.step act = some s') :
    s'.started =
      s.started + if s.poller.subscribers = 0 ∧ s'.poller.subscribers = 1 then 1 else 0 := by
  cases change_of_step h with
  | starts nobody poller _ _ started => simp [nobody, poller, started]
  | joins somebody poller _ _ started => simp [somebody, started]
  | leaves lease _ others poller _ _ started =>
      have some_before : s.poller.subscribers ≠ 0 := by omega
      simp [some_before, started]
  | empties lease _ _ poller _ _ started => simp [poller, started]
  | left lease _ _ same =>
      subst same
      simp
      omega
  | tearsDown job _ poller _ _ started =>
      simp [poller, started]
      omega

/-- Giving back a lease that is out takes one subscriber off the count, which is not yet nought; for
any other lease nothing changes. -/
theorem Sound.release {s s' : Sharing} (h : s.Sound) {lease : LeaseId}
    (released : s.step (.release lease) = some s') :
    (lease ∈ s.held → s'.poller.subscribers + 1 = s.poller.subscribers) ∧
      (lease ∉ s.held → s' = s) := by
  have counts := h.counts
  cases change_of_step released with
  | leaves _ there others poller =>
      refine ⟨fun _ => ?_, fun gone => absurd there gone⟩
      rw [poller]
      exact Nat.sub_add_cancel (Nat.le_of_lt others)
  | empties _ there last poller =>
      refine ⟨fun _ => ?_, fun gone => absurd there gone⟩
      have := List.length_pos_of_mem there
      rw [poller]
      show 0 + 1 = _
      omega
  | left _ gone _ same => exact ⟨fun there => absurd there gone, fun _ => same⟩

/-- However subscriptions to a query and its clones begin, are ended or are dropped, and however
late the teardowns run that they take with them:

* the poller counts the leases that were given out and did not go back, and giving one back never
  finds the count at nought;
* a job runs if and only if the count is positive, and one is started exactly as the count goes from
  nought to one;
* the jobs that were started are those that were torn down, those whose teardown was taken and has
  not run, and the one that runs if there is one; each is one of these, and is it once;
* so once all leases have gone back and all teardowns have run, every job has been torn down. -/
theorem jobs_follow_subscribers {acts : List Act} {s : Sharing} (ran : run {} acts = some s) :
    s.poller.subscribers = (unreturned acts).length ∧
      (∀ lease s', s.step (.release lease) = some s' →
        (lease ∈ unreturned acts → s'.poller.subscribers + 1 = s.poller.subscribers) ∧
        (lease ∉ unreturned acts → s' = s)) ∧
      (s.poller.running = true ↔ 0 < s.poller.subscribers) ∧
      (∀ act s', s.step act = some s' → s'.started = s.started +
        if s.poller.subscribers = 0 ∧ s'.poller.subscribers = 1 then 1 else 0) ∧
      s.started = s.tornDown.length + s.leaving.length + s.poller.running.toNat ∧
      s.jobs.Nodup ∧ (∀ job, job ∈ s.jobs ↔ job < s.started) ∧
      (unreturned acts = [] → s.leaving = [] → ∀ job < s.started, job ∈ s.tornDown) := by
  obtain ⟨recorded, sound⟩ := Sound.run recorded_new sound_new ran
  have held : s.held = unreturned acts := recorded.held
  have each : ∀ job, job ∈ s.jobs ↔ job < s.started := fun job => by
    rw [sound.accounted.mem_iff, List.mem_range]
  rw [← held]
  refine ⟨sound.counts, fun lease s' => sound.release, sound.running, fun act s' => started_of_step,
    ?_, sound.accounted.nodup_iff.mpr List.nodup_range, each, ?_⟩
  · have sizes := sound.accounted.length_eq
    simp only [jobs, List.length_append, List.length_range] at sizes
    rw [← sizes, Poller.running]
    cases s.poller.job <;> rfl
  · intro nobody quiet job begun
    have idle := sound.no_job (by rw [sound.counts, nobody, List.length_nil])
    have there := (each job).mpr begun
    simpa [jobs, quiet, idle] using there

/-- The second subscription begins while the job of the first, which has ended, is still to be torn
down. Its own job is torn down in turn; that the first one is dropped after it was ended does
nothing. -/
theorem jobs_overlap :
    let acts : List Act := [.acquire, .release 0, .acquire, .tearDown 0, .release 0, .release 1]
    ∃ s, run {} acts = some s ∧ unreturned acts = [] ∧ s.leaving = [1] ∧
      s.poller.subscribers = 0 ∧ s.poller.running = false ∧ s.started = 2 ∧
      ∃ s', s.step (.tearDown 1) = some s' ∧ s'.leaving = [] ∧ ∀ job < 2, job ∈ s'.tornDown := by
  intro acts
  obtain ⟨s, ran, leaving, started, s', stepped, quiet, same⟩ :
      ∃ s, run {} acts = some s ∧ s.leaving = [1] ∧ s.started = 2 ∧
        ∃ s', s.step (.tearDown 1) = some s' ∧ s'.leaving = [] ∧ s'.started = 2 :=
    ⟨_, rfl, rfl, rfl, _, rfl, rfl, rfl⟩
  have nobody : unreturned acts = [] := by decide
  obtain ⟨counts, -, running, -⟩ := jobs_follow_subscribers ran
  have none_left : s.poller.subscribers = 0 := by rw [counts, nobody, List.length_nil]
  have all_ran : run {} (acts ++ [.tearDown 1]) = some s' := by
    rw [run, List.foldlM_append]
    exact Option.bind_eq_some_iff.mpr ⟨s, ran, by simpa using stepped⟩
  obtain ⟨-, -, -, -, -, -, -, balanced⟩ := jobs_follow_subscribers all_ran
  refine ⟨s, ran, nobody, leaving, none_left, ?_, started, s', stepped, quiet, ?_⟩
  · rw [← Bool.not_eq_true, running, none_left]
    exact Nat.lt_irrefl 0
  · rw [← same]
    exact balanced (by decide) quiet

end Sharing

end Refetch
