/-
# A poll loop and its teardown

A poll loop waits for its interval to pass or for its signal to change, whichever comes first; if
both have come, either may be taken. It looks at the signal again before it ticks and after the
tick, and each stretch between two waits is one step. Meanwhile time passes, and at any point
whoever holds the teardown may call it or let go of it.

A `Polling` is a loop with the clock of the timers, the time since which it waits, and the marks of
what has happened. `lastMove` is what the loop did last. It decides what the loop can do next, and
that is all there is to the order of its ticks: one starts only after a wait that began when the
loop did or when the tick before it settled.
-/

import Mathlib.Data.List.Basic
import Refetch.Poller

namespace Refetch

/-- Something that happened to a poll loop. -/
inductive Mark where
  /-- The loop ran for the first time. -/
  | began
  /-- A tick started. -/
  | ticked
  /-- The tick settled. -/
  | settled
  /-- The teardown was called. -/
  | told
  deriving DecidableEq

/-- A poll loop in the course of time, which is counted in nanoseconds. -/
structure Polling where
  loop : PollLoop
  now : Nat
  /-- Since when the loop waits, or last waited; none before it has run. -/
  since : Option Nat := none
  /-- What has happened, and when. -/
  marks : List (Nat × Mark) := []

namespace Polling

/-- A loop that was spawned and has not run yet. -/
def spawned (interval : Duration) (now : Nat) : Polling := { loop := { interval }, now }

inductive Event where
  | pass (nanos : Nat)
  /-- The teardown is called, which uses it up. -/
  | teardown
  /-- The teardown is dropped without having been called. -/
  | forsake
  /-- The loop runs for the first time, and has nothing to look at. -/
  | begin
  /-- The loop takes it that there is something to look at. -/
  | notice
  /-- The loop takes it that its interval has passed. -/
  | expire
  /-- The tick that is running comes to its end. -/
  | settle
  deriving DecidableEq

/-- Is an event a step of the loop itself. -/
def Event.ofLoop : Event → Bool
  | .begin | .notice | .expire | .settle => true
  | .pass _ | .teardown | .forsake => false

def mark (s : Polling) (mark : Mark) : Polling := { s with marks := s.marks ++ [(s.now, mark)] }

/-- What comes of an event; `none` if it cannot happen. -/
def next (s : Polling) : Event → Option Polling
  | .pass nanos => some { s with now := s.now + nanos }
  | .teardown =>
    if s.loop.signal.closed then none else some ({ s with loop := s.loop.stop }.mark .told)
  | .forsake => if s.loop.signal.closed then none else some { s with loop := s.loop.forsake }
  | .begin =>
    if s.loop.phase = .waiting ∧ s.since = none ∧ ¬ s.loop.signal.ready then
      some ({ s with since := some s.now }.mark .began)
    else none
  | .notice =>
    if s.loop.phase = .waiting ∧ s.loop.signal.ready then
      some { s with loop := s.loop.notice, since := some s.now }
    else none
  | .expire => match s.since with
    | none => none
    | some since =>
      if s.loop.phase = .waiting ∧ since + s.loop.interval.nanos ≤ s.now then
        let s := { s with loop := s.loop.expire }
        some (if s.loop.phase = .ticking then s.mark .ticked else s)
      else none
  | .settle =>
    if s.loop.phase = .ticking then
      some ({ s with loop := s.loop.tickSettled, since := some s.now }.mark .settled)
    else none

/-- What comes of events one after another. -/
def run (s : Polling) (events : List Event) : Option Polling := events.foldlM next s

/-- What an event can do to a loop. -/
inductive Change (s s' : Polling) : Event → Prop
  | passes (nanos : Nat) (same : s' = { s with now := s.now + nanos }) : Change s s' (.pass nanos)
  | tells (unused : s.loop.signal.closed = false)
      (same : s' = { s with loop := s.loop.stop }.mark .told) : Change s s' .teardown
  | forsakes (unused : s.loop.signal.closed = false)
      (same : s' = { s with loop := s.loop.forsake }) : Change s s' .forsake
  | begins (waits : s.loop.phase = .waiting) (unbegun : s.since = none)
      (quiet : s.loop.signal.ready = false)
      (same : s' = { s with since := some s.now }.mark .began) : Change s s' .begin
  | notices (waits : s.loop.phase = .waiting) (ready : s.loop.signal.ready = true)
      (same : s' = { s with loop := s.loop.notice, since := some s.now }) : Change s s' .notice
  /-- A tick starts. -/
  | ticks (since : Nat) (waits : s.loop.phase = .waiting) (waiting : s.since = some since)
      (passed : since + s.loop.interval.nanos ≤ s.now) (untold : s.loop.signal.raised = false)
      (same : s' = { s with loop := { s.loop with phase := .ticking } }.mark .ticked) :
      Change s s' .expire
  /-- The interval has passed, but the loop was told to stop as well. -/
  | stops (waits : s.loop.phase = .waiting) (told : s.loop.signal.raised = true)
      (same : s' = { s with loop := { s.loop with phase := .ended } }) : Change s s' .expire
  | settles (runs : s.loop.phase = .ticking)
      (same : s' = { s with loop := s.loop.tickSettled, since := some s.now }.mark .settled) :
      Change s s' .settle

theorem change_of_next {s s' : Polling} {event : Event} (h : s.next event = some s') :
    Change s s' event := by
  cases event with
  | pass nanos =>
      cases h
      exact .passes nanos rfl
  | teardown =>
      simp only [next] at h
      split at h
      next => cases h
      next unused => exact .tells ((Bool.not_eq_true _).mp unused) (Option.some.inj h).symm
  | forsake =>
      simp only [next] at h
      split at h
      next => cases h
      next unused => exact .forsakes ((Bool.not_eq_true _).mp unused) (Option.some.inj h).symm
  | begin =>
      simp only [next] at h
      split at h
      next free =>
        obtain ⟨waits, unbegun, quiet⟩ := free
        exact .begins waits unbegun ((Bool.not_eq_true _).mp quiet) (Option.some.inj h).symm
      next => cases h
  | notice =>
      simp only [next] at h
      split at h
      next free => exact .notices free.1 free.2 (Option.some.inj h).symm
      next => cases h
  | expire =>
      simp only [next] at h
      split at h
      next => cases h
      next since waiting =>
        split at h
        next free =>
          obtain ⟨waits, passed⟩ := free
          cases told : s.loop.signal.raised with
          | true =>
              simp only [PollLoop.expire, waits, told, if_true, reduceCtorEq, if_false] at h
              exact .stops waits told (Option.some.inj h).symm
          | false =>
              simp only [PollLoop.expire, waits, told, if_true, Bool.false_eq_true, if_false] at h
              exact .ticks since waits waiting passed told (Option.some.inj h).symm
        next => cases h
  | settle =>
      simp only [next] at h
      split at h
      next runs => exact .settles runs (Option.some.inj h).symm
      next => cases h

/-- What the loop did last, whatever was done to it since. -/
def lastMove (marks : List (Nat × Mark)) : Option (Nat × Mark) :=
  (marks.filter (·.2 ≠ .told)).getLast?

/-- Was the loop told to stop. -/
def Told (marks : List (Nat × Mark)) : Prop := ∃ time, (time, .told) ∈ marks

@[simp]
theorem lastMove_nil : lastMove [] = none := rfl

@[simp]
theorem lastMove_concat (marks : List (Nat × Mark)) (time : Nat) (mark : Mark) :
    lastMove (marks ++ [(time, mark)]) =
      if mark = .told then lastMove marks else some (time, mark) := by
  by_cases told : mark = .told <;> simp [lastMove, List.filter_append, told]

@[simp]
theorem told_concat (marks : List (Nat × Mark)) (time : Nat) (mark : Mark) :
    Told (marks ++ [(time, mark)]) ↔ Told marks ∨ mark = .told := by
  simp only [Told, List.mem_append, List.mem_singleton, Prod.mk.injEq]
  constructor
  · rintro ⟨at_, before | ⟨-, rfl⟩⟩
    · exact Or.inl ⟨at_, before⟩
    · exact Or.inr rfl
  · rintro (⟨at_, before⟩ | rfl)
    · exact ⟨at_, Or.inl before⟩
    · exact ⟨time, Or.inr ⟨rfl, rfl⟩⟩

/-- A mark stands in its place: a tick starts only after a full wait since the loop began or the
last tick settled, and not once the loop was told to stop; and what settles is the tick that is
running. -/
def InPlace (interval : Duration) (before : List (Nat × Mark)) (time : Nat) : Mark → Prop
  | .ticked => ¬ Told before ∧ ∃ since move, lastMove before = some (since, move) ∧
      (move = .began ∨ move = .settled) ∧ since + interval.nanos ≤ time
  | .settled => ∃ start, lastMove before = some (start, .ticked)
  | .began => lastMove before = none
  | .told => ¬ Told before

/-- Every mark stands in its place. -/
def Ordered (interval : Duration) (marks : List (Nat × Mark)) : Prop :=
  ∀ before time mark after, marks = before ++ (time, mark) :: after →
    InPlace interval before time mark

theorem Ordered.concat {interval : Duration} {marks : List (Nat × Mark)}
    (h : Ordered interval marks) {time : Nat} {mark : Mark}
    (inPlace : InPlace interval marks time mark) :
    Ordered interval (marks ++ [(time, mark)]) := by
  intro before at_ other after split
  rcases List.eq_nil_or_concat after with rfl | ⟨after, last, rfl⟩
  · obtain ⟨rfl, same⟩ := List.append_inj' split rfl
    cases same
    exact inPlace
  · have split : marks ++ [(time, mark)] = (before ++ (at_, other) :: after) ++ [last] := by
      simpa using split
    exact h before at_ other after (List.append_inj' split rfl).1

/-- Where the loop stands follows from what it did last, and what it was told from its signal. -/
structure Sound (interval : Duration) (s : Polling) : Prop where
  interval_eq : s.loop.interval = interval
  ordered : Ordered interval s.marks
  told_iff : s.loop.signal.raised = true ↔ Told s.marks
  /-- Nothing is sent but to stop. -/
  news : s.loop.signal.news = true → s.loop.signal.raised = true
  /-- Whoever told the loop to stop cannot do so again. -/
  closed : s.loop.signal.raised = true → s.loop.signal.closed = true
  unbegun : s.since = none → lastMove s.marks = none
  waiting : s.loop.phase = .waiting → ∀ since, s.since = some since →
    ∃ move, lastMove s.marks = some (since, move) ∧ (move = .began ∨ move = .settled)
  ticking : s.loop.phase = .ticking → ∃ start, lastMove s.marks = some (start, .ticked)

theorem sound_spawned (interval : Duration) (now : Nat) :
    Sound interval (spawned interval now) where
  interval_eq := rfl
  ordered := by rintro before time mark after split; simp [spawned] at split
  told_iff := by simp [spawned, Told]
  news := by simp [spawned]
  closed := by simp [spawned]
  unbegun := fun _ => rfl
  waiting := by simp [spawned]
  ticking := by simp [spawned]

/-- A loop that looks at its signal has reason to end, since nothing is sent but to stop. -/
theorem Sound.notice_ended {interval : Duration} {s : Polling} (h : s.Sound interval)
    (waits : s.loop.phase = .waiting) (ready : s.loop.signal.ready = true) :
    s.loop.notice.phase = .ended := by
  have reason : s.loop.signal.raised = true ∨ ¬ s.loop.signal.news = true := by
    cases news : s.loop.signal.news with
    | true => exact Or.inl (h.news news)
    | false => exact Or.inr Bool.false_ne_true
  rw [PollLoop.notice, if_pos ⟨waits, ready⟩]
  exact if_pos reason

/-- A loop that was told to stop has something to look at. -/
theorem Sound.ready_of_told {interval : Duration} {s : Polling} (h : s.Sound interval)
    (told : Told s.marks) : s.loop.signal.ready = true := by
  simp [StopSignal.ready, h.closed (h.told_iff.mpr told)]

theorem Sound.tells {interval : Duration} {s : Polling} (h : s.Sound interval)
    (unused : s.loop.signal.closed = false) :
    ({ s with loop := s.loop.stop }.mark .told).Sound interval where
  interval_eq := h.interval_eq
  ordered := by
    apply h.ordered.concat
    intro told
    rw [h.closed (h.told_iff.mpr told)] at unused
    cases unused
  told_iff := by simp [mark, PollLoop.stop]
  news := fun _ => rfl
  closed := fun _ => rfl
  unbegun := by simpa [mark] using h.unbegun
  waiting := by simpa [mark, PollLoop.stop] using h.waiting
  ticking := by simpa [mark, PollLoop.stop] using h.ticking

theorem Sound.begins {interval : Duration} {s : Polling} (h : s.Sound interval)
    (waits : s.loop.phase = .waiting) (unbegun : s.since = none) :
    ({ s with since := some s.now }.mark .began).Sound interval where
  interval_eq := h.interval_eq
  ordered := h.ordered.concat (h.unbegun unbegun)
  told_iff := by simpa [mark] using h.told_iff
  news := h.news
  closed := h.closed
  unbegun := by simp [mark]
  waiting := by simp [mark]
  ticking := by simp [mark, waits]

theorem Sound.ticks {interval : Duration} {s : Polling} {since : Nat} (h : s.Sound interval)
    (waits : s.loop.phase = .waiting) (waiting : s.since = some since)
    (passed : since + s.loop.interval.nanos ≤ s.now) (untold : s.loop.signal.raised = false) :
    ({ s with loop := { s.loop with phase := .ticking } }.mark .ticked).Sound interval where
  interval_eq := h.interval_eq
  ordered := by
    apply h.ordered.concat
    obtain ⟨move, last, rested⟩ := h.waiting waits since waiting
    refine ⟨fun told => ?_, since, move, last, rested, h.interval_eq ▸ passed⟩
    rw [h.told_iff.mpr told] at untold
    cases untold
  told_iff := by simpa [mark] using h.told_iff
  news := h.news
  closed := h.closed
  unbegun := by simp [mark, waiting]
  waiting := by simp [mark]
  ticking := by simp [mark]

theorem Sound.settles {interval : Duration} {s : Polling} (h : s.Sound interval)
    (runs : s.loop.phase = .ticking) :
    ({ s with loop := s.loop.tickSettled, since := some s.now }.mark .settled).Sound interval := by
  have after : s.loop.tickSettled =
      { s.loop with phase := if s.loop.signal.raised then .ended else .waiting } := by
    rw [PollLoop.tickSettled, if_pos runs]
  rw [after]
  constructor
  case interval_eq => exact h.interval_eq
  case ordered => exact h.ordered.concat (h.ticking runs)
  case told_iff => simpa [mark] using h.told_iff
  case news => exact h.news
  case closed => exact h.closed
  case unbegun => simp [mark]
  case waiting => simp [mark]
  case ticking =>
    intro ticking
    simp only [mark] at ticking
    split at ticking <;> cases ticking

/-- A loop at its end stays sound whatever is left of its wait. -/
theorem Sound.ended {interval : Duration} {s s' : Polling} (h : s.Sound interval)
    (ended : s'.loop.phase = .ended) (interval_eq : s'.loop.interval = s.loop.interval)
    (raised : s'.loop.signal.raised = s.loop.signal.raised)
    (closed : s'.loop.signal.closed = s.loop.signal.closed)
    (news : s'.loop.signal.news = true → s.loop.signal.news = true)
    (marks : s'.marks = s.marks) (since : s'.since = none → s.since = none) :
    s'.Sound interval where
  interval_eq := interval_eq.trans h.interval_eq
  ordered := marks ▸ h.ordered
  told_iff := by rw [raised, marks, h.told_iff]
  news := fun fresh => raised ▸ h.news (news fresh)
  closed := by
    rw [raised, closed]
    exact h.closed
  unbegun := fun fresh => marks ▸ h.unbegun (since fresh)
  waiting := by simp [ended]
  ticking := by simp [ended]

theorem Sound.next {interval : Duration} {s s' : Polling} {event : Event} (h : s.Sound interval)
    (happened : s.next event = some s') : s'.Sound interval := by
  cases change_of_next happened with
  | passes nanos same =>
      subst same
      exact { h with }
  | tells unused same =>
      subst same
      exact h.tells unused
  | forsakes unused same =>
      subst same
      exact { h with closed := fun _ => rfl }
  | begins waits unbegun quiet same =>
      subst same
      exact h.begins waits unbegun
  | notices waits ready same =>
      subst same
      have ended := h.notice_ended waits ready
      simp only [PollLoop.notice, waits, ready, and_self, if_true] at ended ⊢
      exact h.ended ended rfl rfl rfl (by simp) rfl (by simp)
  | ticks since waits waiting passed untold same =>
      subst same
      exact h.ticks waits waiting passed untold
  | stops waits told same =>
      subst same
      exact h.ended rfl rfl rfl rfl id rfl id
  | settles runs same =>
      subst same
      exact h.settles runs

theorem Sound.run {interval : Duration} {s after : Polling} {events : List Event}
    (h : s.Sound interval) (ran : s.run events = some after) : after.Sound interval := by
  induction events generalizing s with
  | nil =>
      cases ran
      exact h
  | cons event events ih =>
      obtain ⟨next, happened, rested⟩ := Option.bind_eq_some_iff.mp ran
      exact ih (h.next happened) rested

/-- The loop is told to stop by its teardown and by nothing else. -/
theorem told_of_next {s s' : Polling} {event : Event} (happened : s.next event = some s') :
    Told s'.marks ↔ Told s.marks ∨ event = .teardown := by
  cases change_of_next happened with
  | passes _ same | tells _ same | forsakes _ same | begins _ _ _ same | notices _ _ same
  | ticks _ _ _ _ _ same | stops _ _ same | settles _ same =>
      subst same
      simp [mark]

theorem told_of_run {s after : Polling} {events : List Event} (ran : s.run events = some after) :
    Told after.marks ↔ Told s.marks ∨ .teardown ∈ events := by
  induction events generalizing s with
  | nil =>
      cases ran
      simp
  | cons event events ih =>
      obtain ⟨next, happened, rested⟩ := Option.bind_eq_some_iff.mp ran
      rw [ih rested, told_of_next happened, List.mem_cons, or_assoc, eq_comm]

/-- Nothing but its own end takes a tick out of its course. -/
theorem ticking_of_next {s s' : Polling} {event : Event} (happened : s.next event = some s')
    (runs : s.loop.phase = .ticking) (other : event ≠ .settle) : s'.loop.phase = .ticking := by
  cases change_of_next happened with
  | passes _ same | tells _ same | forsakes _ same =>
      subst same
      exact runs
  | begins waits | notices waits | ticks _ waits | stops waits =>
      rw [runs] at waits
      cases waits
  | settles => exact absurd rfl other

/-- Once the loop was told to stop, the next step that it takes is its last, and takes no time. -/
theorem Sound.last_step {interval : Duration} {s s' : Polling} {event : Event}
    (h : s.Sound interval) (told : Told s.marks) (own : event.ofLoop = true)
    (happened : s.next event = some s') : s'.loop.phase = .ended ∧ s'.now = s.now := by
  have raised := h.told_iff.mpr told
  cases change_of_next happened with
  | passes | tells | forsakes => cases own
  | begins _ _ quiet =>
      rw [h.ready_of_told told] at quiet
      cases quiet
  | notices waits ready same =>
      subst same
      exact ⟨h.notice_ended waits ready, rfl⟩
  | ticks _ _ _ _ untold =>
      rw [raised] at untold
      cases untold
  | stops _ _ same =>
      subst same
      exact ⟨rfl, rfl⟩
  | settles runs same =>
      subst same
      simp [mark, PollLoop.tickSettled, runs, raised]

/-- A loop that is at its end takes no step. -/
theorem next_of_ended {s : Polling} (ended : s.loop.phase = .ended) {event : Event}
    (own : event.ofLoop = true) : s.next event = none := by
  cases happened : s.next event with
  | none => rfl
  | some s' =>
      cases change_of_next happened with
      | passes | tells | forsakes => cases own
      | begins waits | notices waits | ticks _ waits | stops waits | settles waits =>
          rw [ended] at waits
          cases waits

/-- However time passes, ticks take their course, and whoever holds the teardown calls it or lets go
of it, and whichever of two ways a loop takes that are open to it at once:

* the loop has been told to stop if and only if the teardown was called;
* a tick starts only if the last thing that the loop did was to begin or to settle a tick, and the
  whole interval has passed since then, so that no two ticks overlap; and only if the loop has not
  been told to stop;
* a tick that runs goes on until it settles, and can settle at any time;
* once the loop has been told to stop, whatever step it takes is its last and takes no time, and it
  can take one at once if it waits, and else when its tick settles. -/
theorem ticks_follow_waits {interval : Duration} {now : Nat} {events : List Event} {s : Polling}
    (ran : (spawned interval now).run events = some s) :
    (Told s.marks ↔ .teardown ∈ events) ∧
    (∀ before time after, s.marks = before ++ (time, .ticked) :: after →
      ¬ Told before ∧ ∃ since move, lastMove before = some (since, move) ∧
        (move = .began ∨ move = .settled) ∧ since + interval.nanos ≤ time) ∧
    (s.loop.phase = .ticking → (∃ s', s.next .settle = some s') ∧
      ∀ event s', s.next event = some s' → event ≠ .settle → s'.loop.phase = .ticking) ∧
    (Told s.marks →
      (∀ event s', event.ofLoop = true → s.next event = some s' →
        s'.loop.phase = .ended ∧ s'.now = s.now ∧
          ∀ other, other.ofLoop = true → s'.next other = none) ∧
      (s.loop.phase = .waiting → ∃ s', s.next .notice = some s') ∧
      (s.loop.phase = .ticking → ∃ s', s.next .settle = some s')) := by
  have sound := (sound_spawned interval now).run ran
  have settles : s.loop.phase = .ticking → ∃ s', s.next .settle = some s' :=
    fun runs => ⟨_, if_pos runs⟩
  refine ⟨?_, fun before time after split => sound.ordered before time .ticked after split, ?_, ?_⟩
  · rw [told_of_run ran]
    simp [Told, spawned]
  · intro runs
    exact ⟨settles runs, fun event s' happened other => ticking_of_next happened runs other⟩
  · intro told
    refine ⟨?_, fun waits => ⟨_, if_pos ⟨waits, sound.ready_of_told told⟩⟩, settles⟩
    intro event s' own happened
    obtain ⟨ended, same⟩ := sound.last_step told own happened
    exact ⟨ended, same, fun other => next_of_ended ended⟩

/-- The teardown is called at the very time at which the interval passes. Whether the loop takes it
that the time has come or that there is something to look at, it ends there. -/
theorem teardown_at_expiry :
    ∃ s, (spawned (.ofMillis 100) 0).run [.begin, .pass 100000000, .teardown] = some s ∧
      Told s.marks ∧ ∀ event ∈ [Event.expire, .notice], ∃ s', s.next event = some s' ∧
        s'.loop.phase = .ended ∧ s'.now = 100000000 ∧ s'.marks = s.marks := by
  obtain ⟨s, ran, marks, now, expired, noticed⟩ :
      ∃ s, (spawned (.ofMillis 100) 0).run [.begin, .pass 100000000, .teardown] = some s ∧
        s.marks = [(0, .began), (100000000, .told)] ∧ s.now = 100000000 ∧
        (∃ s', s.next .expire = some s' ∧ s'.marks = s.marks) ∧
        ∃ s', s.next .notice = some s' ∧ s'.marks = s.marks :=
    ⟨_, rfl, rfl, rfl, ⟨_, rfl, rfl⟩, _, rfl, rfl⟩
  have told : Told s.marks := ⟨100000000, by simp [marks]⟩
  have last := ((ticks_follow_waits ran).2.2.2 told).1
  refine ⟨s, ran, told, ?_⟩
  rintro event member
  rcases List.mem_pair.mp member with rfl | rfl
  · obtain ⟨s', happened, same⟩ := expired
    obtain ⟨ended, still, -⟩ := last .expire s' rfl happened
    exact ⟨s', happened, ended, still.trans now, same⟩
  · obtain ⟨s', happened, same⟩ := noticed
    obtain ⟨ended, still, -⟩ := last .notice s' rfl happened
    exact ⟨s', happened, ended, still.trans now, same⟩

end Polling

end Refetch
