/-
# A cancelled revalidation leaves no trace

A leader that is dropped takes its fetch back, but the entry does not get back the revalidation time
that it had: it is left without one. No caller that comes later can tell the difference. The old
time was out of date when the fetch began, so it is out of date for whoever asks with the same
window from then on, and whoever comes by another way does not look at it. What remains different
are the numbers under which fetches and callers are told apart. `Resembles` says that one life is
like another but for these; it is kept by every act.
-/

import Mathlib.Data.List.Basic
import Mathlib.Data.List.Count
import Refetch.Proofs.Entry.Staleness

namespace Refetch

namespace Entry

/-- An act in a life in which more fetches have begun. -/
def Act.renumber (more : Nat) : Act → Act
  | .settle fetch result => .settle (fetch + more) result
  | .drop fetch => .drop (fetch + more)
  | act => act

/-- What is told in a life in which more callers have joined. -/
def Told.renumber (more : Nat) : Told → Told
  | .ticket (.follower waiter) => .ticket (.follower (waiter + more))
  | .waiting (.queued waiter) => .waiting (.queued (waiter + more))
  | told => told

/-- Whoever asks in such a life is told to join or not, as in the other. -/
theorem Told.joined_renumber (more : Nat) (told : Told) :
    (told.renumber more).joined = told.joined.map (· + more) := by
  cases told with
  | nothing => rfl
  | ticket ticket => cases ticket <;> rfl
  | waiting waiting => cases waiting <;> rfl

/-- Does the caller of an act ask for a fetch or for its outcome. -/
def Act.Asks : Act → Prop
  | .begin .. | .wait => True
  | _ => False

/-- A caller that asks whether the entry is fresh does so with a window no wider than the given one,
and not before the given time. All other acts are admitted. -/
def Act.NoWider (window : Int) (start : Instant) : Act → Prop
  | .begin (some asked) now => asked ≤ window ∧ 0 ≤ now.since start
  | _ => True

/-- A revalidation time is out of date for a window, from a point in time on. -/
def Expired (stamp : Option Instant) (window : Int) (start : Instant) : Prop :=
  ∀ now, 0 ≤ now.since start → ¬ FreshAt stamp window now

/-- What is out of date stays out of date. -/
theorem expired_of_not_fresh {stamp : Option Instant} {window : Int} {start : Instant}
    (stale : ¬ FreshAt stamp window start) : Expired stamp window start := by
  intro now later fresh
  obtain ⟨last, stamped, within⟩ := fresh
  apply stale
  refine ⟨last, stamped, ?_⟩
  unfold Instant.since at later within ⊢
  omega

theorem Expired.not_fresh {stamp : Option Instant} {window asked : Int} {start now : Instant}
    (h : Expired stamp window start) (narrow : asked ≤ window) (later : 0 ≤ now.since start) :
    ¬ FreshAt stamp asked now := by
  intro fresh
  obtain ⟨last, stamped, within⟩ := fresh
  exact h now later ⟨last, stamped, Int.le_trans within narrow⟩

/-- One entry is like another to which more callers have come. The first may have a revalidation
time that is out of date where the second has none. -/
structure Resembles (window : Int) (start : Instant) (more : Nat) (e e' : Entry) : Prop where
  key : e'.key = e.key
  data : e'.data = e.data
  error : e'.error = e.error
  waiters : e'.waiters = e.waiters.map (·.map (· + more))
  joined : e'.joined = e.joined + more
  stamp : e'.revalidatedAt = e.revalidatedAt ∨
    e'.revalidatedAt = none ∧ Expired e.revalidatedAt window start

section

variable {window : Int} {start : Instant} {more : Nat} {e e' : Entry}

theorem Resembles.snapshot (h : Resembles window start more e e') : e'.snapshot = e.snapshot := by
  simp [Entry.snapshot, loading, h.data, h.error, h.waiters]

theorem Resembles.queue (h : Resembles window start more e e') :
    e'.waiters.getD [] = (e.waiters.getD []).map (· + more) := by
  rw [h.waiters]
  cases e.waiters <;> rfl

/-- Both entries are fresh or neither is, for a caller that asks with no wider window from the
start on. -/
theorem Resembles.fresh (h : Resembles window start more e e') {asked : Option Int}
    {now : Instant} (admitted : (Act.begin asked now).NoWider window start) :
    asked.any (e'.freshWithin · now) = asked.any (e.freshWithin · now) := by
  cases asked with
  | none => rfl
  | some asked =>
      rw [Option.any_some, Option.any_some, Bool.eq_iff_iff, freshWithin_iff, freshWithin_iff]
      rcases h.stamp with same | ⟨gone, expired⟩
      · rw [same]
      · have unstamped : ¬ FreshAt e'.revalidatedAt asked now := by
          rw [gone]
          intro fresh
          cases fresh.choose_spec.1
        exact iff_of_false unstamped (expired.not_fresh admitted.1 admitted.2)

theorem Resembles.join (h : Resembles window start more e e') (queue : List WaiterId) :
    Resembles window start more (e.join queue).1 (e'.join (queue.map (· + more))).1 where
  key := h.key
  data := h.data
  error := h.error
  waiters := by simp [Entry.join, h.joined]
  joined := by simp only [Entry.join, h.joined, Nat.add_right_comm]
  stamp := h.stamp

/-- From here on the two entries have the same revalidation time. -/
theorem Resembles.stamped (h : Resembles window start more e e') (stamp : Option Instant)
    (waiters : Option (List WaiterId)) :
    Resembles window start more { e with revalidatedAt := stamp, waiters }
      { e' with revalidatedAt := stamp, waiters := waiters.map (·.map (· + more)) } where
  key := h.key
  data := h.data
  error := h.error
  waiters := rfl
  joined := h.joined
  stamp := Or.inl rfl

theorem Resembles.begin (h : Resembles window start more e e') {asked : Option Int}
    {now : Instant} (admitted : (Act.begin asked now).NoWider window start) :
    Resembles window start more (e.begin asked now).1 (e'.begin asked now).1 ∧
      Told.ticket (e'.begin asked now).2 = (Told.ticket (e.begin asked now).2).renumber more := by
  have waiters := h.waiters
  cases flying : e.waiters with
  | some queue =>
      rw [flying] at waiters
      rw [begin_of_waiters flying, begin_of_waiters waiters, h.joined]
      exact ⟨h.join queue, rfl⟩
  | none =>
      rw [flying] at waiters
      have same := h.fresh admitted
      cases fresh : asked.any (e.freshWithin · now) with
      | true =>
          rw [begin_of_fresh flying fresh, begin_of_fresh waiters (same.trans fresh)]
          exact ⟨h, rfl⟩
      | false =>
          rw [begin_of_stale flying fresh, begin_of_stale waiters (same.trans fresh)]
          exact ⟨h.stamped (some now) (some []), rfl⟩

theorem Resembles.wait (h : Resembles window start more e e') :
    Resembles window start more e.wait.1 e'.wait.1 ∧
      Told.waiting e'.wait.2 = (Told.waiting e.wait.2).renumber more := by
  have waiters := h.waiters
  cases flying : e.waiters with
  | some queue =>
      rw [flying] at waiters
      rw [wait_of_waiters flying, wait_of_waiters waiters, h.joined]
      exact ⟨h.join queue, rfl⟩
  | none =>
      rw [flying] at waiters
      rw [wait_of_no_waiters flying, wait_of_no_waiters waiters, h.data]
      exact ⟨h, rfl⟩

theorem Resembles.settle (h : Resembles window start more e e') (result : FetchResult Json) :
    Resembles window start more (e.settle result).1 (e'.settle result).1 := by
  cases result with
  | ok value => exact ⟨h.key, rfl, rfl, rfl, h.joined, h.stamp⟩
  | error error => exact ⟨h.key, h.data, rfl, rfl, h.joined, h.stamp⟩

end

section

variable {α β α' β' : Type} {R : α → β → Prop} {S : α' → β' → Prop} {x : Option α} {y : Option β}

theorem rel_bind {f : α → Option α'} {g : β → Option β'} (h : Option.Rel R x y)
    (next : ∀ a b, R a b → Option.Rel S (f a) (g b)) : Option.Rel S (x.bind f) (y.bind g) := by
  cases h with
  | none => exact .none
  | some both => exact next _ _ both

theorem rel_map {f : α → α'} {g : β → β'} (h : Option.Rel R x y)
    (next : ∀ a b, R a b → S (f a) (g b)) : Option.Rel S (x.map f) (y.map g) := by
  cases h with
  | none => exact .none
  | some both => exact .some (next _ _ both)

/-- What is known of the one outcome may be used for the relation. -/
theorem rel_imp {R' : α → β → Prop} (h : Option.Rel R x y)
    (imp : ∀ a b, x = some a → R a b → R' a b) : Option.Rel R' x y := by
  cases h with
  | none => exact .none
  | some both => exact .some (imp _ _ rfl both)

end

namespace Life

/-- The same life with other callers behind the fetch in flight. -/
def withQueue (s : Life) (queue : List WaiterId) (joined : Nat) : Life :=
  { s with entry := { s.entry with waiters := some queue, joined } }

/-- Whoever asks while a fetch is in flight joins the queue and changes nothing else. -/
theorem step_of_asks {s : Life} {act : Act} {queue : List WaiterId} (asks : act.Asks)
    (flying : s.entry.waiters = some queue) :
    ∃ told, s.step act =
        some (s.withQueue (queue ++ [s.entry.joined]) (s.entry.joined + 1), told) ∧
      told.joined = some s.entry.joined := by
  cases act with
  | begin window now =>
      refine ⟨.ticket (.follower s.entry.joined), ?_, rfl⟩
      simp only [step, begin_of_waiters flying, join, withQueue]
  | wait =>
      refine ⟨.waiting (.queued s.entry.joined), ?_, rfl⟩
      simp only [step, wait_of_waiters flying, join, withQueue]
  | set | invalidate | subscribe | unsubscribe | settle | drop => cases asks

/-- Callers that ask one after the other stand in the queue in this order. -/
theorem run_of_asks {s : Life} {joins : List Act} {queue : List WaiterId}
    (asks : ∀ act ∈ joins, act.Asks) (flying : s.entry.waiters = some queue) :
    ∃ told, s.run joins = some (s.withQueue
        (queue ++ List.range' s.entry.joined joins.length) (s.entry.joined + joins.length), told) ∧
      told.map Told.joined = (List.range' s.entry.joined joins.length).map some := by
  induction joins generalizing s queue with
  | nil => exact ⟨[], by simp [run, withQueue, ← flying], rfl⟩
  | cons act rest ih =>
      obtain ⟨first, others⟩ := List.forall_mem_cons.mp asks
      obtain ⟨told, stepped, joined⟩ := step_of_asks first flying
      obtain ⟨toldRest, ran, numbers⟩ := ih others
        (s := s.withQueue (queue ++ [s.entry.joined]) (s.entry.joined + 1)) rfl
      refine ⟨told :: toldRest, ?_, ?_⟩
      · rw [run_cons_of_step stepped, ran]
        simp [withQueue, List.range'_succ, Nat.add_assoc, Nat.add_comm 1]
      · rw [List.map_cons, joined, numbers, List.length_cons, List.range'_succ, List.map_cons]
        rfl

/-- One life is like another in which one fetch more has begun and more callers have joined. Callers
that joined under the number `first` or a later one have been sent the same outcomes. -/
structure Resembles (window : Int) (start : Instant) (first more : Nat) (s s' : Life) : Prop where
  entry : s.entry.Resembles window start more s'.entry
  led : s'.led = s.led.map (· + 1)
  begun : s'.begun = s.begun + 1
  outcomes : ∀ waiter, first ≤ waiter → s'.outcomesOf (waiter + more) = s.outcomesOf waiter

/-- What callers are told in two lives, one of which resembles the other. -/
def Alike (window : Int) (start : Instant) (first more : Nat) (x y : Life × Told) : Prop :=
  Resembles window start first more x.1 y.1 ∧ y.2 = x.2.renumber more

variable {window : Int} {start : Instant} {first more : Nat} {s s' : Life}

/-- An act that touches neither leaders nor outcomes. -/
theorem Resembles.put (h : Resembles window start first more s s') {e e' : Entry}
    (entry : e.Resembles window start more e') :
    Resembles window start first more { s with entry := e } { s' with entry := e' } :=
  ⟨entry, h.led, h.begun, h.outcomes⟩

theorem Resembles.mem_led (h : Resembles window start first more s s') (fetch : FetchId) :
    fetch + 1 ∈ s'.led ↔ fetch ∈ s.led := by
  rw [h.led]
  exact List.mem_map_of_injective fun _ _ => Nat.add_right_cancel

/-- A fetch that ends in both lives sends the same to the callers behind it. -/
theorem Resembles.finish (h : Resembles window start first more s s') (fetch : FetchId)
    {after after' : Entry × List WaiterId} (outcome : FetchResult Json)
    (entry : after.1.Resembles window start more after'.1)
    (owed : after.2 = s.queue) (owed' : after'.2 = s'.queue) :
    Resembles window start first more (s.finish fetch after outcome)
      (s'.finish (fetch + 1) after' outcome) where
  entry := entry
  led := by
    simp only [Life.finish, h.led]
    exact (List.map_erase (fun _ _ => Nat.add_right_cancel) s.led).symm
  begun := h.begun
  outcomes := by
    intro waiter late
    have sent : (s.finish fetch after outcome).sent = s.sent ++ s.queue.map (·, outcome) := by
      rw [Life.finish, owed]
    have sent' : (s'.finish (fetch + 1) after' outcome).sent =
        s'.sent ++ s'.queue.map (·, outcome) := by
      rw [Life.finish, owed']
    have queue : s'.queue = s.queue.map (· + more) := h.entry.queue
    rw [outcomesOf_append_map sent, outcomesOf_append_map sent', h.outcomes waiter late, queue,
      List.count_map_of_injective _ _ fun _ _ => Nat.add_right_cancel]

/-- Every act is possible in both lives or in neither, tells its caller the same, and leaves lives
that resemble each other. -/
theorem Resembles.step (h : Resembles window start first more s s') {act : Act}
    (admitted : act.NoWider window start) :
    Option.Rel (Alike window start first more) (s.step act) (s'.step (act.renumber 1)) := by
  cases act with
  | begin asked now =>
      obtain ⟨entry, told⟩ := h.entry.begin admitted
      simp only [Act.renumber, Life.step]
      generalize s.entry.begin asked now = asks at entry told
      generalize s'.entry.begin asked now = asks' at entry told
      obtain ⟨e, ticket⟩ := asks
      obtain ⟨e', ticket'⟩ := asks'
      cases ticket with
      | leader =>
          cases told
          exact .some ⟨⟨entry, by simp [h.led, h.begun], by simp [h.begun], h.outcomes⟩, rfl⟩
      | follower waiter =>
          cases told
          exact .some ⟨h.put entry, rfl⟩
      | fresh =>
          cases told
          exact .some ⟨h.put entry, rfl⟩
  | wait =>
      obtain ⟨entry, told⟩ := h.entry.wait
      exact .some ⟨h.put entry, told⟩
  | set value now =>
      have entry := h.entry
      exact .some ⟨h.put ⟨entry.key, rfl, rfl, entry.waiters, entry.joined, Or.inl rfl⟩, rfl⟩
  | invalidate =>
      have entry := h.entry
      exact .some ⟨h.put ⟨entry.key, entry.data, entry.error, entry.waiters, entry.joined,
        Or.inl rfl⟩, rfl⟩
  | subscribe | unsubscribe _ =>
      have entry := h.entry
      exact .some ⟨h.put ⟨entry.key, entry.data, entry.error, entry.waiters, entry.joined,
        entry.stamp⟩, rfl⟩
  | settle fetch result =>
      simp only [Act.renumber, Life.step, h.mem_led]
      split
      · exact .some ⟨h.finish fetch result (h.entry.settle result) (settle_snd result)
          (settle_snd result), rfl⟩
      · exact .none
  | drop fetch =>
      simp only [Act.renumber, Life.step, h.mem_led, h.entry.key]
      split
      · exact .some ⟨h.finish fetch _ (h.entry.stamped none none) rfl rfl, rfl⟩
      · exact .none

theorem Resembles.run (h : Resembles window start first more s s') {acts : List Act}
    (admitted : ∀ act ∈ acts, act.NoWider window start) :
    Option.Rel (fun x y => Resembles window start first more x.1 y.1 ∧
      y.2 = x.2.map (Told.renumber more)) (s.run acts) (s'.run (acts.map (Act.renumber 1))) := by
  induction acts generalizing s s' with
  | nil => exact .some ⟨h, rfl⟩
  | cons act acts ih =>
      obtain ⟨now, later⟩ := List.forall_mem_cons.mp admitted
      rw [List.map_cons, Life.run, Life.run]
      apply rel_bind (h.step now)
      intro a b both
      apply rel_map (ih both.1 later)
      intro rest rest' rested
      exact ⟨rested.1, by simp only [both.2, rested.2, List.map_cons]⟩

/-- Callers that join in a run get numbers that were not given before. -/
theorem le_joined_of_run {after : Life} {acts : List Act} {told : List Told}
    (ran : s.run acts = some (after, told)) :
    ∀ t ∈ told, ∀ waiter, t.joined = some waiter → s.entry.joined ≤ waiter := by
  induction acts generalizing s told with
  | nil =>
      cases ran
      exact fun t member => absurd member List.not_mem_nil
  | cons act acts ih =>
      obtain ⟨s', first, rest, stepped, rested, rfl⟩ := run_cons ran
      have change := (change_of_step stepped).1
      generalize act.ending = ending at change
      intro t member waiter joined
      rcases List.mem_cons.mp member with rfl | later
      · rw [joined] at change
        cases change
        exact Nat.le_refl _
      · exact Nat.le_trans change.joined_le.1 (ih rested t later waiter joined)

theorem answerOf_renumber (told : Told) : answerOf (told.renumber more) = answerOf told := by
  cases told with
  | nothing => rfl
  | ticket ticket => cases ticket <;> rfl
  | waiting waiting => cases waiting <;> rfl

/-- Callers that have joined late get the same answers in both lives. -/
theorem Resembles.answers (h : Resembles window start first more s s') {told : Told}
    (late : ∀ waiter, told.joined = some waiter → first ≤ waiter) :
    s'.answers (told.renumber more) = s.answers told := by
  rw [Life.answers, Life.answers, Told.joined_renumber, answerOf_renumber]
  cases joined : told.joined with
  | none => rfl
  | some waiter => simp only [Option.map_some, Option.getD_some, h.outcomes waiter (late _ joined)]

/-- What the callers of two runs see: the same state and, but for their numbers, the same tickets
and the same answers. -/
def SeenAlike (more : Nat) (x y : Life × List Told) : Prop :=
  y.1.entry.snapshot = x.1.entry.snapshot ∧ y.2 = x.2.map (Told.renumber more) ∧
    ∀ told ∈ x.2, y.1.answers (told.renumber more) = x.1.answers told

theorem Resembles.seen (h : Resembles window start s.entry.joined more s s') {acts : List Act}
    (admitted : ∀ act ∈ acts, act.NoWider window start) :
    Option.Rel (SeenAlike more) (s.run acts) (s'.run (acts.map (Act.renumber 1))) := by
  apply rel_imp (h.run admitted)
  intro a b ran alike
  obtain ⟨resembles, told⟩ := alike
  refine ⟨resembles.entry.snapshot, told, ?_⟩
  intro t member
  exact resembles.answers (le_joined_of_run ran t member)

/-- The life of an entry after a fetch of it was begun at `now` and taken back, while others
joined it. -/
def takenBack (s : Life) (joins : Nat) : Life :=
  let callers := List.range' s.entry.joined joins
  { s with
    entry :=
      { s.entry with revalidatedAt := none, waiters := none, joined := s.entry.joined + joins }
    begun := s.begun + 1
    sent := s.sent ++ callers.map (·, .error (.cancelled s.entry.key)) }

/-- A number that was not given yet is nobody's. -/
theorem Sound.outcomesOf_of_le (h : s.Sound) {waiter : WaiterId}
    (late : s.entry.joined ≤ waiter) : s.outcomesOf waiter = [] := by
  apply outcomesOf_eq_nil
  intro p member same
  exact Nat.not_lt.mpr late (same ▸ h.sent p member)

/-- Whoever joined the fetch that was taken back was told that it was cancelled, and nobody else
was told anything. -/
theorem Sound.outcomesOf_takenBack (h : s.Sound) (joins : Nat) {waiter : WaiterId}
    (late : s.entry.joined ≤ waiter) :
    (s.takenBack joins).outcomesOf waiter =
      if waiter < s.entry.joined + joins then [.error (.cancelled s.entry.key)] else [] := by
  have once : (List.range' s.entry.joined joins).Nodup := List.nodup_range'
  have sent : (s.takenBack joins).sent = s.sent ++
      (List.range' s.entry.joined joins).map (·, .error (.cancelled s.entry.key)) := rfl
  rw [outcomesOf_append_map sent, h.outcomesOf_of_le late, once.count]
  by_cases inside : waiter < s.entry.joined + joins <;> simp [List.mem_range'_1, late, inside]

/-- An entry whose fetch was taken back resembles the one whose fetch never began, if the
revalidation time was out of date. -/
theorem Sound.resembles_takenBack (h : s.Sound) (idle : s.entry.waiters = none)
    (stale : ¬ FreshAt s.entry.revalidatedAt window start) (joins : Nat) :
    Resembles window start s.entry.joined joins s (s.takenBack joins) where
  entry :=
    { key := rfl, data := rfl, error := rfl, joined := rfl
      waiters := by rw [idle]; rfl
      stamp := Or.inr ⟨rfl, expired_of_not_fresh stale⟩ }
  led := by simp [takenBack, h.led_of_no_waiters idle]
  begun := rfl
  outcomes := by
    intro waiter late
    rw [h.outcomesOf_takenBack joins (Nat.le_add_right_of_le late),
      if_neg (Nat.not_lt.mpr (Nat.add_le_add_right late joins)), h.outcomesOf_of_le late]

/-- A leader that begins, is joined by others and is dropped takes its fetch back. -/
theorem Sound.run_takenBack (h : s.Sound) {now : Instant} {joins : List Act}
    (leads : (s.entry.begin (some window) now).2 = .leader) (asks : ∀ act ∈ joins, act.Asks) :
    ∃ began told joined, s.step (.begin (some window) now) = some (began, .ticket .leader) ∧
      began.run joins = some (joined, told) ∧
      joined.step (.drop s.begun) = some (s.takenBack joins.length, .nothing) ∧
      told.map Told.joined = (List.range' s.entry.joined joins.length).map some := by
  obtain ⟨idle, stale⟩ := begin_eq_leader_iff.mp leads
  let began : Life :=
    { s with entry := { s.entry with revalidatedAt := some now, waiters := some [] }
             begun := s.begun + 1, led := s.led ++ [s.begun] }
  have begins : s.step (.begin (some window) now) = some (began, .ticket .leader) := by
    simp only [step, begin_of_stale idle stale]
    rfl
  obtain ⟨told, ran, numbers⟩ := run_of_asks (s := began) asks rfl
  refine ⟨began, told, _, begins, ran, ?_, numbers⟩
  have unled : s.led = [] := h.led_of_no_waiters idle
  simp [step, withQueue, began, unled, Life.finish, abandon, takenBack]

/-- Let a caller lead a fetch that it asked for at `now` because the entry was out of date for its
window, let others join it, and let the leader be dropped. Then everybody who joined is told, and
that once, that the fetch was cancelled; the entry has the data and the error that it had, and is
not loading; and whoever comes later, asking for freshness with no wider window and not before
`now`, cannot tell the entry from one of which that fetch never began: every sequence of acts is
possible for both or for neither, and shows the same states, the same tickets and the same
answers. -/
theorem cancelled_revalidation_leaves_no_trace {key baseKey : String} {acts joins : List Act}
    {s : Life} {told : List Told} {window : Int} {now : Instant}
    (ran : (born key baseKey).run acts = some (s, told))
    (leads : (s.entry.begin (some window) now).2 = .leader)
    (asks : ∀ act ∈ joins, act.Asks) :
    ∃ began joined dropped toldJoins,
      s.step (.begin (some window) now) = some (began, .ticket .leader) ∧
      began.run joins = some (joined, toldJoins) ∧
      joined.step (.drop s.begun) = some (dropped, .nothing) ∧
      (∀ t ∈ toldJoins, ∃ waiter answer, t.joined = some waiter ∧
        dropped.outcomesOf waiter = [.error (.cancelled key)] ∧
        Brings key t .dropped answer ∧ dropped.answers t = [answer]) ∧
      dropped.entry.snapshot = s.entry.snapshot ∧ dropped.entry.loading = false ∧
      ∀ later : List Act, (∀ act ∈ later, act.NoWider window now) →
        Option.Rel (SeenAlike joins.length) (s.run later)
          (dropped.run (later.map (Act.renumber 1))) := by
  obtain ⟨sound, sameKey⟩ := (sound_born key baseKey).run ran
  obtain ⟨idle, stale⟩ := begin_eq_leader_iff.mp leads
  obtain ⟨began, toldJoins, joined, begins, joinsRun, drops, numbers⟩ :=
    sound.run_takenBack leads asks
  have out_of_date : ¬ FreshAt s.entry.revalidatedAt window now := by
    rw [← freshWithin_iff]
    simpa using stale
  have resembles := sound.resembles_takenBack idle out_of_date joins.length
  refine ⟨began, joined, _, toldJoins, begins, joinsRun, drops, ?_,
    resembles.entry.snapshot, rfl, fun later admitted => resembles.seen admitted⟩
  intro t member
  obtain ⟨waiter, inside, same⟩ : ∃ waiter ∈ List.range' s.entry.joined joins.length,
      some waiter = t.joined := by
    rw [← List.mem_map, ← numbers]
    exact List.mem_map_of_mem member
  obtain ⟨late, before⟩ := List.mem_range'_1.mp inside
  have sent : (s.takenBack joins.length).outcomesOf waiter =
      [Ending.dropped.outcome s.entry.key] := by
    rw [sound.outcomesOf_takenBack joins.length late, if_pos before, Ending.outcome]
  rw [sameKey] at sent
  obtain ⟨answer, brings, got⟩ := brings_of_outcomesOf same.symm sent
  exact ⟨waiter, answer, same.symm, sent, brings, got⟩

/-- An old value is fetched again, two callers join, and the leader is dropped. Both are told so.
The entry has lost its revalidation time, but a caller that asks with the same window afterwards
leads a fetch, as it would have done without all this, and whoever waits then is told what this
fetch brings. -/
theorem revalidation_after_cancelled_one :
    let s : Life := { entry :=
      { key := "/apps", baseKey := "/apps", data := some (.str "old"), revalidatedAt := some ⟨0⟩ } }
    let joins : List Act := [.wait, .begin none ⟨6⟩]
    let later : List Act := [.begin (some 2) ⟨7⟩, .wait, .settle 0 (.ok (.str "new"))]
    ∃ told began joined dropped toldJoins,
      (born "/apps" "/apps").run [.set (.str "old") ⟨0⟩] = some (s, told) ∧
      s.step (.begin (some 2) ⟨5⟩) = some (began, .ticket .leader) ∧
      began.run joins = some (joined, toldJoins) ∧
      joined.step (.drop 0) = some (dropped, .nothing) ∧
      toldJoins = [.waiting (.queued 0), .ticket (.follower 1)] ∧
      dropped.outcomesOf 0 = [.error (.cancelled "/apps")] ∧
      dropped.answers (.waiting (.queued 0)) = [.data (.error (.cancelled "/apps"))] ∧
      dropped.outcomesOf 1 = [.error (.cancelled "/apps")] ∧
      dropped.answers (.ticket (.follower 1)) = [.value (.error (.cancelled "/apps"))] ∧
      dropped.entry.revalidatedAt = none ∧
      Option.Rel (SeenAlike 2) (s.run later) (dropped.run (later.map (Act.renumber 1))) ∧
      (s.run later).isSome = true := by
  intro s joins later
  obtain ⟨told, ran⟩ : ∃ told, (born "/apps" "/apps").run [.set (.str "old") ⟨0⟩] =
    some (s, told) := ⟨_, rfl⟩
  have leads : (s.entry.begin (some 2) ⟨5⟩).2 = .leader := rfl
  have asks : ∀ act ∈ joins, act.Asks := by simp [joins, Act.Asks]
  have admitted : ∀ act ∈ later, act.NoWider 2 ⟨5⟩ := by
    simp [later, Act.NoWider, Instant.since]
  obtain ⟨began, joined, dropped, toldJoins, begins, joinsRun, drops, cancelled, -, -, alike⟩ :=
    cancelled_revalidation_leaves_no_trace ran leads asks
  have untimed : dropped.entry.revalidatedAt = none := by
    cases begins
    cases joinsRun
    cases drops
    rfl
  have tickets : toldJoins = [.waiting (.queued 0), .ticket (.follower 1)] := by
    cases begins
    cases joinsRun
    rfl
  rw [tickets, List.forall_mem_cons, List.forall_mem_singleton] at cancelled
  obtain ⟨⟨_, _, first, sent₀, brings₀, got₀⟩, _, _, second, sent₁, brings₁, got₁⟩ := cancelled
  cases first
  cases brings₀
  cases second
  cases brings₁
  exact ⟨told, began, joined, dropped, toldJoins, ran, begins, joinsRun, drops, tickets, sent₀,
    got₀, sent₁, got₁, untimed, alike later admitted, rfl⟩

end Life

end Entry

end Refetch
