/-
# Every caller gets the outcome of the fetch it joined

A caller that joins a fetch waits in the queue of the entry, where nothing tells it which fetch it
is behind. It need not be told: while a queue is open exactly one fetch is led, and the queue is
closed and served by the act that ends this fetch. So a caller is in one of two states for the rest
of the life of the entry. It `Waits` for the fetch it joined, or it was `Served`, once and for all,
with the outcome of that fetch.
-/

import Refetch.Proofs.Entry.Life

namespace Refetch

namespace Entry

namespace Life

/-- A queue is open exactly while a fetch is led, and then by one leader; a caller stands in it
once; and numbers that were not given out yet are in no use. -/
structure Sound (s : Life) : Prop where
  flight : (s.entry.waiters = none ∧ s.led = []) ∨
    ∃ queue fetch, s.entry.waiters = some queue ∧ s.led = [fetch]
  begun : ∀ fetch ∈ s.led, fetch < s.begun
  queued : ∀ waiter ∈ s.queue, waiter < s.entry.joined
  once : s.queue.Nodup
  sent : ∀ p ∈ s.sent, p.1 < s.entry.joined

theorem sound_born (key baseKey : String) : (born key baseKey).Sound where
  flight := Or.inl ⟨rfl, rfl⟩
  begun := by simp [born]
  queued := by simp [born, queue]
  once := by simp [born, queue]
  sent := by simp [born]

theorem Sound.led_of_mem {s : Life} (h : s.Sound) {fetch : FetchId} (leading : fetch ∈ s.led) :
    s.led = [fetch] := by
  rcases h.flight with ⟨-, none_led⟩ | ⟨-, other, -, led⟩
  · rw [none_led] at leading
    cases leading
  · rw [led, List.mem_singleton] at leading
    rw [led, leading]

theorem Sound.led_of_waiters {s : Life} (h : s.Sound) {queue : List WaiterId}
    (flying : s.entry.waiters = some queue) : ∃ fetch, s.led = [fetch] := by
  rcases h.flight with ⟨idle, -⟩ | ⟨-, fetch, -, led⟩
  · rw [idle] at flying
    cases flying
  · exact ⟨fetch, led⟩

theorem Sound.led_of_no_waiters {s : Life} (h : s.Sound) (idle : s.entry.waiters = none) :
    s.led = [] := by
  rcases h.flight with ⟨-, led⟩ | ⟨queue, -, flying, -⟩
  · exact led
  · rw [idle] at flying
    cases flying

/-- The entry is loading exactly while a fetch is led. -/
theorem Sound.loading_iff {s : Life} (h : s.Sound) : s.entry.loading = true ↔ s.led ≠ [] := by
  unfold Entry.loading
  rcases h.flight with ⟨idle, led⟩ | ⟨queue, fetch, flying, led⟩
  · simp [idle, led]
  · simp [flying, led]

theorem Sound.change {s s' : Life} {joined : Option WaiterId}
    {ending : Option (FetchId × Ending)} (h : s.Sound) (c : Change s s' joined ending) :
    s'.Sound := by
  cases c with
  | keeps waiters joined begun led sent =>
      exact ⟨by rw [waiters, led]; exact h.flight, by rw [led, begun]; exact h.begun,
        by rw [queue, waiters, joined]; exact h.queued, by rw [queue, waiters]; exact h.once,
        by rw [sent, joined]; exact h.sent⟩
  | leads idle waiters joined begun led sent =>
      have none_led : s.led = [] := h.led_of_no_waiters idle
      refine ⟨Or.inr ⟨[], s.begun, waiters, by simp [led, none_led]⟩, ?_, ?_, ?_, ?_⟩
      · simp [led, none_led, begun]
      · simp [queue, waiters]
      · simp [queue, waiters]
      · rw [sent, joined]
        exact h.sent
  | joins before flying waiters joined begun led sent =>
      obtain ⟨fetch, leading⟩ := h.led_of_waiters flying
      have queued : ∀ waiter ∈ before, waiter < s.entry.joined := by
        simpa [queue, flying] using h.queued
      refine ⟨Or.inr ⟨_, fetch, waiters, by rw [led, leading]⟩, ?_, ?_, ?_, ?_⟩
      · rw [led, begun]
        exact h.begun
      · intro waiter member
        simp only [queue, waiters, Option.getD_some, List.mem_append, List.mem_singleton] at member
        rw [joined]
        rcases member with earlier | rfl
        · exact Nat.lt_succ_of_lt (queued waiter earlier)
        · exact Nat.lt_succ_self _
      · have once : before.Nodup := by simpa [queue, flying] using h.once
        simp only [queue, waiters, Option.getD_some]
        refine List.nodup_append.mpr ⟨once, by simp, ?_⟩
        intro waiter earlier new member
        rw [List.mem_singleton] at member
        rw [member]
        exact Nat.ne_of_lt (queued waiter earlier)
      · intro p member
        rw [sent] at member
        rw [joined]
        exact Nat.lt_succ_of_lt (h.sent p member)
  | ends fetch ending leading waiters joined begun led sent =>
      have none_led : s'.led = [] := by rw [led, h.led_of_mem leading]; simp
      refine ⟨Or.inl ⟨waiters, none_led⟩, ?_, ?_, ?_, ?_⟩
      · simp [none_led]
      · simp [queue, waiters]
      · simp [queue, waiters]
      · intro p member
        rw [sent, List.mem_append, List.mem_map] at member
        rw [joined]
        rcases member with earlier | ⟨waiter, queued, rfl⟩
        · exact h.sent p earlier
        · exact h.queued waiter queued

/-- The outcomes that a caller was sent. -/
def outcomesOf (s : Life) (waiter : WaiterId) : List (FetchResult Json) :=
  (s.sent.filter (·.1 = waiter)).map (·.2)

theorem outcomesOf_eq_nil {s : Life} {waiter : WaiterId} (h : ∀ p ∈ s.sent, p.1 ≠ waiter) :
    s.outcomesOf waiter = [] := by
  rw [outcomesOf, List.map_eq_nil_iff, List.filter_eq_nil_iff]
  simpa using h

/-- Serving a queue sends each caller as many outcomes as it has places in the queue. -/
theorem outcomesOf_append_map {s s' : Life} {queue : List WaiterId} {outcome : FetchResult Json}
    (sent : s'.sent = s.sent ++ queue.map (·, outcome)) (waiter : WaiterId) :
    s'.outcomesOf waiter =
      s.outcomesOf waiter ++ List.replicate (queue.count waiter) outcome := by
  have served : ((queue.map (·, outcome)).filter (·.1 = waiter)).map (·.2) =
      List.replicate (queue.count waiter) outcome := by
    rw [List.filter_map, List.map_map, List.eq_replicate_iff, List.count_eq_length_filter]
    simp [Function.comp_def, Bool.beq_eq_decide_eq]
  rw [outcomesOf, sent, List.filter_append, List.map_append, served, outcomesOf]

/-- The caller waits for the outcome of the fetch, which is in flight. -/
structure Waits (s : Life) (waiter : WaiterId) (fetch : FetchId) : Prop where
  led : s.led = [fetch]
  queued : waiter ∈ s.queue
  unanswered : s.outcomesOf waiter = []

/-- The caller was sent the outcome of the fetch, which is over. -/
structure Served (s : Life) (waiter : WaiterId) (fetch : FetchId)
    (outcome : FetchResult Json) : Prop where
  known : waiter < s.entry.joined
  begun : fetch < s.begun
  closed : fetch ∉ s.led
  left : waiter ∉ s.queue
  answered : s.outcomesOf waiter = [outcome]

/-- A caller that joins is behind the fetch in flight, under a number that is new. -/
theorem Sound.waits_of_joined {s s' : Life} {waiter : WaiterId}
    {ending : Option (FetchId × Ending)} (h : s.Sound)
    (c : Change s s' (some waiter) ending) :
    waiter = s.entry.joined ∧ ∃ fetch, s.led = [fetch] ∧ s'.Waits waiter fetch := by
  cases c with
  | joins before flying waiters joined begun led sent =>
      obtain ⟨fetch, leading⟩ := h.led_of_waiters flying
      refine ⟨rfl, fetch, leading, by rw [led, leading], by simp [queue, waiters], ?_⟩
      apply outcomesOf_eq_nil
      intro p member
      rw [sent] at member
      exact Nat.ne_of_lt (h.sent p member)

/-- The endings of a fetch in a list of acts. -/
def endings (fetch : FetchId) (acts : List Act) : List Ending :=
  (acts.filterMap Act.ending).filterMap fun e => if e.1 = fetch then some e.2 else none

/-- An act leaves a caller waiting unless it ends the very fetch that the caller joined; then the
caller is served the outcome of it. -/
theorem Waits.change {s s' : Life} {waiter : WaiterId} {fetch : FetchId}
    {joined : Option WaiterId} {ending : Option (FetchId × Ending)} (h : s.Sound)
    (waits : s.Waits waiter fetch) (c : Change s s' joined ending) :
    joined ≠ some waiter ∧
      ((ending = none ∧ s'.Waits waiter fetch) ∨
        ∃ e, ending = some (fetch, e) ∧ s'.Served waiter fetch (e.outcome s.entry.key)) := by
  have known := h.queued waiter waits.queued
  have unanswered : s'.sent = s.sent → s'.outcomesOf waiter = [] := by
    intro sent
    rw [outcomesOf, sent]
    exact waits.unanswered
  cases c with
  | keeps waiters joined begun led sent =>
      refine ⟨by simp, Or.inl ⟨rfl, by rw [led, waits.led], ?_, unanswered sent⟩⟩
      rw [queue, waiters]
      exact waits.queued
  | leads idle waiters joined begun led sent =>
      have queued := waits.queued
      simp [queue, idle] at queued
  | joins before flying waiters joined begun led sent =>
      refine ⟨by simpa using Nat.ne_of_gt known,
        Or.inl ⟨rfl, by rw [led, waits.led], ?_, unanswered sent⟩⟩
      have queued : waiter ∈ before := by simpa [queue, flying] using waits.queued
      simp [queue, waiters, queued]
  | ends other e leading waiters joined begun led sent =>
      have same : other = fetch := by simpa [waits.led] using leading
      subst same
      refine ⟨by simp, Or.inr ⟨e, rfl, by rw [joined]; exact known, ?_, ?_, ?_, ?_⟩⟩
      · rw [begun]
        exact h.begun other leading
      · simp [led, waits.led]
      · simp [queue, waiters]
      · rw [outcomesOf_append_map sent, waits.unanswered, h.once.count, if_pos waits.queued]
        rfl

/-- What a caller was served nothing takes back and nothing adds to, and the fetch that it joined
does not end a second time. -/
theorem Served.change {s s' : Life} {waiter : WaiterId} {fetch : FetchId}
    {outcome : FetchResult Json} {joined : Option WaiterId}
    {ending : Option (FetchId × Ending)} (served : s.Served waiter fetch outcome)
    (c : Change s s' joined ending) :
    joined ≠ some waiter ∧ (∀ e, ending ≠ some (fetch, e)) ∧ s'.Served waiter fetch outcome := by
  have answered : s'.sent = s.sent → s'.outcomesOf waiter = [outcome] := by
    intro sent
    rw [outcomesOf, sent]
    exact served.answered
  cases c with
  | keeps waiters joined begun led sent =>
      refine ⟨by simp, by simp, ?_, ?_, ?_, ?_, answered sent⟩
      · rw [joined]
        exact served.known
      · rw [begun]
        exact served.begun
      · rw [led]
        exact served.closed
      · rw [queue, waiters]
        exact served.left
  | leads idle waiters joined begun led sent =>
      refine ⟨by simp, by simp, ?_, ?_, ?_, by simp [queue, waiters], answered sent⟩
      · rw [joined]
        exact served.known
      · rw [begun]
        exact Nat.lt_succ_of_lt served.begun
      · simpa [led, served.closed] using Nat.ne_of_lt served.begun
  | joins before flying waiters joined begun led sent =>
      have known := served.known
      have left : waiter ∉ before := by simpa [queue, flying] using served.left
      refine ⟨by simpa using Nat.ne_of_gt known, by simp, ?_, ?_, ?_, ?_, answered sent⟩
      · rw [joined]
        exact Nat.lt_succ_of_lt known
      · rw [begun]
        exact served.begun
      · rw [led]
        exact served.closed
      · simpa [queue, waiters, left] using Nat.ne_of_lt known
  | ends other e leading waiters joined begun led sent =>
      refine ⟨by simp, ?_, by rw [joined]; exact served.known, by rw [begun]; exact served.begun,
        ?_, by simp [queue, waiters], ?_⟩
      · intro e' same
        cases same
        exact served.closed leading
      · rw [led]
        exact fun member => served.closed (List.mem_of_mem_erase member)
      · rw [outcomesOf_append_map sent, served.answered, List.count_eq_zero_of_not_mem served.left]
        rfl

theorem endings_cons_of_ending {fetch : FetchId} {act : Act} {e : Ending} (acts : List Act)
    (h : act.ending = some (fetch, e)) : endings fetch (act :: acts) = e :: endings fetch acts := by
  simp [endings, h]

theorem endings_cons_of_no_ending {fetch : FetchId} {act : Act} (acts : List Act)
    (h : ∀ e, act.ending ≠ some (fetch, e)) : endings fetch (act :: acts) = endings fetch acts := by
  cases found : act.ending with
  | none => simp [endings, found]
  | some ended =>
      have other : ended.1 ≠ fetch := fun same => h ended.2 (by rw [found, ← same])
      simp [endings, found, other]

theorem Sound.run {s after : Life} {acts : List Act} {told : List Told} (h : s.Sound)
    (ran : s.run acts = some (after, told)) :
    after.Sound ∧ after.entry.key = s.entry.key := by
  induction acts generalizing s told with
  | nil =>
      cases ran
      exact ⟨h, rfl⟩
  | cons act acts ih =>
      obtain ⟨s', first, rest, stepped, rested, -⟩ := run_cons ran
      obtain ⟨change, key⟩ := change_of_step stepped
      obtain ⟨sound, same⟩ := ih (h.change change) rested
      exact ⟨sound, same.trans key⟩

theorem Change.joined_le {s s' : Life} {joined : Option WaiterId}
    {ending : Option (FetchId × Ending)} (c : Change s s' joined ending) :
    s.entry.joined ≤ s'.entry.joined ∧
      ∀ waiter, joined = some waiter → waiter < s'.entry.joined := by
  cases c with
  | keeps _ same | leads _ _ same | ends _ _ _ _ same => simp [same]
  | joins _ _ _ more => simp [more]

/-- The numbers that were given out are below the next one. -/
theorem joined_lt_of_run {s after : Life} {acts : List Act} {told : List Told}
    (ran : s.run acts = some (after, told)) :
    s.entry.joined ≤ after.entry.joined ∧
      ∀ t ∈ told, ∀ waiter, t.joined = some waiter → waiter < after.entry.joined := by
  induction acts generalizing s told with
  | nil =>
      cases ran
      exact ⟨Nat.le_refl _, by simp⟩
  | cons act acts ih =>
      obtain ⟨s', first, rest, stepped, rested, rfl⟩ := run_cons ran
      obtain ⟨more, below⟩ := ih rested
      have grown := (change_of_step stepped).1.joined_le
      refine ⟨Nat.le_trans grown.1 more, ?_⟩
      intro t member waiter joined
      rcases List.mem_cons.mp member with rfl | later
      · exact Nat.lt_of_lt_of_le (grown.2 waiter joined) more
      · exact below t later waiter joined

theorem Served.run {s after : Life} {waiter : WaiterId} {fetch : FetchId}
    {outcome : FetchResult Json} {acts : List Act} {told : List Told}
    (served : s.Served waiter fetch outcome) (ran : s.run acts = some (after, told)) :
    (∀ t ∈ told, t.joined ≠ some waiter) ∧ endings fetch acts = [] ∧
      after.Served waiter fetch outcome := by
  induction acts generalizing s told with
  | nil =>
      cases ran
      exact ⟨by simp, rfl, served⟩
  | cons act acts ih =>
      obtain ⟨s', first, rest, stepped, rested, rfl⟩ := run_cons ran
      obtain ⟨other, unended, still⟩ := served.change (change_of_step stepped).1
      obtain ⟨others, ended, last⟩ := ih still rested
      refine ⟨List.forall_mem_cons.mpr ⟨other, others⟩, ?_, last⟩
      rw [endings_cons_of_no_ending acts unended, ended]

/-- A caller waits as long as the fetch that it joined does not end, and no longer. -/
theorem Waits.run {s after : Life} {waiter : WaiterId} {fetch : FetchId} {acts : List Act}
    {told : List Told} (h : s.Sound) (waits : s.Waits waiter fetch)
    (ran : s.run acts = some (after, told)) :
    (∀ t ∈ told, t.joined ≠ some waiter) ∧
      ((endings fetch acts = [] ∧ after.Waits waiter fetch) ∨
        ∃ e, endings fetch acts = [e] ∧
          after.Served waiter fetch (e.outcome s.entry.key)) := by
  induction acts generalizing s told with
  | nil =>
      cases ran
      exact ⟨by simp, Or.inl ⟨rfl, waits⟩⟩
  | cons act acts ih =>
      obtain ⟨s', first, rest, stepped, rested, rfl⟩ := run_cons ran
      obtain ⟨change, key⟩ := change_of_step stepped
      rcases waits.change h change with ⟨other, ⟨none_ended, still⟩ | ⟨e, ended, served⟩⟩
      · obtain ⟨others, rest_of_life⟩ := ih (h.change change) still rested
        rw [key] at rest_of_life
        refine ⟨List.forall_mem_cons.mpr ⟨other, others⟩, ?_⟩
        rw [endings_cons_of_no_ending acts (by simp [none_ended])]
        exact rest_of_life
      · obtain ⟨others, none_more, last⟩ := served.run rested
        refine ⟨List.forall_mem_cons.mpr ⟨other, others⟩, Or.inr ⟨e, ?_, last⟩⟩
        rw [endings_cons_of_ending acts ended, none_more]

/-- What a caller gets that has joined a fetch. -/
inductive Answer where
  /-- To a caller that asked to begin a fetch. -/
  | value (result : FetchResult Json)
  /-- To a caller that asked for the data, which may be absent. -/
  | data (result : FetchResult (Option Json))

/-- What a caller makes of the outcome it is sent. -/
def answerOf : Told → FetchResult Json → Answer
  | .waiting _, outcome => .data (outcome.map some)
  | _, outcome => .value outcome

/-- The answers that a caller has got. -/
def answers (s : Life) (told : Told) : List Answer :=
  ((told.joined.map s.outcomesOf).getD []).map (answerOf told)

/-- What the end of a fetch brings to a caller that joined it. One that asked to begin a fetch gets
the result as it is; one that asked for the data gets a value as one that is there. If the leader
was dropped, either is told that the fetch was cancelled, with the key of the entry. -/
inductive Brings (key : String) : Told → Ending → Answer → Prop
  | result (waiter : WaiterId) (result : FetchResult Json) :
      Brings key (.ticket (.follower waiter)) (.settled result) (.value result)
  | present (waiter : WaiterId) (value : Json) :
      Brings key (.waiting (.queued waiter)) (.settled (.ok value)) (.data (.ok (some value)))
  | failed (waiter : WaiterId) (error : FetchError) :
      Brings key (.waiting (.queued waiter)) (.settled (.error error)) (.data (.error error))
  | cancelled (waiter : WaiterId) :
      Brings key (.ticket (.follower waiter)) .dropped (.value (.error (.cancelled key)))
  | unavailable (waiter : WaiterId) :
      Brings key (.waiting (.queued waiter)) .dropped (.data (.error (.cancelled key)))

/-- A caller that was sent one outcome makes one answer of it, and this is what the end of the fetch
brings. -/
theorem brings_of_outcomesOf {s : Life} {told : Told} {waiter : WaiterId} {key : String}
    {ending : Ending} (joined : told.joined = some waiter)
    (sent : s.outcomesOf waiter = [ending.outcome key]) :
    ∃ answer, Brings key told ending answer ∧ s.answers told = [answer] := by
  have one : s.answers told = [answerOf told (ending.outcome key)] := by
    rw [answers, joined, Option.map_some, Option.getD_some, sent, List.map_singleton]
  refine ⟨_, ?_, one⟩
  cases told with
  | nothing => cases joined
  | ticket ticket =>
      cases ticket with
      | leader | fresh => cases joined
      | follower other =>
          cases ending with
          | settled result => exact .result other result
          | dropped => exact .cancelled other
  | waiting waiting =>
      cases waiting with
      | ready _ => cases joined
      | queued other =>
          cases ending with
          | settled result =>
              cases result with
              | ok value => exact .present other value
              | error error => exact .failed other error
          | dropped => exact .unavailable other

/-- In every life of an entry, whoever joins a fetch is the only one with its number and joins the
one fetch that is led then. As long as nobody ends that fetch, it is the one in flight, and the
caller waits and was sent nothing. From then on it waits no more and was sent exactly one outcome:
what the leader of that fetch settled it with or, if this leader was dropped, that it was cancelled.
Of this it makes the one answer that the end of the fetch brings it. The entry is loading exactly
while a fetch is led, so nobody waits when it is not. -/
theorem answered_by_joined_fetch {key baseKey : String} {before later : List Act} {act : Act}
    {s s' after : Life} {toldBefore toldLater : List Told} {told : Told} {waiter : WaiterId}
    (ran : (born key baseKey).run before = some (s, toldBefore))
    (asked : s.step act = some (s', told)) (joined : told.joined = some waiter)
    (gone_on : s'.run later = some (after, toldLater)) :
    (∀ other ∈ toldBefore ++ toldLater, other.joined ≠ some waiter) ∧
      (after.entry.loading = true ↔ after.led ≠ []) ∧
      ∃ fetch, s.led = [fetch] ∧
        ((endings fetch later = [] ∧ after.led = [fetch] ∧ waiter ∈ after.queue ∧
            after.outcomesOf waiter = [] ∧ after.answers told = []) ∨
          ∃ ending answer, endings fetch later = [ending] ∧ fetch ∉ after.led ∧
            waiter ∉ after.queue ∧ after.outcomesOf waiter = [ending.outcome key] ∧
            Brings key told ending answer ∧ after.answers told = [answer]) := by
  obtain ⟨sound, sameKey⟩ := (sound_born key baseKey).run ran
  obtain ⟨change, keyKept⟩ := change_of_step asked
  rw [joined] at change
  obtain ⟨new, fetch, led, waits⟩ := sound.waits_of_joined change
  have soundNow := sound.change change
  obtain ⟨others, fate⟩ := waits.run soundNow gone_on
  have earlier : ∀ other ∈ toldBefore, other.joined ≠ some waiter := by
    intro other member same
    have below := (joined_lt_of_run ran).2 other member waiter same
    exact Nat.ne_of_lt below new
  refine ⟨?_, (soundNow.run gone_on).1.loading_iff, fetch, led, ?_⟩
  · intro other member
    rcases List.mem_append.mp member with old | late
    · exact earlier other old
    · exact others other late
  · rcases fate with ⟨pending, still⟩ | ⟨ending, ended, served⟩
    · have none_yet : after.answers told = [] := by simp [answers, joined, still.unanswered]
      exact Or.inl ⟨pending, still.led, still.queued, still.unanswered, none_yet⟩
    · rw [keyKept, sameKey] at served
      obtain ⟨answer, brings, got⟩ := brings_of_outcomesOf joined served.answered
      exact Or.inr ⟨ending, answer, ended, served.closed, served.left, served.answered, brings,
        got⟩

/-- Two fetches of `/apps`. One caller asks to begin the first and one waits for the data, and both
get the value that it brings. Who waits for the data during the second one is told that this was
cancelled, and nothing of the value. -/
theorem answers_over_two_fetches :
    let acts : List Act := [.begin none ⟨0⟩, .begin none ⟨0⟩, .wait, .settle 0 (.ok (.str "v")),
      .begin none ⟨1⟩, .wait, .drop 1]
    ∃ after, (born "/apps" "/apps").run acts = some (after, [.ticket .leader,
        .ticket (.follower 0), .waiting (.queued 1), .nothing, .ticket .leader,
        .waiting (.queued 2), .nothing]) ∧
      after.outcomesOf 0 = [.ok (.str "v")] ∧
      after.answers (.ticket (.follower 0)) = [.value (.ok (.str "v"))] ∧
      after.outcomesOf 1 = [.ok (.str "v")] ∧
      after.answers (.waiting (.queued 1)) = [.data (.ok (some (.str "v")))] ∧
      after.outcomesOf 2 = [.error (.cancelled "/apps")] ∧
      after.answers (.waiting (.queued 2)) = [.data (.error (.cancelled "/apps"))] := by
  intro acts
  let begins : Act := .begin none ⟨0⟩
  let after : Life := (((born "/apps" "/apps").run acts).getD (born "/apps" "/apps", [])).1
  have first := @answered_by_joined_fetch "/apps" "/apps" [begins] (acts.drop 2) begins _ _ after
    _ _ _ 0 rfl rfl rfl rfl
  have second := @answered_by_joined_fetch "/apps" "/apps" [begins, begins] (acts.drop 3) .wait
    _ _ after _ _ _ 1 rfl rfl rfl rfl
  have third := @answered_by_joined_fetch "/apps" "/apps" (acts.take 5) [.drop 1] .wait
    _ _ after _ _ _ 2 rfl rfl rfl rfl
  obtain ⟨-, -, _, led, ⟨unended, -⟩ | ⟨_, _, ended, -, -, sent₀, brings, got₀⟩⟩ := first
  · cases led
    cases unended
  cases led
  cases ended
  cases brings
  obtain ⟨-, -, _, led, ⟨unended, -⟩ | ⟨_, _, ended, -, -, sent₁, brings, got₁⟩⟩ := second
  · cases led
    cases unended
  cases led
  cases ended
  cases brings
  obtain ⟨-, -, _, led, ⟨unended, -⟩ | ⟨_, _, ended, -, -, sent₂, brings, got₂⟩⟩ := third
  · cases led
    cases unended
  cases led
  cases ended
  cases brings
  exact ⟨after, rfl, sent₀, got₀, sent₁, got₁, sent₂, got₂⟩

end Life

/-- A leader that settles mails its result to the callers to whom `Entry.settle` owes it, in two
steps. -/
theorem settle_mails (c : Cache) (id : EntryId) (result : FetchResult Json) :
    ∃ settled told effects,
      (Reading.settle id result).step c =
          some (settled, .tellSettled id result ((c.entry id).settle result).2, []) ∧
        (Reading.tellSettled id result ((c.entry id).settle result).2).step settled =
          some (told, .done (some result), effects) ∧
        settled = c.put id ((c.entry id).settle result).1 ∧ told.store = settled.store ∧
        told.mail = c.mail ++ ((c.entry id).settle result).2.map fun w => ((id, w), result) :=
  ⟨_, _, _, rfl, rfl, rfl, rfl, rfl⟩

/-- A leader that was dropped mails to the callers behind it that the fetch was cancelled. -/
theorem abandon_mails (c : Cache) (id : EntryId) :
    ∃ told effects,
      (Reading.abandon id).step c = some (told, .tellAbandoned id, effects) ∧
        told.store = (c.put id (c.entry id).abandon.1).store ∧
        told.mail = c.mail ++ (c.entry id).abandon.2.map fun w =>
          ((id, w), .error (.cancelled (c.entry id).key)) :=
  ⟨_, _, rfl, rfl, rfl⟩

end Entry

end Refetch
