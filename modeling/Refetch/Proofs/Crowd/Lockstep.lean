/-
# Actors that do the same for a key

Two actors in two caches that agree about a key do the same for it if they stand at the same place,
each with the entry of its own cache. They then take the same step: the caches agree again, the same
requests go out, and an invalidation reports the key in both or in neither. A step for another key,
in one of the caches alone, does not disturb the agreement.
-/

import Refetch.Proofs.Crowd.Agreement
import Refetch.Proofs.Writing.AllOrNothing

namespace Refetch

open Store

/-- Two reads of a key stand at the same place, each with the entry of its own cache. -/
inductive Reading.Alike (key : String) (R : EntryId → EntryId → Prop) : Reading → Reading → Prop
  | locate (purpose : Purpose) {k : String} {options : FetchOptions} (now : Instant)
      (computed : computeKey k options.params = key) :
      Alike key R (.locate purpose k options now) (.locate purpose k options now)
  | create (purpose : Purpose) {k : String} {options : FetchOptions} (now : Instant)
      (computed : computeKey k options.params = key) :
      Alike key R (.create purpose k options now) (.create purpose k options now)
  | begin (purpose : Purpose) (mode : CacheMode) (now : Instant) {i j : EntryId} (r : R i j) :
      Alike key R (.begin purpose mode now i) (.begin purpose mode now j)
  | tellLoading (supply : Supply) {i j : EntryId} (r : R i j) :
      Alike key R (.tellLoading supply i) (.tellLoading supply j)
  | ask (mode : CacheMode) {i j : EntryId} (r : R i j) : Alike key R (.ask mode i) (.ask mode j)
  | await {i j : EntryId} (r : R i j) : Alike key R (.await i) (.await j)
  | settle (result : FetchResult Json) {i j : EntryId} (r : R i j) :
      Alike key R (.settle i result) (.settle j result)
  | tellSettled (result : FetchResult Json) (owed : List WaiterId) {i j : EntryId} (r : R i j) :
      Alike key R (.tellSettled i result owed) (.tellSettled j result owed)
  | abandon {i j : EntryId} (r : R i j) : Alike key R (.abandon i) (.abandon j)
  | tellAbandoned {i j : EntryId} (r : R i j) : Alike key R (.tellAbandoned i) (.tellAbandoned j)
  | follow (waiter : WaiterId) {i j : EntryId} (r : R i j) :
      Alike key R (.follow i waiter) (.follow j waiter)
  | peek {i j : EntryId} (r : R i j) : Alike key R (.peek i) (.peek j)
  | done (result : Option (FetchResult Json)) : Alike key R (.done result) (.done result)

/-- Two writes stand at the same place. What one has invalidated, of other keys, may differ. -/
inductive Writing.Alike (key : String) : Writing → Writing → Prop
  | same (w : Writing) : Alike key w w
  | tell (w : Write Json) (value : Json) {keys keys' : List String}
      (reported : key ∈ keys' ↔ key ∈ keys) : Alike key (.tell w value keys) (.tell w value keys')

/-- Two seeds of a key, invalidations or resets stand at the same place. -/
inductive Upkeep.Alike (key : String) (R : EntryId → EntryId → Prop) : Upkeep → Upkeep → Prop
  | locate {k : String} {params : Option Params} (value : Json) (now : Instant)
      (computed : computeKey k params = key) :
      Alike key R (.locate k params value now) (.locate k params value now)
  | create {k : String} {params : Option Params} (value : Json) (now : Instant)
      (computed : computeKey k params = key) :
      Alike key R (.create k params value now) (.create k params value now)
  | put (value : Json) (now : Instant) {i j : EntryId} (r : R i j) :
      Alike key R (.put value now i) (.put value now j)
  | tell {i j : EntryId} (r : R i j) : Alike key R (.tell i) (.tell j)
  | stale (bases : List String) : Alike key R (.stale bases) (.stale bases)
  | tellStale {keys keys' : List String} (reported : key ∈ keys' ↔ key ∈ keys) :
      Alike key R (.tellStale keys) (.tellStale keys')
  | clear : Alike key R .clear .clear
  | tellAll : Alike key R .tellAll .tellAll
  | done {keys keys' : List String} (reported : key ∈ keys' ↔ key ∈ keys) :
      Alike key R (.done keys) (.done keys')

/-- Two actors do the same for a key. -/
inductive Actor.Alike (key : String) (R : EntryId → EntryId → Prop) : Actor → Actor → Prop
  | read {k : String} {options : FetchOptions} {found found' : Option EntryId}
      {reading reading' : Reading} (computed : computeKey k options.params = key)
      (finds : Option.Rel R found found') (alike : reading.Alike key R reading') :
      Alike key R (.read k options found reading) (.read k options found' reading')
  | write {w w' : Writing} (alike : w.Alike key w') : Alike key R (.write w) (.write w')
  | tend {u u' : Upkeep} (alike : u.Alike key R u') : Alike key R (.tend u) (.tend u')
  | gone : Alike key R .gone .gone

/-- An actor reads or seeds another key. -/
def Actor.Apart (key : String) (s : Store) : Actor → Prop
  | .read k options _ _ => computeKey k options.params ≠ key
  | .tend (.locate k params _ _) | .tend (.create k params _ _) => computeKey k params ≠ key
  | .tend (.put _ _ id) => id < s.arena.size ∧ (s.entry id).key ≠ key
  | .tend (.tell _) => True
  | .tend (.done keys) => key ∉ keys
  | _ => False

section

variable {key : String} {R R' : EntryId → EntryId → Prop} {c d c' : Cache} {effects : List Effect}

theorem Reading.Alike.mono {r r' : Reading} (more : ∀ i j, R i j → R' i j)
    (h : r.Alike key R r') : r.Alike key R' r' := by
  cases h <;> constructor <;> first | assumption | exact more _ _ ‹_›

theorem Upkeep.Alike.mono {u u' : Upkeep} (more : ∀ i j, R i j → R' i j)
    (h : u.Alike key R u') : u.Alike key R' u' := by
  cases h <;> constructor <;> first | assumption | exact more _ _ ‹_›

theorem rel_mono {x y : Option EntryId} (more : ∀ i j, R i j → R' i j) (h : Option.Rel R x y) :
    Option.Rel R' x y := by
  cases h with
  | some r => exact .some (more _ _ r)
  | none => exact .none

theorem Actor.Alike.mono {a b : Actor} (more : ∀ i j, R i j → R' i j) (h : a.Alike key R b) :
    a.Alike key R' b := by
  cases h with
  | read computed finds alike => exact .read computed (rel_mono more finds) (alike.mono more)
  | write alike => exact .write alike
  | tend alike => exact .tend (alike.mono more)
  | gone => exact .gone

theorem Reading.Alike.entry {r r' : Reading} (h : r.Alike key R r') :
    Option.Rel R r.entry? r'.entry? := by
  cases h <;> first | exact .none | exact .some ‹_›

/-- The store has been built, and outcomes come from entries that it has. -/
structure Cache.Tidy (c : Cache) : Prop where
  built : c.store.Built
  posted : ∀ p ∈ c.mail, p.1.1 < c.store.arena.size

/-- The same step is taken in the other cache: what has come of it is alike, up to entries that were
made in both, and the same requests go out. -/
def Answers {α : Type} (key : String) (R : EntryId → EntryId → Prop)
    (alike : (EntryId → EntryId → Prop) → α → α → Prop) (took : Cache × α × List Effect)
    (other : Option (Cache × α × List Effect)) : Prop :=
  ∃ R' d b effects, (∀ i j, R i j → R' i j) ∧ other = some (d, b, effects) ∧
    took.1.Agree key R' d ∧ alike R' took.2.1 b ∧ requestsOf effects = requestsOf took.2.2

variable {α : Type} {alike : (EntryId → EntryId → Prop) → α → α → Prop}

/-- The same step is taken, and no entry is made. -/
theorem Answers.of_same {took took' : Cache × α × List Effect} (agree : took.1.Agree key R took'.1)
    (same : alike R took.2.1 took'.2.1) (requests : requestsOf took'.2.2 = requestsOf took.2.2) :
    Answers key R alike took (some took') :=
  ⟨R, took'.1, took'.2.1, took'.2.2, fun _ _ r => r, rfl, agree, same, requests⟩

theorem requestsOf_depends (wanted : Bool) (k : String) :
    requestsOf (if wanted = true then [.depends k] else []) = [] := by
  cases wanted <;> rfl

theorem Reading.alike_afterTicket (purpose : Purpose) (mode : CacheMode) {i j : EntryId}
    (r : R i j) (ticket : Ticket) :
    (afterTicket purpose mode i ticket).Alike key R (afterTicket purpose mode j ticket) := by
  cases ticket with
  | leader => exact .tellLoading _ r
  | follower waiter =>
      by_cases background : purpose = .background <;>
        simp only [afterTicket, background, if_true, if_false]
      · exact .done none
      · exact .follow waiter r
  | fresh =>
      by_cases value : purpose = .value <;> simp only [afterTicket, value, if_true, if_false]
      · exact .peek r
      · exact .done none

theorem Reading.Alike.answers {r q r' : Reading} (h : r.Alike key R q) (agree : c.Agree key R d)
    (tidy : c.Tidy) (tidy' : d.Tidy) (stepped : r.step c = some (c', r', effects)) :
    Answers key R (Reading.Alike key) (c', r', effects) (q.step d) := by
  cases h with
  | @locate purpose k options now computed =>
      have find := agree.find_cases
      rw [← computed] at find
      obtain ⟨found, found'⟩ | ⟨i, j, found, found', r⟩ := find
      · simp only [step, found, found'] at stepped ⊢
        cases stepped
        exact .of_same agree (.create purpose now computed) rfl
      · simp only [step, found, found'] at stepped ⊢
        cases stepped
        exact .of_same agree (.begin purpose _ now r)
          ((requestsOf_depends ..).trans (requestsOf_depends ..).symm)
  | @create purpose k options now computed =>
      obtain ⟨R', more, agree', r⟩ := agree.getOrCreate computed tidy.posted tidy'.posted
      cases stepped
      exact ⟨R', _, _, _, more, rfl, agree', .begin purpose _ now r,
        (requestsOf_depends ..).trans (requestsOf_depends ..).symm⟩
  | @begin purpose mode now i j r =>
      rw [step_begin] at stepped ⊢
      cases stepped
      have same : (d.entry j).begin (d.window mode) now =
          (c.entry i).begin (c.window mode) now := by
        rw [agree.same r, Cache.window, Cache.window, agree.config]
      rw [same]
      exact .of_same (agree.put r (Entry.begin_keys _ _ _).1) (alike_afterTicket purpose mode r _)
        rfl
  | tellLoading supply r =>
      cases stepped
      refine .of_same agree ?_ (by simp)
      cases supply with
      | server mode => exact .ask mode r
      | caller => exact .await r
  | ask mode r =>
      cases stepped
      refine .of_same agree (.await r) ?_
      rw [agree.same r]
  | settle result r =>
      rw [step_settle] at stepped ⊢
      cases stepped
      rw [agree.same r]
      exact .of_same (agree.put r (Entry.key_settle result)) (.tellSettled result _ r) rfl
  | tellSettled result owed r =>
      rw [step_tellSettled] at stepped ⊢
      cases stepped
      exact .of_same (agree.send r owed result) (.done _) (by simp)
  | @abandon i _ r =>
      rw [step_abandon] at stepped ⊢
      cases stepped
      have agree' := agree.put r (e := (c.entry i).abandon.1) rfl
      rw [agree.same r]
      exact .of_same (agree'.send r _ _) (.tellAbandoned r) (by simp)
  | tellAbandoned r =>
      cases stepped
      exact .of_same agree (.done none) (by simp)
  | follow waiter r =>
      simp only [step, Option.map_eq_some_iff] at stepped
      obtain ⟨⟨_, result⟩, taken, same⟩ := stepped
      cases same
      obtain ⟨d', taken', agree'⟩ := agree.receive r taken
      simp only [step, taken', Option.map_some]
      exact .of_same agree' (.done _) rfl
  | peek r =>
      cases stepped
      simp only [step, agree.same r]
      exact .of_same agree (.done _) rfl
  | await _ | done _ => cases stepped

theorem Writing.Alike.answers {w v w' : Writing} (h : w.Alike key v) (agree : c.Agree key R d)
    (tidy : c.Tidy) (tidy' : d.Tidy) (stepped : w.step c = some (c', w', effects)) :
    Answers key R (fun _ => Writing.Alike key) (c', w', effects) (v.step d) := by
  cases h with
  | @tell w value keys keys' reported =>
      cases stepped
      exact .of_same agree (.same _)
        ((Writing.requestsOf_announcement keys').trans (Writing.requestsOf_announcement keys).symm)
  | same =>
      cases w with
      | send w =>
          simp only [step] at stepped ⊢
          split at stepped <;> cases stepped <;> exact .of_same agree (.same _) rfl
      | stale w value =>
          cases stepped
          obtain ⟨agree', reported⟩ :=
            agree.invalidate tidy.built tidy'.built (w.options.bases w.url)
          exact .of_same agree' (.tell w value reported) rfl
      | clear result =>
          cases stepped
          exact .of_same agree.clear (.same _) rfl
      | tell _ _ _ | decode _ _ | tellAll _ =>
          cases stepped
          exact .of_same agree (.same _) rfl
      | await _ | done _ => cases stepped

theorem Upkeep.Alike.answers {u v u' : Upkeep} (h : u.Alike key R v) (agree : c.Agree key R d)
    (tidy : c.Tidy) (tidy' : d.Tidy) (stepped : u.step c = some (c', u', effects)) :
    Answers key R (Upkeep.Alike key) (c', u', effects) (v.step d) := by
  cases h with
  | @locate k params value now computed =>
      have find := agree.find_cases
      rw [← computed] at find
      obtain ⟨found, found'⟩ | ⟨i, j, found, found', r⟩ := find
      · simp only [step, found, found'] at stepped ⊢
        cases stepped
        exact .of_same agree (.create value now computed) rfl
      · simp only [step, found, found'] at stepped ⊢
        cases stepped
        exact .of_same agree (.put value now r) rfl
  | create value now computed =>
      obtain ⟨R', more, agree', r⟩ := agree.getOrCreate computed tidy.posted tidy'.posted
      cases stepped
      exact ⟨R', _, _, _, more, rfl, agree', .put value now r, rfl⟩
  | @put value now i j r =>
      cases stepped
      have agree' := agree.put r (e := (c.entry i).set value now) rfl
      simp only [step, agree.same r]
      exact .of_same agree' (.tell r) rfl
  | tell r =>
      cases stepped
      exact .of_same agree (.done Iff.rfl) (by simp)
  | stale bases =>
      cases stepped
      obtain ⟨agree', reported⟩ := agree.invalidate tidy.built tidy'.built bases
      exact .of_same agree' (.tellStale reported) rfl
  | @tellStale keys keys' reported =>
      cases stepped
      exact .of_same agree (.done reported)
        ((Writing.requestsOf_announcement keys').trans (Writing.requestsOf_announcement keys).symm)
  | clear =>
      cases stepped
      exact .of_same agree.clear .tellAll rfl
  | tellAll =>
      cases stepped
      exact .of_same agree (.done Iff.rfl) rfl
  | done _ => cases stepped

theorem rel_or {x y x' y' : Option EntryId} (first : Option.Rel R x x')
    (second : Option.Rel R y y') : Option.Rel R (x.or y) (x'.or y') := by
  cases first with
  | some r => exact .some r
  | none => exact second

/-- Actors that do the same for a key take the same step. -/
theorem Actor.Alike.answers {a b a' : Actor} (h : a.Alike key R b) (agree : c.Agree key R d)
    (tidy : c.Tidy) (tidy' : d.Tidy) (stepped : a.step c = some (c', a', effects)) :
    Answers key R (Actor.Alike key) (c', a', effects) (b.step d) := by
  cases h with
  | read computed finds alike =>
      obtain ⟨_, moved, rfl⟩ := step_read stepped
      obtain ⟨R', d', q', effects', more, moved', agree', alike', requests⟩ :=
        alike.answers agree tidy tidy' moved
      exact ⟨R', d', _, effects', more, by rw [step, moved']; rfl, agree',
        .read computed (rel_or alike'.entry (rel_mono more finds)) alike', requests⟩
  | write alike =>
      obtain ⟨_, moved, rfl⟩ := step_write stepped
      obtain ⟨R', d', v', effects', more, moved', agree', alike', requests⟩ :=
        alike.answers agree tidy tidy' moved
      exact ⟨R', d', _, effects', more, by rw [step, moved']; rfl, agree', .write alike', requests⟩
  | tend alike =>
      obtain ⟨_, moved, rfl⟩ := step_tend stepped
      obtain ⟨R', d', v', effects', more, moved', agree', alike', requests⟩ :=
        alike.answers agree tidy tidy' moved
      exact ⟨R', d', _, effects', more, by rw [step, moved']; rfl, agree', .tend alike', requests⟩
  | gone => cases stepped

theorem Actor.Alike.answered {a b : Actor} (h : a.Alike key R b) (result : FetchResult Json) :
    (a.answered result).Alike key R (b.answered result) := by
  cases h with
  | read computed finds alike =>
      refine .read computed finds ?_
      cases alike <;> first | exact .settle result ‹_› | (constructor <;> assumption)
  | write alike =>
      cases alike with
      | same w => exact .write (.same _)
      | tell w value reported => exact .write (.tell w value reported)
  | tend alike => exact .tend alike
  | gone => exact .gone

theorem Reading.Alike.dropped {r q : Reading} (h : r.Alike key R q) :
    q.suspended = r.suspended ∧ r.dropped.Alike key R q.dropped := by
  cases h <;> refine ⟨rfl, ?_⟩ <;> first | exact .abandon ‹_› | exact .done none

theorem Actor.Alike.dropped {a b a' : Actor} (h : a.Alike key R b) (dropped : a.dropped = some a') :
    ∃ b', b.dropped = some b' ∧ a'.Alike key R b' := by
  cases h with
  | read computed finds alike =>
      obtain ⟨suspended, left⟩ := alike.dropped
      simp only [Actor.dropped] at dropped ⊢
      rw [suspended]
      split at dropped
      next here =>
        cases dropped
        rw [if_pos here]
        exact ⟨_, rfl, .read computed finds left⟩
      next => cases dropped
  | @write w _ alike =>
      have left : a' = .gone := by cases w <;> cases dropped <;> rfl
      cases alike with
      | tell _ _ _ => exact ⟨.gone, rfl, by rw [left]; exact .gone⟩
      | same => exact ⟨a', dropped, by rw [left]; exact .gone⟩
  | tend alike =>
      cases alike with
      | tellStale _ | tellAll =>
          cases dropped
          exact ⟨.gone, rfl, .gone⟩
      | _ => cases dropped
  | gone => cases dropped

theorem Reading.agree_apart {r r' : Reading} {k : String} {options : FetchOptions}
    {found : Option EntryId} (agree : c.Agree key R d) (fits : r.Fits k options found)
    (located : Located c.store k options found) (other : computeKey k options.params ≠ key)
    (stepped : r.step c = some (c', r', effects)) : c'.Agree key R d := by
  have keyed : ∀ {i}, found = some i → (c.entry i).key ≠ key := by
    intro i here
    rw [Cache.entry, (located i here).2]
    exact other
  cases r with
  | locate purpose k' o now =>
      simp only [step] at stepped
      split at stepped <;> cases stepped <;> exact agree
  | create purpose k' o now =>
      obtain ⟨rfl, rfl⟩ := fits
      cases stepped
      exact agree.getOrCreate_apart other
  | begin purpose mode now i =>
      cases stepped
      exact agree.put_apart (keyed fits.2) _
  | settle i result =>
      cases stepped
      exact agree.put_apart (keyed fits) _
  | tellSettled i result owed =>
      cases stepped
      exact agree.send_apart (keyed fits) owed result
  | abandon i =>
      rw [step_abandon] at stepped
      cases stepped
      refine (agree.put_apart (keyed fits) _).send_apart ?_ _ _
      rw [Cache.entry, Cache.put, entry_put]
      split <;> exact keyed fits
  | follow i w =>
      simp only [step, Option.map_eq_some_iff] at stepped
      obtain ⟨⟨_, result⟩, taken, same⟩ := stepped
      cases same
      exact agree.receive_apart (keyed fits) taken
  | tellLoading _ _ | ask _ _ | tellAbandoned _ | peek _ =>
      cases stepped
      exact agree
  | await _ | done _ => cases stepped

/-- Whoever reads or seeds another key leaves the agreement as it is, and keeps to its key. -/
theorem Actor.Apart.step {a a' : Actor} (h : a.Apart key c.store) (agree : c.Agree key R d)
    (built : c.store.Built) (fits : a.Fits c.store)
    (stepped : a.step c = some (c', a', effects)) :
    c'.Agree key R d ∧ a'.Apart key c'.store := by
  have keyed {s : Store} (built : s.Built) {k : String} {params : Option Params} {i : EntryId}
      (other : computeKey k params ≠ key) (found : s.find? (computeKey k params) = some i) :
      i < s.arena.size ∧ (s.entry i).key ≠ key := by
    obtain ⟨inside, same⟩ := built.wellFormed.found _ i found
    exact ⟨inside, same.symm ▸ other⟩
  cases a with
  | read k options found r =>
      obtain ⟨_, moved, rfl⟩ := step_read stepped
      exact ⟨Reading.agree_apart agree fits.2 fits.1 h moved, h⟩
  | tend u =>
      obtain ⟨_, moved, rfl⟩ := step_tend stepped
      cases u with
      | locate k params value now =>
          simp only [Upkeep.step] at moved
          split at moved
          next i found =>
            cases moved
            exact ⟨agree, keyed built h found⟩
          next =>
            cases moved
            exact ⟨agree, h⟩
      | create k params value now =>
          cases moved
          exact ⟨agree.getOrCreate_apart h,
            keyed (built.getOrCreate k params) h (find?_getOrCreate _ k params)⟩
      | put value now i =>
          cases moved
          exact ⟨agree.put_apart h.2 _, trivial⟩
      | tell i =>
          cases moved
          exact ⟨agree, List.not_mem_nil⟩
      | stale _ | tellStale _ | clear | tellAll => exact h.elim
      | done _ => cases moved
  | write _ | gone => exact h.elim

theorem Actor.Apart.advance {s s' : Store} {lost : String → Prop} {led led' : Option EntryId}
    {a : Actor} (h : a.Apart key s) (advance : Advance s s' lost led led') : a.Apart key s' := by
  cases a with
  | tend u =>
      cases u with
      | put value now i => exact ⟨Nat.lt_of_lt_of_le h.1 advance.size, advance.key i h.1 ▸ h.2⟩
      | _ => exact h
  | read _ _ _ _ | write _ | gone => exact h

theorem Actor.Apart.answered {s : Store} {a : Actor} (h : a.Apart key s)
    (result : FetchResult Json) : (a.answered result).Apart key s := by
  cases a with
  | write _ => exact h.elim
  | read _ _ _ _ | tend _ | gone => exact h

theorem Actor.Apart.dropped {s : Store} {a a' : Actor} (h : a.Apart key s)
    (dropped : a.dropped = some a') : a'.Apart key s := by
  cases a with
  | read k options found r =>
      simp only [Actor.dropped] at dropped
      split at dropped
      next =>
        cases dropped
        exact h
      next => cases dropped
  | tend u => cases u <;> first | exact h.elim | cases dropped
  | write _ | gone => exact h.elim

end

end Refetch
