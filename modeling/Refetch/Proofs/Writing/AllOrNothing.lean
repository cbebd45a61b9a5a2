/-
# A write does all of its work on the cache or none

A write goes through its steps while others go on as well, so each of its steps may find another
cache than the one that the step before it has left. `Carried` follows a write through whatever it
finds. The write leaves every cache as it found it unless its request has succeeded, and then too in
all of its steps but one: the one in which the entries derived from its URL and from the other base
keys become stale. Who is told of this is told once, and afterwards.
-/

import Refetch.Proofs.Store.Staling
import Refetch.Crowd

namespace Refetch

/-- The announcements among the effects of a step. -/
def noticesOf (effects : List Effect) : List Notice :=
  effects.filterMap fun
    | .announce notice => some notice
    | _ => none

@[simp]
theorem noticesOf_nil : noticesOf [] = [] := rfl

@[simp]
theorem noticesOf_request (request : Request) : noticesOf [.request request] = [] := rfl

@[simp]
theorem requestsOf_request (request : Request) : requestsOf [.request request] = [request] := rfl

namespace Writing

/-- One step of a write: the cache that it found, the cache that it left, and its effects. -/
structure Stroke where
  found : Cache
  left : Cache
  effects : List Effect

/-- A write goes on from where it stands to its end, in these steps and with this result. If its
request is sent, the answer to it is `reply`. Anything may happen to the cache between two steps. -/
inductive Carried (reply : FetchResult Json) : Writing → List Stroke → FetchResult Json → Prop
  | done (result : FetchResult Json) : Carried reply (.done result) [] result
  | answered {w : Write Json} {strokes : List Stroke} {result : FetchResult Json}
      (rest : Carried reply ((Writing.await w).answered reply) strokes result) :
      Carried reply (.await w) strokes result
  | step {w w' : Writing} {c c' : Cache} {effects : List Effect} {strokes : List Stroke}
      {result : FetchResult Json} (stepped : w.step c = some (c', w', effects))
      (rest : Carried reply w' strokes result) :
      Carried reply w (⟨c, c', effects⟩ :: strokes) result

/-- A step that leaves the cache as it is. -/
def Stroke.idle (c : Cache) (effects : List Effect) : Stroke := ⟨c, c, effects⟩

/-- How the keys that became stale are announced, if there are any. -/
def announcement (keys : List String) : List Effect :=
  if keys.isEmpty then [] else [.announce (.keys keys)]

theorem noticesOf_announcement (keys : List String) :
    noticesOf (announcement keys) = if keys = [] then [] else [.keys keys] := by
  cases keys <;> rfl

@[simp]
theorem requestsOf_announcement (keys : List String) : requestsOf (announcement keys) = [] := by
  cases keys <;> rfl

variable {reply : FetchResult Json} {strokes : List Stroke} {result : FetchResult Json}

theorem Carried.of_done {outcome : FetchResult Json}
    (h : Carried reply (.done outcome) strokes result) : strokes = [] ∧ result = outcome := by
  cases h with
  | done => exact ⟨rfl, rfl⟩
  | step stepped => cases stepped

theorem Carried.of_await {w : Write Json} (h : Carried reply (.await w) strokes result) :
    Carried reply ((Writing.await w).answered reply) strokes result := by
  cases h with
  | answered rest => exact rest
  | step stepped => cases stepped

/-- Once the request has succeeded, the write invalidates, announces and decodes. -/
theorem Carried.of_stale {w : Write Json} {value : Json} (plain : w.resets = false)
    (h : Carried reply (.stale w value) strokes result) :
    result = decodeFrom w.decode w.url value ∧
      ∃ c told decoded : Cache, strokes =
        [⟨c, { c with store := (c.store.invalidate (w.options.bases w.url)).1 }, []⟩,
          .idle told (announcement (c.store.invalidate (w.options.bases w.url)).2),
          .idle decoded []] := by
  cases h with
  | @step _ _ c _ _ _ _ stepped rest =>
      cases stepped
      cases rest with
      | @step _ _ told _ _ _ _ stepped rest =>
          cases stepped
          cases rest with
          | @step _ _ decoded _ _ _ _ stepped rest =>
              cases stepped
              simp only [plain, Bool.false_eq_true, false_and, if_false] at rest
              obtain ⟨rfl, rfl⟩ := rest.of_done
              exact ⟨rfl, c, told, decoded, rfl⟩

/-- A write whose body has no form to be sent in is over at once. -/
theorem Carried.of_send_error {w : Write Json} {e : EncodeError} (body : w.body = .error e)
    (h : Carried reply (.send w) strokes result) :
    result = .error (.encode w.url e.message) ∧ ∃ c, strokes = [.idle c []] := by
  cases h with
  | @step _ _ c _ _ _ _ stepped rest =>
      simp only [Writing.step, body] at stepped
      cases stepped
      obtain ⟨rfl, rfl⟩ := rest.of_done
      exact ⟨rfl, c, rfl⟩

/-- Any other write sends its request and goes on from the answer. -/
theorem Carried.of_send_ok {w : Write Json} {body : Option Body} (sendable : w.body = .ok body)
    (h : Carried reply (.send w) strokes result) :
    ∃ c rest, strokes = .idle c [.request (.mutation w.method w.url body)] :: rest ∧
      Carried reply ((Writing.await w).answered reply) rest result := by
  cases h with
  | @step _ _ c _ _ _ _ stepped rest =>
      simp only [Writing.step, sendable] at stepped
      cases stepped
      exact ⟨c, _, rfl, rest.of_await⟩

/-- Whatever caches it finds, and whatever it is answered, a write comes to its end. -/
theorem carried_of_found (w : Write Json) (plain : w.resets = false) (reply : FetchResult Json)
    (found : Nat → Cache) :
    ∃ strokes result, Carried reply (.send w) strokes result ∧
      ∀ n stroke, strokes[n]? = some stroke → stroke.found = found n := by
  cases body : w.body with
  | error e =>
      have stepped : (Writing.send w).step (found 0) =
          some (found 0, .done (.error (.encode w.url e.message)), []) := by
        simp only [step, body]
      refine ⟨_, _, .step stepped (.done _), ?_⟩
      intro n stroke there
      match n with
      | 0 => cases there; rfl
  | ok content =>
      have stepped : (Writing.send w).step (found 0) =
          some (found 0, .await w, [.request (.mutation w.method w.url content)]) := by
        simp only [step, body]
      cases reply with
      | error e =>
          refine ⟨_, _, .step stepped (.answered (.done _)), ?_⟩
          intro n stroke there
          match n with
          | 0 => cases there; rfl
      | ok value =>
          have decoded : (Writing.decode w value).step (found 3) =
              some (found 3, .done (decodeFrom w.decode w.url value), []) := by
            simp [step, plain]
          refine ⟨_, _, .step stepped (.answered (.step (c := found 1) rfl
            (.step (c := found 2) rfl (.step decoded (.done _))))), ?_⟩
          intro n stroke there
          match n with
          | 0 | 1 | 2 | 3 => cases there; rfl

/-- So it does when each of its steps finds the same cache. -/
theorem carried_at (w : Write Json) (plain : w.resets = false) (reply : FetchResult Json)
    (c : Cache) :
    ∃ strokes result, Carried reply (.send w) strokes result ∧
      ∀ stroke ∈ strokes, stroke.found = c := by
  obtain ⟨strokes, result, carried, found⟩ := carried_of_found w plain reply fun _ => c
  refine ⟨strokes, result, carried, ?_⟩
  intro stroke member
  obtain ⟨n, there⟩ := List.mem_iff_getElem?.mp member
  exact found n stroke there

/-- The requests that a write sends in its steps. -/
def requests (strokes : List Stroke) : List Request := strokes.flatMap fun s => requestsOf s.effects

/-- What a write announces in its steps. -/
def notices (strokes : List Stroke) : List Notice := strokes.flatMap fun s => noticesOf s.effects

/-- Did the steps of a write change nothing in any cache, and announce nothing. -/
def Harmless (strokes : List Stroke) : Prop :=
  (∀ s ∈ strokes, s.left = s.found) ∧ notices strokes = []

theorem harmless_idle {c : Cache} {effects : List Effect} (quiet : noticesOf effects = []) :
    Harmless [.idle c effects] := by
  refine ⟨?_, ?_⟩
  · intro s member
    rw [List.mem_singleton.mp member]
    rfl
  · simp [notices, Stroke.idle, quiet]

/-- The four steps of a successful write. One of them changes the cache, and it changes it by
staling what is derived from the base keys of the write; the one after it announces the keys of what
became stale, if there are any; and nothing else is announced. -/
structure Staled (w : Write Json) (sending staling telling decoding : Stroke)
    (keys : List String) : Prop where
  sent : Harmless [sending]
  stales : staling.found.store.Stales (w.options.bases w.url) staling.left.store keys
  rest : staling.left = { staling.found with store := staling.left.store }
  silent : noticesOf staling.effects = []
  unchanged : telling.left = telling.found
  told : noticesOf telling.effects = if keys = [] then [] else [.keys keys]
  decoded : Harmless [decoding]

theorem Staled.notices_eq {w : Write Json} {sending staling telling decoding : Stroke}
    {keys : List String} (h : Staled w sending staling telling decoding keys) :
    notices [sending, staling, telling, decoding] = if keys = [] then [] else [.keys keys] := by
  have first : noticesOf sending.effects = [] := by simpa [notices] using h.sent.2
  have last : noticesOf decoding.effects = [] := by simpa [notices] using h.decoded.2
  simp [notices, first, h.silent, h.told, last]

/-- What a write announces affects the keys of what became stale, and no others. -/
theorem Staled.affects_iff {w : Write Json} {sending staling telling decoding : Stroke}
    {keys : List String} (h : Staled w sending staling telling decoding keys) {notice : Notice}
    (announced : notice ∈ notices [sending, staling, telling, decoding]) (key : String) :
    notice.affects key = true ↔ key ∈ keys := by
  rw [h.notices_eq] at announced
  split at announced
  next => cases announced
  next => simp [List.mem_singleton.mp announced, Notice.affects]

/-- In a store whose index is exact, the keys are those that an invalidation reaches. -/
theorem Staled.keys_perm {w : Write Json} {sending staling telling decoding : Stroke}
    {keys : List String} (h : Staled w sending staling telling decoding keys)
    (found : staling.found.store.WellFormed) :
    keys.Perm (staling.found.store.reach (w.options.bases w.url)) :=
  (h.stales.unique (found.invalidate_snd _ ▸ found.stales_invalidate _)).2

theorem staled_of_invalidate (w : Write Json) {c : Cache} (built : c.store.Built)
    (sent told decoded : Cache) (request : Request) :
    let after := c.store.invalidate (w.options.bases w.url)
    Staled w (.idle sent [.request request]) ⟨c, { c with store := after.1 }, []⟩
      (.idle told (announcement after.2)) (.idle decoded []) after.2 where
  sent := harmless_idle rfl
  stales := built.wellFormed.stales_invalidate _
  rest := rfl
  silent := rfl
  unchanged := rfl
  told := noticesOf_announcement _
  decoded := harmless_idle rfl

/-- A write whose request succeeds takes these four steps. -/
theorem Carried.staled {w : Write Json} {body : Option Body} {value : Json}
    (plain : w.resets = false) (sendable : w.body = .ok body)
    (h : Carried (.ok value) (.send w) strokes result)
    (built : ∀ stroke ∈ strokes, stroke.found.store.Built) :
    result = decodeFrom w.decode w.url value ∧ ∃ sending staling telling decoding keys,
      strokes = [sending, staling, telling, decoding] ∧
        Staled w sending staling telling decoding keys := by
  obtain ⟨sent, rest, rfl, answered⟩ := h.of_send_ok sendable
  obtain ⟨decoded, c, told, last, rfl⟩ := Carried.of_stale plain answered
  have found : c.store.Built := built _ (List.mem_cons_of_mem _ List.mem_cons_self)
  exact ⟨decoded, _, _, _, _, _, rfl, staled_of_invalidate w found sent told last _⟩

/-- A write, whatever its method, its URL, its body and its options, and whatever anybody else does
to the cache meanwhile:

* comes to its end in every case;
* sends nothing and returns the error if its body has no form to be sent in, and otherwise sends its
  request, and that once;
* returns the error if the request fails, and in these two cases changes no cache and announces
  nothing;
* if the request succeeds, stales exactly the entries there are at that point whose base key is that
  of its URL, unless that is to be skipped, or of one of the other base keys, changes nothing else,
  and afterwards announces the keys of these entries, each once, in one announcement, or in none if
  there are no keys. That the answer cannot be decoded changes the result only. -/
theorem write_is_all_or_nothing {w : Write Json} (plain : w.resets = false) :
    (∀ (reply : FetchResult Json) (found : Nat → Cache), ∃ strokes result,
      Carried reply (.send w) strokes result ∧
        ∀ n stroke, strokes[n]? = some stroke → stroke.found = found n) ∧
    ∀ reply strokes result, Carried reply (.send w) strokes result →
      (∀ stroke ∈ strokes, stroke.found.store.Built) →
      (∀ e, w.body = .error e →
        requests strokes = [] ∧ result = .error (.encode w.url e.message) ∧ Harmless strokes) ∧
      ∀ body, w.body = .ok body →
        requests strokes = [.mutation w.method w.url body] ∧
        (∀ e, reply = .error e → result = .error e ∧ Harmless strokes) ∧
        ∀ value, reply = .ok value →
          result = decodeFrom w.decode w.url value ∧
          ∃ sending staling telling decoding keys,
            strokes = [sending, staling, telling, decoding] ∧
              Staled w sending staling telling decoding keys ∧
              (∀ base, base ∈ w.options.bases w.url ↔
                (w.options.skipUrl = false ∧ base = w.url) ∨ base ∈ w.options.invalidate) ∧
              ∀ notice ∈ notices strokes, ∀ key, notice.affects key = true ↔ key ∈ keys := by
  refine ⟨carried_of_found w plain, ?_⟩
  intro reply strokes result carried built
  constructor
  · intro e unsendable
    obtain ⟨failed, c, rfl⟩ := carried.of_send_error unsendable
    exact ⟨rfl, failed, harmless_idle rfl⟩
  · intro body sendable
    obtain ⟨sent, rest, rfl, answered⟩ := carried.of_send_ok sendable
    cases reply with
    | error e =>
        obtain ⟨rfl, rfl⟩ := answered.of_done
        refine ⟨rfl, ?_, by simp⟩
        rintro _ ⟨⟩
        exact ⟨rfl, harmless_idle rfl⟩
    | ok value =>
        obtain ⟨decoded, c, told, last, rfl⟩ := Carried.of_stale plain answered
        refine ⟨?_, by simp, ?_⟩
        · have quiet : requestsOf [] = [] := rfl
          simp [requests, Stroke.idle, quiet]
        · rintro _ ⟨⟩
          have found : c.store.Built := built _ (List.mem_cons_of_mem _ List.mem_cons_self)
          have staled := staled_of_invalidate w found sent told last
            (.mutation w.method w.url body)
          exact ⟨decoded, _, _, _, _, _, rfl, staled, w.options.mem_bases_iff w.url,
            fun _ => staled.affects_iff⟩

/-- The app `1` is deleted in a cache that also has a page of the listing of apps and a page of its
deployments, and the answer cannot be decoded. The app and the listing become stale, and are
announced together; the deployments are not named. If the write is to skip its URL, it is the
listing alone that becomes stale. -/
theorem delete_stales_app_and_listing :
    let store := (((Store.ofEntries [.ofKey "/apps/1/deployments?page=1"]).getOrCreate
      "/apps?page=2" none).1.getOrCreate "/apps/1" none).1
    let w (skipUrl : Bool) : Write Json :=
      { method := .delete, url := "/apps/1?force=true",
        options := { invalidate := ["/apps"], skipUrl },
        decode := fun _ => .error (.missingField "id") }
    let undecodable : FetchResult Json :=
      .error (.decode "/apps/1?force=true" "missing field `id`")
    ∃ strokes skipping keys,
      Carried (.ok .null) (.send (w false)) strokes undecodable ∧
        (∀ stroke ∈ strokes, stroke.found = { store }) ∧
        requests strokes = [.mutation .delete "/apps/1?force=true" none] ∧
        notices strokes = [.keys keys] ∧ keys.Perm ["/apps/1", "/apps?page=2"] ∧
      Carried (.ok .null) (.send (w true)) skipping undecodable ∧
        (∀ stroke ∈ skipping, stroke.found = { store }) ∧
        requests skipping = [.mutation .delete "/apps/1?force=true" none] ∧
        notices skipping = [.keys ["/apps?page=2"]] := by
  intro store w undecodable
  have built : store.Built := ((Store.Built.ofEntries _).getOrCreate _ _).getOrCreate _ _
  have deletion : ∀ skipUrl, ∃ strokes keys,
      Carried (.ok .null) (.send (w skipUrl)) strokes undecodable ∧
        (∀ stroke ∈ strokes, stroke.found = { store }) ∧
        requests strokes = [.mutation .delete "/apps/1?force=true" none] ∧
        notices strokes = (if keys = [] then [] else [.keys keys]) ∧
        keys.Perm (store.reach ((w skipUrl).options.bases (w skipUrl).url)) := by
    intro skipUrl
    obtain ⟨complete, outcome⟩ := write_is_all_or_nothing (w := w skipUrl) rfl
    obtain ⟨strokes, result, carried, found⟩ := complete (.ok .null) fun _ => { store }
    have same : ∀ stroke ∈ strokes, stroke.found = { store } := by
      intro stroke member
      obtain ⟨n, there⟩ := List.mem_iff_getElem?.mp member
      exact found n stroke there
    obtain ⟨-, sends⟩ := outcome _ _ _ carried fun stroke member => by
      rw [same stroke member]
      exact built
    obtain ⟨sent, -, success⟩ := sends none rfl
    obtain ⟨rfl, sending, staling, telling, decoding, keys, rfl, staled, -⟩ := success .null rfl
    have perm := staled.keys_perm (by rw [same staling (by simp)]; exact built.wellFormed)
    rw [same staling (by simp)] at perm
    exact ⟨_, keys, carried, same, sent, staled.notices_eq, perm⟩
  obtain ⟨strokes, keys, carried, same, sent, told, perm⟩ := deletion false
  obtain ⟨skipping, one, carried', same', sent', told', perm'⟩ := deletion true
  have both : store.reach ((w false).options.bases (w false).url) =
      ["/apps/1", "/apps?page=2"] := by
    decide +kernel
  have listing : store.reach ((w true).options.bases (w true).url) = ["/apps?page=2"] := by
    decide +kernel
  rw [both] at perm
  rw [listing, List.perm_singleton] at perm'
  rw [if_neg fun none => by simp [none] at perm] at told
  rw [perm'] at told'
  exact ⟨strokes, skipping, keys, carried, same, sent, told, perm, carried', same', sent', told'⟩

end Writing

end Refetch
