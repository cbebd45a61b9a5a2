/-
# Every way to a new deployment makes the same things stale

What is queued is posted to the path of the listing of deployments, with its sources in JSON or in a
form, and an older deployment is deployed again under a URL of its own. The first write reaches the
listing through its URL. The others skip their URLs and name the listing beside them. The base keys
thus come in different orders, and neither their order nor the body of the write counts: it is the
application, the listing of applications and every page of the listing of deployments that become
stale. The deployment that a URL names does not, with one exception: the text that is given for an
application is not escaped, and all paths that begin with a question mark in it have one base key.
-/

import Refetch.Api.Deployments
import Refetch.Proofs.Api.Listing

namespace Refetch

namespace Deployments

open Writing

/-- A way in which an application gets a deployment. -/
inductive Ask where
  | queue (payload : QueueDeployment)
  | redeploy (number : UInt32)
  | promote (number : UInt32)

/-- The write by which a deployment is asked for. -/
def Ask.write (app : String) : Ask → Write Json
  | .queue payload => (Deployments.queue app payload).map Deployment.toJson
  | .redeploy number => (Deployments.redeploy app number).map Deployment.toJson
  | .promote number => (Deployments.promote app number).map Deployment.toJson

/-- The paths of what becomes stale when an application gets a deployment. -/
def related (app : String) : List String := [Path.app app, Path.apps, Path.deployments app]

/-- The key of what is cached of the listing of deployments with these filters. -/
def listedAt (app : String) (filters : Filters) : String :=
  computeKey (queryAll app filters).key (queryAll app filters).options.fetch.params

namespace Ask

variable (a : Ask) (app : String)

theorem write_resets : (a.write app).resets = false := by cases a <;> rfl

theorem write_sendable : ∃ body, (a.write app).body = .ok body := by cases a <;> exact ⟨_, rfl⟩

/-- The listing comes first if it is the URL, and last if it is named beside one. -/
theorem mem_bases_iff (base : String) :
    base ∈ (a.write app).options.bases (a.write app).url ↔ base ∈ related app := by
  cases a with
  | queue payload =>
      show base ∈ [Path.deployments app] ++ [Path.app app, Path.apps] ↔ _
      simp only [related, List.mem_append, List.mem_cons, List.not_mem_nil]
      tauto
  | redeploy | promote => exact Iff.rfl

theorem mem_map_bases_iff (base : String) :
    base ∈ ((a.write app).options.bases (a.write app).url).map baseKeyOf ↔
      base ∈ (related app).map baseKeyOf := by
  simp only [List.mem_map, a.mem_bases_iff app]

end Ask

variable (app : String)

theorem marked_deployments_iff : '?' ∈ (Path.deployments app).toList ↔ '?' ∈ app.toList := by
  have before : '?' ∉ (Path.apps ++ "/").toList := by decide +kernel
  have after : '?' ∉ "/deployments".toList := by decide +kernel
  rw [Path.deployments, Path.app, String.toList_append, String.toList_append]
  simp only [List.mem_append, before, after, false_or, or_false]

/-- A deployment shares its base key with the application, or with one of the listings, if and only
if the text given for the application has a question mark. -/
theorem deployment_named_iff (number : UInt32) :
    baseKeyOf (Path.deployment app number) ∈ (related app).map baseKeyOf ↔ '?' ∈ app.toList := by
  rw [← marked_deployments_iff]
  constructor
  · intro named
    by_contra plain
    -- The path of a deployment is cut after the last slash at the earliest, and is longer then.
    have long :
        (Path.deployments app).length < (baseKeyOf (Path.deployment app number)).length := by
      have slash : baseKeyOf ("/" ++ toString number.toNat) =
          "/" ++ baseKeyOf (toString number.toNat) := baseKeyOf_append (by decide) _
      rw [Path.deployment, String.append_assoc, baseKeyOf_append plain, slash, String.length_append,
        String.length_append]
      have one : "/".length = 1 := rfl
      omega
    have short : ∀ path ∈ related app, path.length ≤ (Path.deployments app).length := by
      simp [related, Path.deployments, Path.app, String.length_append, Nat.add_assoc]
    obtain ⟨path, member, same⟩ := List.mem_map.mp named
    have cut := length_baseKeyOf_le path
    have bound := short path member
    rw [same] at cut
    omega
  · intro marked
    have same : baseKeyOf (Path.deployments app) = baseKeyOf (Path.deployment app number) := by
      rw [Path.deployment, String.append_assoc, baseKeyOf_append_of_mem marked]
    rw [← same]
    exact List.mem_map_of_mem (by simp [related])

variable {app}

/-- The deployment has been granted: the write took its four steps, in one of them, `staling`, it
made stale exactly what derives from the paths related to the application, and it announced the keys
of that, all at once. -/
structure Granted (app : String) (a : Ask) (strokes : List Stroke) (staling : Stroke)
    (keys : List String) : Prop where
  steps : ∃ sending telling decoding, strokes = [sending, staling, telling, decoding] ∧
    Staled (a.write app) sending staling telling decoding keys
  stales : staling.found.store.Stales (related app) staling.left.store keys
  told : notices strokes = if keys = [] then [] else [.keys keys]

variable {a b : Ask} {strokes strokes' : List Stroke} {staling staling' : Stroke}
  {keys keys' : List String}

/-- Nothing but the store changes, and only in what has become stale. -/
theorem Granted.rest (h : Granted app a strokes staling keys) :
    staling.left = { staling.found with store := staling.left.store } := by
  obtain ⟨_, _, _, -, staled⟩ := h.steps
  exact staled.rest

/-- Whoever asks in whichever way: the same cache is changed in the same way, and the same keys are
announced. -/
theorem Granted.alike (h : Granted app a strokes staling keys)
    (h' : Granted app b strokes' staling' keys') (same : staling.found = staling'.found) :
    staling.left = staling'.left ∧ keys.Perm keys' := by
  have stales' := h'.stales
  rw [← same] at stales'
  obtain ⟨stores, perm⟩ := h.stales.unique stales'
  constructor
  · rw [h.rest, h'.rest, same, stores]
  · exact perm

theorem granted_of_carried {value : Json} {result : FetchResult Json}
    (carried : Carried (.ok value) (.send (a.write app)) strokes result)
    (built : ∀ stroke ∈ strokes, stroke.found.store.Built) :
    ∃ staling keys, Granted app a strokes staling keys := by
  obtain ⟨body, sendable⟩ := a.write_sendable app
  obtain ⟨-, sending, staling, telling, decoding, keys, rfl, staled⟩ :=
    carried.staled (a.write_resets app) sendable built
  refine ⟨staling, keys, ⟨_, _, _, rfl, staled⟩, ?_, staled.notices_eq⟩
  exact staled.stales.congr (a.mem_bases_iff app)

/-- Each page of the listing becomes stale, with whatever filters it was cached. -/
theorem Ask.stales_deployments (a : Ask) (app : String) :
    StalesListing (a.write app) (baseKeyOf (Path.deployments app)) := by
  obtain ⟨body, sendable⟩ := a.write_sendable app
  apply stalesListing_of_named (a.write_resets app) sendable
  rw [a.mem_map_bases_iff]
  exact List.mem_map_of_mem (by simp [related])

/-- No older deployment becomes stale, unless its base key is not its own. -/
theorem Ask.spares_deployment_iff (a : Ask) (app : String) (number : UInt32) :
    SparesListing (a.write app) (baseKeyOf (Path.deployment app number)) ↔ '?' ∉ app.toList := by
  obtain ⟨body, sendable⟩ := a.write_sendable app
  have named := a.mem_map_bases_iff app (baseKeyOf (Path.deployment app number))
  rw [deployment_named_iff] at named
  constructor
  · intro spares marked
    have stales := stalesListing_of_named (a.write_resets app) sendable (named.mpr marked)
    exact not_stales_and_spares (a.write_resets app) (baseKeyOf_baseKeyOf _) stales spares
  · intro plain
    exact sparesListing_of_unnamed (a.write_resets app) sendable fun member =>
      plain (named.mp member)

/-- An application may get a deployment in any way, with any payload and any number, and anything
may happen to the cache meanwhile. If the requests succeed:

* the writes come to their ends;
* each of them makes stale exactly the entries whose base key is that of the path of the
  application, of the listing of applications or of the listing of deployments, and announces
  exactly their keys; so two that find the same cache leave the same one, and announce the same
  keys;
* every cached page of the listing of deployments is among these entries, with any filters;
* a deployment is not among them if the text given for the application has no question mark, and if
  it has one, all entries with the base key of the deployment are. -/
theorem every_ask_stales_the_same (app : String) :
    (∀ (a : Ask) (value : Json) (found : Nat → Cache), ∃ strokes result,
      Carried (.ok value) (.send (a.write app)) strokes result ∧
        ∀ n stroke, strokes[n]? = some stroke → stroke.found = found n) ∧
    (∀ (a b : Ask) (value value' : Json) strokes strokes' result result',
      Carried (.ok value) (.send (a.write app)) strokes result →
      Carried (.ok value') (.send (b.write app)) strokes' result' →
      (∀ stroke ∈ strokes ++ strokes', stroke.found.store.Built) →
      ∃ staling staling' keys keys',
        Granted app a strokes staling keys ∧ Granted app b strokes' staling' keys' ∧
          (staling.found = staling'.found → staling.left = staling'.left ∧ keys.Perm keys')) ∧
    (∀ a : Ask, StalesListing (a.write app) (baseKeyOf (Path.deployments app))) ∧
    (∀ (store : Store) (filters : Filters) (id : EntryId), store.Plain →
      store.find? (listedAt app filters) = some id →
        store.Variant (baseKeyOf (Path.deployments app)) (listedAt app filters) id) ∧
    ∀ number : UInt32,
      (baseKeyOf (Path.deployment app number) ∈ (related app).map baseKeyOf ↔ '?' ∈ app.toList) ∧
        ∀ a : Ask, SparesListing (a.write app) (baseKeyOf (Path.deployment app number)) ↔
          '?' ∉ app.toList := by
  refine ⟨?_, ?_, ?_, ?_, ?_⟩
  · exact fun a value found => carried_of_found _ (a.write_resets app) (.ok value) found
  · intro a b value value' strokes strokes' result result' carried carried' built
    obtain ⟨built, built'⟩ := List.forall_mem_append.mp built
    obtain ⟨staling, keys, granted⟩ := granted_of_carried carried built
    obtain ⟨staling', keys', granted'⟩ := granted_of_carried carried' built'
    exact ⟨staling, staling', keys, keys', granted, granted', granted.alike granted'⟩
  · exact fun a => a.stales_deployments app
  · intro store filters id plain cached
    exact plain.variant rfl cached
  · intro number
    exact ⟨deployment_named_iff app number, fun a => a.spares_deployment_iff app number⟩

/-- An archive is queued, and a deployment promoted, in a cache that has a page of the deployments
of production, the application, the listing of applications and the deployment. Both writes succeed.
All but the deployment become stale in both cases, and are announced in another order. -/
theorem queue_and_promote_announce_alike :
    let filters : Filters := { page := some 2, environment := some .production }
    let page := "/api/v1/apps/7/deployments?environment=production&page=2"
    let store := (((Store.empty.getOrCreate Path.apps none).1.getOrCreate (Path.app "7")
      none).1.getOrCreate (Path.deployment "7" 3) none).1.getOrCreate (Path.deployments "7")
        (some filters.params) |>.1
    let granted : Deployment :=
      { appId := "7", deploymentNumber := 4, environment := .production, requestedAt := "t",
        source := ⟨.archive, "app.tgz"⟩, state := ⟨.pending, none, none, none, []⟩,
        requestedBy := ⟨"u1", "a@b.c"⟩ }
    let archive : Ask := .queue (.archive .production "app.tgz" [31, 139])
    let promote : Ask := .promote 3
    ∃ strokes strokes' keys keys',
      Carried (.ok granted.toJson) (.send (archive.write "7")) strokes (.ok granted.toJson) ∧
      Carried (.ok granted.toJson) (.send (promote.write "7")) strokes' (.ok granted.toJson) ∧
      (∀ stroke ∈ strokes ++ strokes', stroke.found = { store }) ∧
      notices strokes = [.keys keys] ∧ notices strokes' = [.keys keys'] ∧ keys.Perm keys' ∧
      (∀ key, key ∈ keys ↔ key ∈ ["/api/v1/apps/7", "/api/v1/apps", page]) ∧
      (store.find? (Path.deployment "7" 3)).isSome = true ∧ Path.deployment "7" 3 ∉ keys := by
  intro filters page store granted archive promote
  have built : store.Built :=
    ((((Store.Built.ofEntries []).getOrCreate _ _).getOrCreate _ _).getOrCreate _ _).getOrCreate _ _
  obtain ⟨strokes, result, carried, found⟩ :=
    carried_at (archive.write "7") rfl (.ok granted.toJson) { store }
  obtain ⟨strokes', result', carried', found'⟩ :=
    carried_at (promote.write "7") rfl (.ok granted.toJson) { store }
  have same : ∀ stroke ∈ strokes ++ strokes', stroke.found = { store } :=
    List.forall_mem_append.mpr ⟨found, found'⟩
  have all_built : ∀ stroke ∈ strokes ++ strokes', stroke.found.store.Built := by
    intro stroke member
    rw [same stroke member]
    exact built
  obtain ⟨built', built''⟩ := List.forall_mem_append.mp all_built
  have decoded : result = .ok granted.toJson := (carried.staled rfl rfl built').1
  have decoded' : result' = .ok granted.toJson := (carried'.staled rfl rfl built'').1
  rw [decoded] at carried
  rw [decoded'] at carried'
  obtain ⟨-, every, -⟩ := every_ask_stales_the_same "7"
  obtain ⟨staling, staling', keys, keys', one, other, alike⟩ :=
    every archive promote _ _ _ _ _ _ carried carried' all_built
  obtain ⟨sending, telling, decoding, rfl, -⟩ := one.steps
  obtain ⟨sending', telling', decoding', rfl, -⟩ := other.steps
  have here : staling.found = { store } := found staling (by simp)
  have here' : staling'.found = { store } := found' staling' (by simp)
  have perm := (alike (here.trans here'.symm)).2
  have named : ∀ key, key ∈ keys ↔ key ∈ ["/api/v1/apps/7", "/api/v1/apps", page] := by
    intro key
    have reached : store.reach (related "7") = ["/api/v1/apps/7", "/api/v1/apps", page] := by
      decide +kernel
    rw [one.stales.mem_iff, here, ← built.wellFormed.mem_reach_iff, reached]
  have filled : keys ≠ [] := List.ne_nil_of_mem ((named "/api/v1/apps/7").mpr List.mem_cons_self)
  have filled' : keys' ≠ [] := fun empty => filled (by rwa [empty, List.perm_nil] at perm)
  refine ⟨_, _, keys, keys', carried, carried', same, ?_, ?_, perm, named, ?_, ?_⟩
  · rw [one.told, if_neg filled]
  · rw [other.told, if_neg filled']
  · decide +kernel
  · rw [named]
    decide +kernel

end Deployments

end Refetch
