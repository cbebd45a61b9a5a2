/-
# Which changes make a listing stale

A resource stands in the listing of its kind, of which any number of variants may be cached: one for
each set of filters, each page, and each query string in the key. All of them are derived from the
path of the listing, so a write reaches all of them or none, and all if it names that path among
its base keys. The services do so in every change but one: the change of a registry names the path
of the registry only, and what has been cached of the listing goes on being served.
-/

import Refetch.Api.Apps
import Refetch.Api.Jobs
import Refetch.Api.Registries
import Refetch.Api.Targets
import Refetch.Proofs.Store.Advance
import Refetch.Proofs.Store.Filing
import Refetch.Proofs.Writing.AllOrNothing

namespace Refetch

namespace Store

/-- An entry is cached under a key, and is a variant of the listing with a path, whatever the
parameters of the key and its query string. -/
def Variant (s : Store) (listing key : String) (id : EntryId) : Prop :=
  s.find? key = some id ∧ (s.entry id).baseKey = listing

/-- Unless entries are inserted under foreign base keys, whatever is cached of a listing is a
variant of it, with any parameters and any query string. -/
theorem Plain.variant {s : Store} (h : s.Plain) {inline listing : String} {params : Option Params}
    {id : EntryId} (based : baseKeyOf inline = listing)
    (cached : s.find? (computeKey inline params) = some id) :
    s.Variant listing (computeKey inline params) id := by
  refine ⟨cached, ?_⟩
  rw [h.filed _ _ cached, baseKeyOf_computeKey, based]

variable {s s' : Store} {bases keys : List String} {listing key : String} {id : EntryId}

/-- Base keys reach a variant of a listing if and only if the path of the listing is one of them. -/
theorem WellFormed.derived_variant_iff (h : s.WellFormed) (variant : s.Variant listing key id) :
    s.Derived bases id ↔ listing ∈ bases.map baseKeyOf := by
  obtain ⟨current, based⟩ := variant
  have same : (s.entry id).key = key := (h.found key id current).2
  rw [Derived, same, based]
  exact and_iff_right current

/-- A variant of a listing stays one when something becomes stale. -/
theorem Stales.variant (h : Stales s bases s' keys) (variant : s.Variant listing key id) :
    s'.Variant listing key id := by
  constructor
  · rw [find?, h.current]
    exact variant.1
  · by_cases derived : s.Derived bases id
    · rw [h.stale id derived]
      exact variant.2
    · rw [h.others id derived]
      exact variant.2

end Store

namespace Writing

/-- Once its request has succeeded, a write treats each cached variant of a listing in this way, in
the one of its steps that may change anything. The notices are all those of the write. -/
def TreatsListing (w : Write Json) (listing : String)
    (treatment : Stroke → List Notice → String → EntryId → Prop) : Prop :=
  ∀ value strokes result, Carried (.ok value) (.send w) strokes result →
    (∀ stroke ∈ strokes, stroke.found.store.Built) →
    ∃ sending staling telling decoding, strokes = [sending, staling, telling, decoding] ∧
      (∀ stroke ∈ [sending, telling, decoding], stroke.left = stroke.found) ∧
      ∀ key id, staling.found.store.Variant listing key id →
        treatment staling (notices strokes) key id

/-- A write makes every cached variant of a listing stale, and announces its key. -/
def StalesListing (w : Write Json) (listing : String) : Prop :=
  TreatsListing w listing fun staling told key id =>
    staling.left.store.Variant listing key id ∧
      (∀ window now, (staling.left.store.entry id).mustRevalidate window now = true) ∧
      ∃ keys, told = [.keys keys] ∧ key ∈ keys

/-- A write leaves every cached variant of a listing as it is, and does not announce its key. -/
def SparesListing (w : Write Json) (listing : String) : Prop :=
  TreatsListing w listing fun staling told key id =>
    staling.left.store.Variant listing key id ∧
      staling.left.store.entry id = staling.found.store.entry id ∧
      ∀ notice ∈ told, notice.affects key = false

variable {w : Write Json} {body : Option Body} {listing : String}

theorem Staled.unchanged_beside {sending staling telling decoding : Stroke} {keys : List String}
    (h : Staled w sending staling telling decoding keys) :
    ∀ stroke ∈ [sending, telling, decoding], stroke.left = stroke.found := by
  intro stroke member
  rcases List.mem_cons.mp member with rfl | member
  · exact h.sent.1 stroke (List.mem_singleton_self _)
  · rcases List.mem_cons.mp member with rfl | member
    · exact h.unchanged
    · exact h.decoded.1 stroke member

/-- How a write treats a listing is how its four steps do when the request has succeeded. -/
theorem treatsListing_of_staled {treatment : Stroke → List Notice → String → EntryId → Prop}
    (plain : w.resets = false) (sendable : w.body = .ok body)
    (treats : ∀ {sending staling telling decoding keys},
      Staled w sending staling telling decoding keys → staling.found.store.WellFormed →
        ∀ key id, staling.found.store.Variant listing key id →
          treatment staling (notices [sending, staling, telling, decoding]) key id) :
    TreatsListing w listing treatment := by
  intro value strokes result carried built
  obtain ⟨-, sending, staling, telling, decoding, keys, rfl, staled⟩ :=
    carried.staled plain sendable built
  have found := (built staling (by simp)).wellFormed
  exact ⟨sending, staling, telling, decoding, rfl, staled.unchanged_beside, treats staled found⟩

/-- A write that names the path of a listing reaches its variants. -/
theorem stalesListing_of_named (plain : w.resets = false) (sendable : w.body = .ok body)
    (named : listing ∈ (w.options.bases w.url).map baseKeyOf) : StalesListing w listing := by
  apply treatsListing_of_staled plain sendable
  intro _ staling _ _ keys staled wellFormed key id variant
  have derived := (wellFormed.derived_variant_iff variant).mpr named
  have told : key ∈ keys := (staled.stales.mem_iff key).mpr ⟨id, variant.1, derived⟩
  refine ⟨staled.stales.variant variant, ?_, keys, ?_, told⟩
  · intro window now
    rw [staled.stales.stale id derived]
    rfl
  · rw [staled.notices_eq, if_neg (List.ne_nil_of_mem told)]

/-- A write that does not name the path of a listing passes its variants by. -/
theorem sparesListing_of_unnamed (plain : w.resets = false) (sendable : w.body = .ok body)
    (unnamed : listing ∉ (w.options.bases w.url).map baseKeyOf) : SparesListing w listing := by
  apply treatsListing_of_staled plain sendable
  intro _ staling _ _ keys staled wellFormed key id variant
  have apart : ¬ staling.found.store.Derived (w.options.bases w.url) id := fun derived =>
    unnamed ((wellFormed.derived_variant_iff variant).mp derived)
  refine ⟨staled.stales.variant variant, staled.stales.others id apart, ?_⟩
  intro notice announced
  rw [Bool.eq_false_iff, ne_eq, staled.affects_iff announced, staled.stales.mem_iff]
  rintro ⟨other, current, derived⟩
  rw [variant.1] at current
  cases current
  exact apart derived

/-- No write does both: there are caches with a variant of the listing. -/
theorem not_stales_and_spares (plain : w.resets = false)
    (path : baseKeyOf listing = listing) (stales : StalesListing w listing) :
    ¬ SparesListing w listing := by
  intro spares
  let cache : Cache := { store := (Store.empty.getOrCreate listing none).1 }
  have read : cache.store.Plain := .getOrCreate .empty listing none
  have variant := read.variant path (Store.find?_getOrCreate .empty listing none)
  obtain ⟨strokes, result, carried, same⟩ := carried_at w plain (.ok .null) cache
  have built : ∀ stroke ∈ strokes, stroke.found.store.Built := by
    intro stroke member
    rw [same stroke member]
    exact read.built
  obtain ⟨_, staling, _, _, rfl, -, stale⟩ := stales _ _ _ carried built
  obtain ⟨_, _, _, _, four, -, spared⟩ := spares _ _ _ carried built
  cases four
  rw [same staling (by simp)] at stale spared
  obtain ⟨-, -, keys, told, member⟩ := stale _ _ variant
  have silent := (spared _ _ variant).2.2 (.keys keys) (by simp [told])
  simp [Notice.affects, member] at silent

end Writing

/-- A change that a service makes to a resource which stands in a listing. -/
inductive Edit where
  | createApp (payload : CreateApp)
  | updateApp (id : String) (payload : UpdateApp)
  | deleteApp (id : String)
  | createTarget (payload : CreateTarget)
  | updateTarget (id : String) (payload : UpdateTarget)
  | deleteTarget (id : String)
  | createRegistry (payload : CreateRegistry)
  | updateRegistry (id : String) (payload : UpdateRegistry)
  | deleteRegistry (id : String)
  | deleteJob (id : String)

namespace Edit

/-- The path of the listing. -/
def listing : Edit → String
  | .createApp _ | .updateApp .. | .deleteApp _ => Path.apps
  | .createTarget _ | .updateTarget .. | .deleteTarget _ => Path.targets
  | .createRegistry _ | .updateRegistry .. | .deleteRegistry _ => Path.registries
  | .deleteJob _ => Path.jobs

/-- The write by which the service makes the change. -/
def write : Edit → Write Json
  | .createApp payload => (Apps.create payload).map AppDetail.toJson
  | .updateApp id payload => (Apps.update id payload).map AppDetail.toJson
  | .deleteApp id => (Apps.delete id).map Codec.unit.encode
  | .createTarget payload => (Targets.create payload).map Target.toJson
  | .updateTarget id payload => (Targets.update id payload).map Target.toJson
  | .deleteTarget id => (Targets.delete id).map Codec.unit.encode
  | .createRegistry payload => (Registries.create payload).map Registry.toJson
  | .updateRegistry id payload => (Registries.update id payload).map Registry.toJson
  | .deleteRegistry id => (Registries.delete id).map Codec.unit.encode
  | .deleteJob id => (Jobs.delete id).map Codec.unit.encode

variable (e : Edit)

theorem write_resets : e.write.resets = false := by cases e <;> rfl

theorem write_sendable : ∃ body, e.write.body = .ok body := by cases e <;> exact ⟨_, rfl⟩

theorem baseKeyOf_listing : baseKeyOf e.listing = e.listing := by
  have plain : ∀ path ∈ [Path.apps, Path.targets, Path.registries, Path.jobs],
      '?' ∉ path.toList := by decide +kernel
  apply baseKeyOf_eq_self
  apply plain
  cases e <;> simp [listing]

/-- The path of one registry is not that of the listing, whatever the registry is called. -/
theorem baseKeyOf_registry_ne (id : String) : baseKeyOf (Path.registry id) ≠ Path.registries := by
  have plain : '?' ∉ (Path.registries ++ "/").toList := by decide +kernel
  rw [Path.registry, baseKeyOf_append plain]
  intro same
  have length := congrArg String.length same
  simp only [String.length_append] at length
  have slash : "/".length = 1 := rfl
  omega

/-- A change names the path of the listing, by its URL or beside it, unless it is that of a
registry. -/
theorem names_listing_iff :
    e.listing ∈ (e.write.options.bases e.write.url).map baseKeyOf ↔
      ∀ id payload, e ≠ .updateRegistry id payload := by
  constructor
  · rintro named id payload rfl
    rcases List.mem_singleton.mp named with same
    exact baseKeyOf_registry_ne id same.symm
  · intro other
    have member : e.listing ∈ e.write.options.bases e.write.url := by
      cases e with
      | createApp | createTarget | createRegistry =>
          exact List.mem_append_left [] (List.mem_singleton_self _)
      | updateRegistry id payload => exact absurd rfl (other id payload)
      | updateApp | deleteApp | updateTarget | deleteTarget | deleteRegistry | deleteJob =>
          exact List.mem_append_right _ (List.mem_singleton_self _)
    exact List.mem_map.mpr ⟨_, member, e.baseKeyOf_listing⟩

/-- Every change makes all cached variants of the listing stale and announces their keys, except
that of a registry, which leaves them all as they are and announces none. -/
theorem stalesListing_iff :
    (Writing.StalesListing e.write e.listing ↔ ∀ id payload, e ≠ .updateRegistry id payload) ∧
      (Writing.SparesListing e.write e.listing ↔ ∃ id payload, e = .updateRegistry id payload) := by
  obtain ⟨body, sendable⟩ := e.write_sendable
  have stales (other : ∀ id payload, e ≠ .updateRegistry id payload) :=
    Writing.stalesListing_of_named e.write_resets sendable (e.names_listing_iff.mpr other)
  have spares (update : ∃ id payload, e = .updateRegistry id payload) :
      Writing.SparesListing e.write e.listing := by
    apply Writing.sparesListing_of_unnamed e.write_resets sendable
    rw [names_listing_iff]
    exact fun other => update.elim fun id ⟨payload, same⟩ => other id payload same
  have apart := Writing.not_stales_and_spares e.write_resets e.baseKeyOf_listing
  refine ⟨⟨?_, stales⟩, ?_, spares⟩
  · intro stale id payload same
    exact apart stale (spares ⟨id, payload, same⟩)
  · intro spared
    by_contra none
    exact apart (stales fun id payload same => none ⟨id, payload, same⟩) spared

/-- A registry is renamed, and the answer shows the new name. The listing, which has been cached
with the old name, stays fresh, and nothing is announced. -/
theorem renamed_registry_listed_by_old_name :
    let registry (name : String) : Registry :=
      { id := "r1", name, url := "https://r", credentials := none, createdAt := "t",
        createdBy := { id := "u1", email := "a@b.c" } }
    let cache : Cache :=
      { store := .ofEntries
          [(Entry.ofKey Path.registries).set (Registry.codec.list.encode [registry "hub"]) ⟨0⟩] }
    let edit : Edit :=
      .updateRegistry "r1" { name := some "hub2", url := none, credentials := .keep }
    (∃ strokes, Writing.Carried (.ok (registry "hub2").toJson) (.send edit.write) strokes
        (.ok (registry "hub2").toJson) ∧
      (∀ stroke ∈ strokes, stroke.found = cache ∧ stroke.left = cache) ∧
      Writing.notices strokes = []) ∧
    cache.store.Built ∧ cache.store.Variant edit.listing Path.registries 0 ∧
    (cache.store.entry 0).mustRevalidate cache.config.window ⟨0⟩ = false ∧
    ¬ Writing.StalesListing edit.write edit.listing := by
  intro registry cache edit
  have spares : Writing.SparesListing edit.write edit.listing :=
    Writing.sparesListing_of_unnamed edit.write_resets rfl fun named =>
      edit.names_listing_iff.mp named _ _ rfl
  have untouched : cache.store.invalidate (edit.write.options.bases edit.write.url) =
      (cache.store, []) := by decide +kernel
  have staling : (Writing.stale edit.write (registry "hub2").toJson).step cache =
      some (cache, .tell edit.write (registry "hub2").toJson [], []) := by
    simp only [Writing.step, untouched]
  have decoding : (Writing.decode edit.write (registry "hub2").toJson).step cache =
      some (cache, .done (.ok (registry "hub2").toJson), []) := rfl
  refine ⟨⟨_, .step (c := cache) rfl (.answered (.step staling (.step (c := cache) rfl
    (.step decoding (.done _))))), ?_, rfl⟩, .ofEntries _, ⟨rfl, rfl⟩, by decide +kernel, ?_⟩
  · simp
  · exact fun stales =>
      Writing.not_stales_and_spares edit.write_resets edit.baseKeyOf_listing stales spares

end Edit

end Refetch
