/-
# Settings of the cache

An answer counts as fresh for the dedupe interval. The window in which this is decided is the
interval, cut off at the longest signed span of whole milliseconds in 64 bits, which no two points
in time are apart. Polling never runs faster than the smallest refresh interval.
-/

import Refetch.Codec.Record
import Refetch.FetchError
import Refetch.Time

namespace Refetch

namespace Duration

/-- The length of time that seconds and nanoseconds make up. -/
def ofParts : UInt64 × UInt32 → Except DecodeError Duration
  | (secs, nanos) => match make? secs.toNat nanos.toNat with
    | some d => .ok d
    | none => .error .durationOverflow

/-- Whole seconds, and nanoseconds that may add up to more. -/
def parts : Fields (UInt64 × UInt32) :=
  Prod.mk <$> .required "secs" .u64 <*> .required "nanos" .u32

/-- The members of a length of time. -/
def fields : Fields Duration := parts.attempt ofParts

/-- Reads a length of time from an object without other members, or from an array. -/
def decode : Decoder Duration
  | t, .obj members => fields.ofClosedMembers t members
  | t, .arr items => fields.ofItems "struct Duration" t items
  | _, v => .error (.wrongType v.found "struct Duration")

/-- The length of time as an object. -/
def toJson (d : Duration) : Json := .obj [("nanos", .nat d.subsecNanos), ("secs", .nat d.secs)]

/-- Lengths of time. -/
def codec : Codec Duration := ⟨decode, toJson⟩

end Duration

structure CacheConfig where
  /-- Answers younger than this are not fetched again. -/
  dedupeInterval : Duration := .ofMillis 2000
  /-- The shortest interval of polling. -/
  minRefreshInterval : Duration := .ofMillis 100
  deriving DecidableEq, Repr, Inhabited

namespace CacheConfig

/-- The longest span that is told apart from longer ones, `2 ^ 63 - 1` milliseconds. -/
def longestWindow : Nat := 9223372036854775807 * 1000000

/-- The nanoseconds for which an answer counts as fresh. -/
def window (c : CacheConfig) : Nat := min c.dedupeInterval.nanos longestWindow

/-- The interval at which a query that asked for one is polled. -/
def refreshInterval (c : CacheConfig) (requested : Duration) : Duration :=
  requested.longer c.minRefreshInterval

/-- Refuses settings under which polling would never pause. -/
def validate (c : CacheConfig) : Except SettingError Unit :=
  if c.minRefreshInterval.nanos = 0 then
    .error ⟨"min_refresh_interval", "0ms", "must be > 0"⟩
  else .ok ()

/-- The settings as members of a record. -/
def fields : Fields CacheConfig :=
  CacheConfig.mk <$> .required "dedupe_interval" Duration.codec
    <*> .required "min_refresh_interval" Duration.codec

/-- The settings as an object. -/
def toJson (c : CacheConfig) : Json :=
  .obj [("dedupe_interval", c.dedupeInterval.toJson),
    ("min_refresh_interval", c.minRefreshInterval.toJson)]

def codec : Codec CacheConfig := ⟨fields.record "CacheConfig", toJson⟩

end CacheConfig

end Refetch
