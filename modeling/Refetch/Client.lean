/-
# A client

A client has an endpoint, a cache, a channel for what becomes stale, and the intervals of polling.
-/

import Refetch.Api.Paths
import Refetch.Cache
import Refetch.CommandLine
import Refetch.Endpoint

namespace Refetch

structure Client where
  endpoint : Endpoint
  cache : Cache
  notices : Channel
  intervals : PollingIntervals

namespace Client

/-- A new client with the given settings and an empty cache. -/
def ofConfig? (c : ClientConfig) : Option Client := do
  let endpoint ← Endpoint.ofConfig? c
  let notices ← Channel.make? Channel.defaultCapacity
  return {
    endpoint, notices
    cache := { config := c.cacheConfig }
    intervals :=
      { resources := .ofMillis c.pollingInterval, logs := .ofMillis c.logsPollingInterval } }

/-- The request that a command begins with. -/
def request : Command → Request
  | .get path | .watch path => .read path .default
  | .health => .read Path.health .default

/-- A request in words: its verb and its URL. -/
def describe (c : Client) (r : Request) : String := r.method.text ++ " " ++ c.endpoint.urlFor r.url

end Client

end Refetch
