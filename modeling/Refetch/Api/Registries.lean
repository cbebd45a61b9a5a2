/-
# Operations on registries
-/

import Refetch.Api.Paths
import Refetch.Operation
import Refetch.Resource.Registry

namespace Refetch.Registries

def create (payload : CreateRegistry) : Write Registry where
  method := .post
  url := Path.registries
  body := .ok (some (.json payload.toJson))
  decode := Registry.codec.read

/-- Changes a registry. Only the registry itself becomes stale. -/
def update (id : String) (payload : UpdateRegistry) : Write Registry where
  method := .patch
  url := Path.registry id
  body := .ok (some (.json payload.toJson))
  decode := Registry.codec.read

/-- Deletes a registry. Only the listing becomes stale: the registry keeps its last data until it is
dropped. -/
def delete (id : String) : Write Unit where
  method := .delete
  url := Path.registry id
  options := { invalidate := [Path.registries], skipUrl := true }
  decode := ignoreAnswer

def fetchAll (options : FetchOptions) : Read (List Registry) where
  key := Path.registries
  options
  decode := Registry.codec.list.read

def fetchById (id : String) (options : FetchOptions) : Read Registry where
  key := Path.registry id
  options
  decode := Registry.codec.read

def queryAll (intervals : PollingIntervals) : Query (List Registry) where
  key := Path.registries
  options := { refreshInterval := some intervals.resources }
  decode := Registry.codec.list.read

end Refetch.Registries
