/-
# Operations on targets
-/

import Refetch.Api.Paths
import Refetch.Operation
import Refetch.Resource.Target

namespace Refetch.Targets

/-- Which targets to list. -/
structure Filters where
  activeOnly : Option Bool := none
  deriving DecidableEq, Repr, Inhabited

def Filters.params (f : Filters) : Params :=
  Params.empty.addIf "active_only" (f.activeOnly.map fun b => if b then "true" else "false")

def create (payload : CreateTarget) : Write Target where
  method := .post
  url := Path.targets
  body := .ok (some (.json payload.toJson))
  decode := Target.codec.read

def update (id : String) (payload : UpdateTarget) : Write Target where
  method := .patch
  url := Path.target id
  body := .ok (some (.json payload.toJson))
  options := { invalidate := [Path.targets] }
  decode := Target.codec.read

def delete (id : String) : Write Unit where
  method := .delete
  url := Path.target id
  options := { invalidate := [Path.targets] }
  decode := ignoreAnswer

/-- Asks the server to configure a target again. -/
def reconfigure (id : String) : Write Unit where
  method := .post
  url := Path.target id ++ "/reconfigure"
  options := { invalidate := [Path.target id, Path.targets] }
  decode := ignoreAnswer

/-- Reads targets. The filters take the place of any parameters in the options. -/
def fetchAll (filters : Filters) (options : FetchOptions) : Read (List Target) where
  key := Path.targets
  options := { options with params := some filters.params }
  decode := Target.codec.list.read

def fetchById (id : String) (options : FetchOptions) : Read Target where
  key := Path.target id
  options
  decode := Target.codec.read

def queryAll (intervals : PollingIntervals) : Query (List Target) where
  key := Path.targets
  options := { refreshInterval := some intervals.resources }
  decode := Target.codec.list.read

end Refetch.Targets
