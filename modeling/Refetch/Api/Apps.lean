/-
# Operations on applications

Whatever changes an application makes the listing stale, and the application itself.
-/

import Refetch.Api.Paths
import Refetch.Operation
import Refetch.Resource.App

namespace Refetch.Apps

def create (payload : CreateApp) : Write AppDetail where
  method := .post
  url := Path.apps
  body := .ok (some (.json payload.toJson))
  decode := AppDetail.codec.read

def update (id : String) (payload : UpdateApp) : Write AppDetail where
  method := .patch
  url := Path.app id
  body := .ok (some (.json payload.toJson))
  options := { invalidate := [Path.apps] }
  decode := AppDetail.codec.read

def delete (id : String) : Write Unit where
  method := .delete
  url := Path.app id
  options := { invalidate := [Path.apps] }
  decode := ignoreAnswer

def fetchAll (options : FetchOptions) : Read (List App) where
  key := Path.apps
  options
  decode := App.codec.list.read

def fetchById (id : String) (options : FetchOptions) : Read AppDetail where
  key := Path.app id
  options
  decode := AppDetail.codec.read

def pollAll (intervals : PollingIntervals) : Query (List App) where
  key := Path.apps
  options := { refreshInterval := some intervals.resources }
  decode := App.codec.list.read

def pollById (intervals : PollingIntervals) (id : String) : Query AppDetail where
  key := Path.app id
  options := { refreshInterval := some intervals.resources }
  decode := AppDetail.codec.read

end Refetch.Apps
