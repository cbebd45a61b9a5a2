/-
# Operations on the session, its user, and the health of the server

What is cached belongs to a session, so a successful login drops the whole cache.
-/

import Refetch.Api.Paths
import Refetch.Operation
import Refetch.Resource.Profile

namespace Refetch

namespace Sessions

/-- Begins a session. -/
def login (email password : String) : Write Profile where
  method := .post
  url := Path.sessions
  body := .ok (some (.json (.obj [("email", .str email), ("password", .str password)])))
  options := { skipUrl := true }
  decode := Profile.codec.read
  resets := true

/-- Ends the session. -/
def logout : Write Unit where
  method := .delete
  url := Path.session
  options := { skipUrl := true }
  decode := ignoreAnswer

def current (options : FetchOptions) : Read Profile where
  key := Path.profile
  options
  decode := Profile.codec.read

/-- Changes the profile of the current user. -/
def updateProfile (payload : UpdateProfile) : Write Profile where
  method := .patch
  url := Path.profile
  body := .ok (some (.json payload.toJson))
  decode := Profile.codec.read

end Sessions

namespace Health

/-- Reads the health of the server. -/
def check (options : FetchOptions) : Read HealthCheck where
  key := Path.health
  options
  decode := HealthCheck.codec.read

end Health

end Refetch
