/-
# The paths of the resources
-/

import Refetch.Time

namespace Refetch

namespace Path

def apps : String := "/api/v1/apps"

def targets : String := "/api/v1/targets"

def registries : String := "/api/v1/registries"

def jobs : String := "/api/v1/jobs"

def session : String := "/api/v1/session"

/-- Where sessions begin. -/
def sessions : String := "/api/v1/sessions"

/-- The profile of the current user. -/
def profile : String := "/api/v1/profile"

def health : String := "/api/v1/healthcheck"

def app (id : String) : String := apps ++ "/" ++ id

def deployments (app_ : String) : String := app app_ ++ "/deployments"

def deployment (app_ : String) (number : UInt32) : String :=
  deployments app_ ++ "/" ++ toString number.toNat

def target (id : String) : String := targets ++ "/" ++ id

def registry (id : String) : String := registries ++ "/" ++ id

def job (id : String) : String := jobs ++ "/" ++ id

end Path

/-- How often queries are polled. -/
structure PollingIntervals where
  resources : Duration
  logs : Duration
  deriving DecidableEq, Repr, Inhabited

end Refetch
