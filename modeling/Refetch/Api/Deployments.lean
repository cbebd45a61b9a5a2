/-
# Operations on the deployments of an application

A new deployment, however it is asked for, makes stale the application, the listing of applications
and every page of the application's deployments. Asking for it under the URL of an older deployment
does not make that deployment stale.
-/

import Refetch.Api.Paths
import Refetch.Operation
import Refetch.Resource.Deployment

namespace Refetch.Deployments

/-- Which deployments of an application to list. -/
structure Filters where
  page : Option UInt32 := none
  environment : Option Environment := none
  deriving DecidableEq, Repr, Inhabited

def Filters.params (f : Filters) : Params :=
  (Params.empty.addIf "page" (f.page.map fun n => toString n.toNat)).addIf "environment"
    (f.environment.map Environment.name)

/-- What becomes stale beside the URL when an application gets a deployment. -/
def appRelated (app : String) : MutateOptions := { invalidate := [Path.app app, Path.apps] }

/-- What becomes stale when a deployment is asked for under the URL of another one. -/
def newDeployment (app : String) : MutateOptions :=
  { invalidate := (appRelated app).invalidate ++ [Path.deployments app], skipUrl := true }

def queue (app : String) (payload : QueueDeployment) : Write Deployment where
  method := .post
  url := Path.deployments app
  body := .ok (some payload.body)
  options := appRelated app
  decode := Deployment.codec.read

/-- Deploys the sources of a deployment again. -/
def redeploy (app : String) (number : UInt32) : Write Deployment where
  method := .post
  url := Path.deployment app number ++ "/redeploy"
  options := newDeployment app
  decode := Deployment.codec.read

/-- Deploys what was deployed to staging to production. -/
def promote (app : String) (number : UInt32) : Write Deployment where
  method := .post
  url := Path.deployment app number ++ "/promote"
  options := newDeployment app
  decode := Deployment.codec.read

def queryAll (app : String) (filters : Filters) : Query (Page Deployment) where
  key := Path.deployments app
  options := { fetch := { params := some filters.params } }
  decode := (Page.codec Deployment.codec).read

def fetch (app : String) (number : UInt32) (options : FetchOptions) : Read Deployment where
  key := Path.deployment app number
  options
  decode := Deployment.codec.read

def poll (intervals : PollingIntervals) (app : String) (number : UInt32) : Query Deployment where
  key := Path.deployment app number
  options := { refreshInterval := some intervals.resources }
  decode := Deployment.codec.read

/-- Polls the logs of a deployment, which are fetched at every tick. -/
def pollLogs (intervals : PollingIntervals) (app : String) (number : UInt32) : Query String where
  key := Path.deployment app number ++ "/logs"
  options := { fetch := { cache := .noStore }, refreshInterval := some intervals.logs }
  decode := Codec.text.read

end Refetch.Deployments
