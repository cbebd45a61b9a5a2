/-
# Operations on background jobs
-/

import Refetch.Api.Paths
import Refetch.Operation
import Refetch.Resource.Job

namespace Refetch.Jobs

def pageParams (page : UInt32) : Params := Params.empty.add "page" (toString page.toNat)

/-- Cancels a job; every page of the listing becomes stale. -/
def delete (id : String) : Write Unit where
  method := .delete
  url := Path.job id
  options := { invalidate := [Path.jobs] }
  decode := ignoreAnswer

/-- Reads a page of jobs. The page takes the place of any parameters in the options. -/
def fetchAll (page : UInt32) (options : FetchOptions) : Read (Page Job) where
  key := Path.jobs
  options := { options with params := some (pageParams page) }
  decode := (Page.codec Job.codec).read

def queryAll (intervals : PollingIntervals) (page : UInt32) : Query (Page Job) where
  key := Path.jobs
  options :=
    { fetch := { params := some (pageParams page) }, refreshInterval := some intervals.resources }
  decode := (Page.codec Job.codec).read

end Refetch.Jobs
