import Refetch.Json.Parser
import Refetch.Double.Reader
import Refetch.Text.Blank
import Refetch.Key
import Refetch.Request
import Refetch.CacheConfig
import Refetch.Resource.App
import Refetch.Resource.Target
import Refetch.Resource.Registry
import Refetch.Resource.Job
import Refetch.Resource.Profile
import Refetch.Store
import Refetch.View
import Refetch.Notice
import Refetch.Poller
import Refetch.Response
import Refetch.Fixture
import Refetch.ScriptedServer
import Refetch.Api.Apps
import Refetch.Api.Deployments
import Refetch.Api.Targets
import Refetch.Api.Registries
import Refetch.Api.Jobs
import Refetch.Api.Sessions
import Refetch.Reading
import Refetch.Writing
import Refetch.Upkeep
import Refetch.Crowd
import Refetch.Describe
import Refetch.Scenario.Run
import Refetch.ClientConfig.Document
import Refetch.Endpoint
import Refetch.Client
import Refetch.CommandLine
import Refetch.Text.Utf8
import Refetch.Url
import Refetch.Exchange
import Refetch.Poller.Leases
import Refetch.Main
import Refetch.Proofs.Entry.Delivery
import Refetch.Proofs.Entry.Staleness
import Refetch.Proofs.Entry.Quiet
import Refetch.Proofs.Key.Canonical
import Refetch.Proofs.Crowd.Course
import Refetch.Proofs.Crowd.Leaders
import Refetch.Proofs.Crowd.SingleFlight
import Refetch.Proofs.Store.Staling
import Refetch.Proofs.Writing.AllOrNothing
import Refetch.Proofs.Crowd.Record
import Refetch.Proofs.Crowd.Fate
import Refetch.Proofs.Crowd.Turn
import Refetch.Proofs.Crowd.Origin
import Refetch.Proofs.Crowd.ReadYourWrites
import Refetch.Proofs.Crowd.ResetIsolation
import Refetch.Proofs.Crowd.Observers
import Refetch.Proofs.Crowd.SessionBoundary
import Refetch.Proofs.Crowd.Spacing
import Refetch.Proofs.Crowd.Agreement
import Refetch.Proofs.Crowd.Lockstep
import Refetch.Proofs.Crowd.NonInterference
import Refetch.Proofs.Poller.Subscribers
import Refetch.Proofs.Poller.Teardown
import Refetch.Proofs.Api.Listing
import Refetch.Proofs.Codec.RoundTrip
import Refetch.Proofs.Resource.RoundTrip
import Refetch.Proofs.Entry.Results
import Refetch.Proofs.Entry.Rollback
import Refetch.Proofs.Api.NewDeployment
import Refetch.Proofs.View.TypedRead
import Refetch.Proofs.Resource.Payload
import Refetch.Proofs.Key.Members
import Refetch.Proofs.Response.Meaning
import Refetch.Proofs.Endpoint.RequestUrl
import Refetch.Proofs.Entry.Saturation
import Refetch.Proofs.Key.QueryText
