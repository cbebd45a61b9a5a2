/-
# A server that answers by script

A request to a URL takes the first of the answers queued for it, else the answer routed to it,
else the fallback. Every request is recorded. Behind a `Gate`, requests can be made to wait: a
request that waits gets the answer that is picked when it is let through.
-/

import Refetch.FetchError
import Refetch.Request

namespace Refetch

/-- A server that answers by script. -/
structure ScriptedServer where
  /-- The answer to requests for which there is no other. -/
  fallback : FetchResult Json := .ok .null
  /-- Answers that are given once, by URL, the next one first. -/
  queued : Dict (List (FetchResult Json)) := .empty
  /-- Answers that are given again and again, by URL. -/
  routes : Dict (FetchResult Json) := .empty
  /-- The requests received, in their order. -/
  calls : List Request := []

namespace ScriptedServer

/-- Queues an answer to one request to a URL. -/
def enqueue (s : ScriptedServer) (url : String) (answer : FetchResult Json) : ScriptedServer :=
  { s with queued := s.queued.insert url ((s.queued.get? url).getD [] ++ [answer]) }

/-- Sets the answer to all requests to a URL. -/
def route (s : ScriptedServer) (url : String) (answer : FetchResult Json) : ScriptedServer :=
  { s with routes := s.routes.insert url answer }

/-- Sets the answer to requests for which there is no other. -/
def setFallback (s : ScriptedServer) (answer : FetchResult Json) : ScriptedServer :=
  { s with fallback := answer }

def record (s : ScriptedServer) (r : Request) : ScriptedServer := { s with calls := s.calls ++ [r] }

/-- The number of requests to a URL. -/
def callsTo (s : ScriptedServer) (url : String) : Nat := s.calls.countP (·.url == url)

/-- Picks the answer to a request to a URL. -/
def respond (s : ScriptedServer) (url : String) : ScriptedServer × FetchResult Json :=
  match s.queued.get? url with
  | some (answer :: more) => ({ s with queued := s.queued.insert url more }, answer)
  | _ => (s, (s.routes.get? url).getD s.fallback)

end ScriptedServer

/-- A server behind a gate; `τ` tells apart who waits for an answer. -/
structure Gate (τ : Type) where
  server : ScriptedServer := {}
  /-- Do new requests wait. -/
  holding : Bool := false
  /-- Who waits, and for which URL, the one who waits longest first. -/
  waiting : List (τ × String) := []

namespace Gate

variable {τ : Type}

def script (g : Gate τ) (f : ScriptedServer → ScriptedServer) : Gate τ :=
  { g with server := f g.server }

/-- Sends a request; the answer, unless the request is made to wait. -/
def send (g : Gate τ) (sender : τ) (r : Request) : Gate τ × Option (FetchResult Json) :=
  let server := g.server.record r
  if g.holding then ({ g with server, waiting := g.waiting ++ [(sender, r.url)] }, none)
  else
    let (server, answer) := server.respond r.url
    ({ g with server }, some answer)

/-- Answers the request that waits longest. -/
def answerOldest (g : Gate τ) : Option (Gate τ × τ × FetchResult Json) :=
  match g.waiting with
  | [] => none
  | (sender, url) :: waiting =>
    let (server, answer) := g.server.respond url
    some ({ g with server, waiting }, sender, answer)

/-- Forgets the requests of one that no longer waits. -/
def forget [DecidableEq τ] (g : Gate τ) (sender : τ) : Gate τ :=
  { g with waiting := g.waiting.filter (·.1 ≠ sender) }

end Gate

end Refetch
