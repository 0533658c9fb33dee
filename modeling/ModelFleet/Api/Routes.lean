import ModelFleet.Api.Health
import ModelFleet.Api.Query
import ModelFleet.Cycle.Daemon
import ModelFleet.Scheduler

/-!
# Answers to requests from people

The daemon answers under six paths.  Five are read, one asks for a cycle.  A path that is read also
answers a request for the head alone; any other method is told which ones are allowed.
-/

namespace ModelFleet.Api

/-- Why a request is refused. -/
inductive ApiError
  | notFound (detail : String)
  | badRequest (detail : String)
  deriving DecidableEq

namespace ApiError

def message : ApiError → String
  | notFound detail => s!"Not found: {detail}"
  | badRequest detail => s!"Bad request: {detail}"

def status : ApiError → Nat
  | notFound _ => 404
  | badRequest _ => 400

def code : ApiError → String
  | notFound _ => "NOT_FOUND"
  | badRequest _ => "BAD_REQUEST"

def toJson (e : ApiError) : Json := .object [("error", .str e.message), ("code", .str e.code)]

end ApiError

/-- What the body of a response holds. -/
inductive Body
  | empty
  | text (s : String)
  | json (value : Json)
  | stream

structure Response where
  status : Nat
  headers : List (String × String)
  body : Body

namespace Response

def bare (status : Nat) : Response := ⟨status, [], .empty⟩

def ofJson (status : Nat) (value : Json) : Response :=
  ⟨status, [("content-type", "application/json")], .json value⟩

def ofText (status : Nat) (s : String) : Response :=
  ⟨status, [("content-type", "text/plain; charset=utf-8")], .text s⟩

def ofError (e : ApiError) : Response := ofJson e.status e.toJson

def withHeaders (r : Response) (headers : List (String × String)) : Response :=
  { r with headers := r.headers ++ headers }

def head (r : Response) : Response := { r with body := .empty }

end Response

/-- What is found under a path. -/
inductive Endpoint
  | health
  | status
  | lastCycle
  | trigger
  | events
  | stream
  deriving DecidableEq

namespace Endpoint

def path : Endpoint → String
  | health => "/api/v1/health"
  | status => "/api/v1/sync/status"
  | lastCycle => "/api/v1/sync/cycles/last"
  | trigger => "/api/v1/sync/trigger"
  | events => "/api/v1/sync/events"
  | stream => "/api/v1/sync/events/stream"

def all : List Endpoint := [health, status, lastCycle, trigger, events, stream]

def ofPath (path : String) : Option Endpoint := all.find? (·.path = path)

def allowed : Endpoint → String
  | trigger => "POST"
  | _ => "GET,HEAD"

def allows (e : Endpoint) (method : String) : Bool :=
  match e with
  | trigger => method == "POST"
  | _ => method == "GET" || method == "HEAD"

end Endpoint

/-- The largest number of events that may be asked for. -/
def maxEvents : Nat := 256

/-- How many events are given to one who does not say. -/
def usualEvents : Nat := 20

/-- What the daemon can be asked about. -/
structure View where
  daemon : Daemon
  uptimeMillis : Int

def eventsResponse (view : View) (query : String) : Response :=
  match QueryString.readKey "limit" (2 ^ 64) none (QueryString.pairs query) with
  | .error e => .ofText 400 s!"Failed to deserialize query string: {e.message}"
  | .ok limit =>
    let limit := limit.getD usualEvents
    if limit = 0 ∨ maxEvents < limit then
      .ofError (.badRequest s!"limit must be between 1 and {maxEvents}")
    else .ofJson 200 (.arr ((view.daemon.feed.recent limit).map Envelope.toJson))

def statusJson (view : View) (scheduler : Scheduler) : Json :=
  .object [("scheduler_running", .bool scheduler.running),
    ("gate_open", .bool view.daemon.gate.isOpen),
    ("master_key_fingerprint", .optionalText view.daemon.ring.fingerprint),
    ("last_cycle", (view.daemon.lastReport.map CycleReport.toJson).getD .null)]

/-- The response of an endpoint to a method that it allows. -/
def answer (view : View) (query : String) : Endpoint → StateM Scheduler Response
  | .health => return .ofJson 200 (Health.ofUptime view.uptimeMillis).toJson
  | .status => return .ofJson 200 (statusJson view (← get))
  | .lastCycle =>
    return match view.daemon.lastReport with
      | some report => .ofJson 200 report.toJson
      | none => .ofError (.notFound "no sync-up cycle has run yet")
  | .trigger => do
    let accepted := (← get).accepts
    modify Scheduler.trigger
    return .ofJson (if accepted then 202 else 429) (.object [("accepted", .bool accepted)])
  | .events => return eventsResponse view query
  | .stream => return ⟨200, [("content-type", "text/event-stream")], .stream⟩

/-- The headers with which pages of any origin may read a response. -/
def corsHeaders : List (String × String) :=
  [("access-control-allow-origin", "*"),
    ("vary", "origin, access-control-request-method, access-control-request-headers")]

/-- The headers that answer the question what pages of any origin may do. -/
def preflightHeaders : List (String × String) :=
  corsHeaders ++ [("access-control-allow-methods", "*"), ("access-control-allow-headers", "*")]

def dispatch (view : View) (cors : Bool) (method query : String) (endpoint : Option Endpoint) :
    StateM Scheduler Response := do
  let allow := (endpoint.map fun e => ("allow", e.allowed)).toList
  if cors && method == "OPTIONS" then
    return (Response.bare 200).withHeaders (preflightHeaders ++ allow)
  let response ← match endpoint with
    | none => pure (Response.bare 404)
    | some e =>
      if e.allows method then answer view query e
      else pure ((Response.bare 405).withHeaders allow)
  let response := if method = "HEAD" then response.head else response
  return if cors then response.withHeaders corsHeaders else response

/-- What a target says after the name of the host, if it begins with a scheme and one. -/
def withoutHost (cs : List Char) : List Char :=
  match cs.dropWhile fun c => c ≠ ':' ∧ c ≠ '/' ∧ c ≠ '?' ∧ c ≠ '#' with
  | ':' :: '/' :: '/' :: rest => rest.dropWhile fun c => c ≠ '/' ∧ c ≠ '?' ∧ c ≠ '#'
  | _ => cs

def splitTarget (target : String) : String × String :=
  let cs := (withoutHost target.toList).takeWhile (· ≠ '#')
  let path := cs.takeWhile (· ≠ '?')
  (String.ofList path, String.ofList (cs.drop (path.length + 1)))

/-- What the daemon may have to wait for before it can answer: whether the scheduler is running, and
the report of the last cycle. -/
inductive LookUp
  | running
  | report
  deriving DecidableEq

def lookUps (method target : String) : List LookUp :=
  match Endpoint.ofPath (splitTarget target).1 with
  | some .status => if Endpoint.status.allows method then [.running, .report] else []
  | some .lastCycle => if Endpoint.lastCycle.allows method then [.report] else []
  | _ => []

def respond (view : View) (cors : Bool) (method target : String) : StateM Scheduler Response :=
  let (path, query) := splitTarget target
  dispatch view cors method query (Endpoint.ofPath path)

end ModelFleet.Api
