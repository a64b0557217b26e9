import LoadBalance.Daemon.Handler
import LoadBalance.Http.Handler
import LoadBalance.Subscribers.Handler

/-!
# Runs of the balancer

Events come one after another: connections are opened, make requests and are closed, clients of
the daemon make requests, and the database is changed by others.  A call that ends in `abort`
is the end of the process, after which nothing happens any more.
-/

namespace LoadBalance

open LoadBalance.Action

inductive Event where
  /-- A connection is accepted; its object is new. -/
  | accept (client : ClientId) (kind : ClientKind)
  /-- A request of a subscriber. -/
  | request (client : ClientId) (sur : Surroundings) (req : SubscriberRequest)
  /-- A request over HTTP. -/
  | http (client : ClientId) (sur : HttpSurroundings) (input : HttpInput)
  /-- The other side closed the connection, or did not answer. -/
  | close (client : ClientId)
  /-- A client of the daemon has a text shown. -/
  | sendMessage (dclient : DaemonClient) (sur : Surroundings) (id : RequestId)
      (params : Option JsonObject)
  /-- Somebody else writes to the database. -/
  | database (db : Database)

section

variable [Fastotv]

/-- `SubscriberInfo()`. -/
def newClient (kind : ClientKind) : Client := ⟨kind, none, Fastotv.invalidStreamId⟩

/-- What is done for an event.  Only objects that are there cause events, and a new object is at
an address where there is none. -/
def Event.action (e : Event) : Call Unit := do
  let s ← reads fun s => .ok s
  match e with
  | .accept client kind =>
    if s.clients client = none then
      modify fun s => { s with clients := Function.update s.clients client (some (newClient kind)) }
    else pure ()
  | .request client sur req =>
    if (s.clients client).any (fun c => c.kind = .subscriber) then
      handleRequestCommand sur client req
    else pure ()
  | .http client sur input =>
    if (s.clients client).any (fun c => c.kind = .http) then
      processReceived sur client input
    else pure ()
  | .close client =>
    if (s.clients client).isSome then closeAndDelete client else pure ()
  | .sendMessage dclient sur id params =>
    handleRequestClientSendMessageForSubscriber sur dclient id params
  | .database db => modify fun s => { s with db := db }

/-- The state after an event, nothing when the process is gone. -/
def step (s : Option State) (e : Event) : Option State := do
  let s ← s
  match (e.action).run s with
  | (.abort, _) => none
  | (_, s') => some s'

end

/-- Before the first event: no connection, and nothing sent. -/
def State.initial (db : Database) (endpoint : CatchupEndpointInfo) (epgUrl : Gurl)
    (lockedText : String) : State where
  clients _ := none
  connections := ∅
  db := db
  catchupEndpoint := endpoint
  epgUrl := epgUrl
  lockedText := lockedText
  sent := []

end LoadBalance
