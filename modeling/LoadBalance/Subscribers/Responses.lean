import LoadBalance.Daemon.Service

/-!
# Responses of the subscribers

`subscribers/handler.cpp`: the balancer makes requests of its own to the subscribers, and a response
is matched by its id with the request that it is for.  With them the model has what both dispatchers
get, of the subscribers and of the daemon.
-/

namespace LoadBalance

open LoadBalance.Action

/-- The methods of the requests to a subscriber. -/
inductive ServerMethod where
  | ping
  | getClientInfo
  | textNotification
  | other (method : String)
deriving DecidableEq, Repr

/-- A response after parsing; an error has no result. -/
structure SubscriberResponse where
  id : RequestId
  result : Option (Params Unit)
deriving DecidableEq, Repr

/-- The requests that wait for a response, by their ids. -/
abbrev RequestTable := AList fun _ : String => ServerMethod

/-- The service with what the objects of the subscribers keep for the responses: the table of the
requests that wait for one, and whether the info of the client is known. -/
structure Balancer extends Service where
  requests : ClientId → RequestTable
  clInfo : ClientId → Bool

/-- A call of the balancer with the responses. -/
abbrev BalancerCall (α : Type) := Action Balancer Error α

/-- `PopRequestByID`: the requests that wait have an id. -/
def popRequestByID (client : ClientId) (sid : RequestId) : BalancerCall (Option ServerMethod) :=
  match sid with
  | none => pure none
  | some id => do
    let requests ← reads fun s => .ok (s.requests client)
    match requests.lookup id with
    | none => pure none
    | some method =>
      modify fun s => { s with
        requests := Function.update s.requests client (requests.erase id) }
      pure (some method)

/-- The id of a response is shown in the log. -/
def logResponseId (sid : RequestId) : BalancerCall Unit := do
  let _ ← value sid
  pure ()

/-- `HandleResponceServerPing`. -/
def handleResponceServerPing (resp : SubscriberResponse) : BalancerCall Unit :=
  match resp.result with
  | none => pure ()
  | some .absent => fail .inval
  | some (.refused err) => fail err
  | some (.decoded _) => pure ()

/-- `HandleResponceServerGetClientInfo`. -/
def handleResponceServerGetClientInfo (client : ClientId) (resp : SubscriberResponse) :
    BalancerCall Unit :=
  match resp.result with
  | none => pure ()
  | some .absent => fail .inval
  | some (.refused err) => fail err
  | some (.decoded _) =>
    modify fun s => { s with clInfo := Function.update s.clInfo client true }

/-- `HandleResponceCommand`; no request to a subscriber has a callback. -/
def handleResponceCommand (client : ClientId) (resp : SubscriberResponse) : BalancerCall Unit := do
  match ← popRequestByID client resp.id with
  | some .ping => handleResponceServerPing resp
  | some .getClientInfo => handleResponceServerGetClientInfo client resp
  | some .textNotification => pure ()
  | some (.other _) => logResponseId resp.id
  | none => logResponseId resp.id

/-! ### Runs with responses -/

inductive BalancerEvent where
  | service (e : ServiceEvent)
  /-- A request is written to a subscriber and waits for the response. -/
  | requested (client : ClientId) (id : String) (method : ServerMethod)
  /-- A response of a subscriber. -/
  | response (client : ClientId) (resp : SubscriberResponse)

/-- The connection is there, and one of a subscriber. -/
def State.isSubscriber (s : State) (client : ClientId) : Bool :=
  (s.clients client).any fun c => c.kind = .subscriber

/-- What was kept in the objects that are deleted is gone. -/
def forgetClosed : BalancerCall Unit :=
  modify fun s => { s with
    requests := fun client => if (s.clients client).isSome then s.requests client else ∅
    clInfo := fun client => (s.clients client).isSome && s.clInfo client }

section

variable [Fastotv] [License]

/-- What a handler returns is only logged. -/
def BalancerEvent.action (e : BalancerEvent) : BalancerCall Unit := do
  let s ← reads fun s => .ok s
  match e with
  | .service e =>
    attempt (zoom Balancer.toService (fun s t => { s with toService := t }) e.action)
    forgetClosed
  | .requested client id method =>
    if s.isSubscriber client then
      modify fun s => { s with
        requests := Function.update s.requests client ((s.requests client).insert id method) }
    else pure ()
  | .response client resp =>
    if s.isSubscriber client then attempt (handleResponceCommand client resp) else pure ()

/-- The balancer after an event, nothing when the process is gone. -/
def balancerStep (s : Option Balancer) (e : BalancerEvent) : Option Balancer := do
  let s ← s
  match (e.action).run s with
  | (.abort, _) => none
  | (_, s') => some s'

end

/-- Before the first response. -/
def Balancer.initial (s : Service) : Balancer where
  toService := s
  requests _ := ∅
  clInfo _ := false

end LoadBalance
