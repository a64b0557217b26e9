import LoadBalance.Subscribers.Responses

/-!
# The ping timer of the subscribers

`SubscribersHandler::TimerEmited`: every connection of the loop is pinged, and closed when this does
not succeed.  Whoever is logged in and has not told about the client is asked to.
-/

namespace LoadBalance

open LoadBalance.Action

/-- One tick of the timer: the connections to which the ping is written, and those to which the
question after it is, with the ids of these requests. -/
structure PingTick where
  sendsPing : ClientId → Bool
  sendsQuestion : ClientId → Bool
  pingId : ClientId → String
  questionId : ClientId → String

/-- What the balancer does to the state that the loops share. -/
def sharedState {α : Type} (x : Call α) : BalancerCall α :=
  zoom Balancer.toService (fun s t => { s with toService := t }) (shared x)

/-- `WriteRequest`: a request that is written waits for its response. -/
def writeRequest (sends : Bool) (client : ClientId) (id : String) (method : ServerMethod) :
    BalancerCall Unit :=
  if sends then
    modify fun s => { s with
      requests := Function.update s.requests client ((s.requests client).insert id method) }
  else fail .socket

/-- The body of the loop over the connections. -/
def pingSubscriber (tick : PingTick) (client : ClientId) : BalancerCall Unit := do
  match ← result (writeRequest (tick.sendsPing client) client (tick.pingId client) .ping) with
  | .error _ =>
    sharedState (closeAndDelete client)
    forgetClosed
  | .ok () =>
    let c ← sharedState (deref client)
    match c.login with
    | none => pure ()
    | some _ =>
      let known ← reads fun s => .ok (s.clInfo client)
      if known then pure ()
      else attempt (writeRequest (tick.sendsQuestion client) client (tick.questionId client)
        .getClientInfo)

/-- The loop over the connections that `GetClients` gave. -/
def pingSubscribers (tick : PingTick) : List ClientId → BalancerCall Unit
  | [] => pure ()
  | client :: rest => do
    pingSubscriber tick client
    pingSubscribers tick rest

/-- What happens to the balancer, with the ticks of the timer. -/
inductive TimedEvent where
  | balancer (e : BalancerEvent)
  /-- The connections are in the order in which the loop has them. -/
  | pingTimer (tick : PingTick) (online : List ClientId)

/-- Every connection of a subscriber once. -/
structure State.IsOnline (s : State) (online : List ClientId) : Prop where
  nodup : online.Nodup
  mem_iff : ∀ client, client ∈ online ↔ s.isSubscriber client = true

section

variable [Fastotv] [License]

/-- What the handler does. -/
def TimedEvent.action : TimedEvent → BalancerCall Unit
  | .balancer e => e.action
  | .pingTimer tick online => pingSubscribers tick online

/-- The balancer after an event, nothing when the process is gone. -/
def timedStep (s : Option Balancer) (e : TimedEvent) : Option Balancer := do
  let s ← s
  match (e.action).run s with
  | (.abort, _) => none
  | (_, s') => some s'

end

end LoadBalance
