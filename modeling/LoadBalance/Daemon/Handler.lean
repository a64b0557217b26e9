import LoadBalance.Daemon.CommandsInfo
import LoadBalance.Subscribers.Handler

/-!
# Requests of the daemon's clients

`process_slave_wrapper.cpp`: a client of the daemon that was verified can have a text shown to a
subscriber, set up where catchups are, and ask who is online.
-/

namespace LoadBalance

open LoadBalance.Action

/-- `ProtocoledDaemonClient`. -/
structure DaemonClient where
  address : ClientId
  verified : Bool
deriving DecidableEq, Repr

/-- The parameters are those of the request, nothing when there are none or they are no JSON. -/
def handleRequestClientSendMessageForSubscriber [Fastotv] (sur : Surroundings)
    (dclient : DaemonClient) (id : RequestId) (params : Option JsonObject) : Call Unit :=
  if !dclient.verified then fail .inval
  else match params with
    | none => fail .inval
    | some jnotify => match NotifySubscriberInfo.deSerialize jnotify with
      | none => fail .inval
      | some notify => do
        match ← result (sendSubscriberNotification sur notify.uid notify.deviceId notify) with
        | .error err =>
          attempt (write sur dclient.address
            (.daemonReply dclient.address id (.sendSubscriberMessageFail err)))
          fail err
        | .ok () =>
          write sur dclient.address
            (.daemonReply dclient.address id .sendSubscriberMessageSuccess)

/-- A reply to a client of the daemon. -/
def daemonReply (sur : Surroundings) (dclient : ClientId) (id : RequestId) (r : DaemonReply) :
    Call Unit :=
  write sur dclient (.daemonReply dclient id r)

def handleRequestClientPingService (sur : Surroundings) (dclient : DaemonClient) (id : RequestId)
    (params : Params Unit) : Call Unit :=
  if !dclient.verified then fail .inval
  else withParams params fun _ => daemonReply sur dclient.address id .pong

/-- The catchups have a new place from now on. -/
def setupCatchupsEndpoint (info : CatchupEndpointInfo) : Call Unit :=
  modify fun s => { s with catchupEndpoint := info }

def handleRequestClientPrepareService (sur : Surroundings) (dclient : DaemonClient)
    (id : RequestId) (params : Params PrepareInfo) : Call Unit :=
  if !dclient.verified then fail .inval
  else withParams params fun stateInfo => do
    setupCatchupsEndpoint ⟨stateInfo.catchupsHost, stateInfo.catchupsHttpRoot⟩
    let clients ← reads getOnlineSubscribers
    daemonReply sur dclient.address id (.prepareServiceSuccess ⟨clients⟩)

def handleRequestClientSyncService (sur : Surroundings) (dclient : DaemonClient) (id : RequestId)
    (params : Params Unit) : Call Unit :=
  if !dclient.verified then fail .inval
  else withParams params fun _ => daemonReply sur dclient.address id .syncServiceSuccess

end LoadBalance
