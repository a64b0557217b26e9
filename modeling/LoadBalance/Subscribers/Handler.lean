import LoadBalance.Mongo.Login

/-!
# The handler of the subscribers

`subscribers/handler.cpp`: what is done for each request of a connection.  All requests but the
activation of a device and the login itself are for logged in connections; another connection that
makes one is closed.
-/

namespace LoadBalance

open LoadBalance.Action

/-! ### Requests -/

/-- The parameters of a request after parsing. -/
inductive Params (α : Type) where
  /-- No request, no parameters, or a text that is no JSON. -/
  | absent
  /-- `DeSerialize` gives an error. -/
  | refused (err : Error)
  | decoded (a : α)
deriving DecidableEq, Repr

inductive Command where
  | activateDevice (params : Params LoginInfo)
  | login (params : Params AuthInfo)
  | ping (params : Params Unit)
  | getServerInfo
  | getChannels
  | getRuntimeChannelInfo (params : Params StreamId)
  | setFavorite (params : Params FavoriteInfo)
  | setRecent (params : Params RecentStreamTimeInfo)
  | interruptStreamTime (params : Params InterruptStreamTimeInfo)
  | generateCatchup (params : Params CatchupGenerateInfo)
  | undoCatchup (params : Params StreamId)
  | content (params : Params CreateContentRequestInfo)
  | unknown
deriving DecidableEq, Repr

structure SubscriberRequest where
  id : RequestId
  command : Command
deriving DecidableEq, Repr

/-! ### What the handlers share -/

/-- What is done with parameters that were decoded; an error of the parameters is returned. -/
def withParams {α : Type} (params : Params α) (f : α → Call Unit) : Call Unit :=
  match params with
  | .absent => fail .inval
  | .refused err => fail err
  | .decoded a => f a

/-- What is done for a connection that is logged in; another one is told so and closed. -/
def withLogin (sur : Surroundings) (client : ClientId) (id : RequestId)
    (f : ServerDBAuthInfo → Call Unit) : Call Unit := do
  match ← result (checkIsLoginClient client) with
  | .error err =>
    attempt (reply sur client id (.checkLoginFail err))
    closeAndDelete client
    fail err
  | .ok auth => f auth

/-- `*client->GetLogin()`. -/
def currentLogin (client : ClientId) : Call ServerDBAuthInfo := do
  let c ← deref client
  value c.login

/-- What is done with the result of a call; its error is told to the connection and returned. -/
def orReply {α : Type} (sur : Surroundings) (client : ClientId) (id : RequestId)
    (failure : Error → Reply) (x : Call α) (f : α → Call Unit) : Call Unit := do
  match ← result x with
  | .error err =>
    attempt (reply sur client id (failure err))
    fail err
  | .ok a => f a

/-! ### The observer -/

section

variable [Fastotv]

/-- `CatchupCreated`: an info that does not serialize is dropped. -/
def catchupCreated (serverid : String) (cat : CatchupInfo) : Call Unit :=
  if Fastotv.catchupSerializes cat then send (.broadcast (.catchupCreated serverid cat))
  else pure ()

/-- `ContentRequestCreated`. -/
def contentRequestCreated (request : ContentRequestInfo) : Call Unit :=
  if Fastotv.contentRequestSerializes request then
    send (.broadcast (.contentRequestCreated request))
  else pure ()

/-! ### Handlers -/

def handleRequestClientActivate (sur : Surroundings) (client : ClientId) (id : RequestId)
    (params : Params LoginInfo) : Call Unit :=
  match params with
  | .absent => fail .inval
  | .refused err => do
    attempt (reply sur client id (.activateDeviceFail err))
    fail err
  | .decoded uauth =>
    orReply sur client id .activateDeviceFail (clientActivate uauth) fun devices =>
      attempt (reply sur client id (.activateDeviceSuccess devices))

/-- A login that was accepted is told to the connection, and registered when that succeeded. -/
def finishClientLogin (sur : Surroundings) (client : ClientId) (id : RequestId)
    (ser : ServerDBAuthInfo) : Call Unit := do
  reply sur client id (.loginSuccess ser)
  registerInnerConnectionByHost client ser

/-- The connection is not asked whether it is logged in already. -/
def handleRequestClientLogin (sur : Surroundings) (client : ClientId) (id : RequestId)
    (params : Params AuthInfo) : Call Unit :=
  match params with
  | .absent => fail .inval
  | .refused err => do
    attempt (reply sur client id (.loginFail err))
    fail err
  | .decoded uauth =>
    orReply sur client id .loginFail (clientLogin sur.toEnv uauth)
      (finishClientLogin sur client id)

omit [Fastotv] in
def handleRequestClientPing (sur : Surroundings) (client : ClientId) (id : RequestId)
    (params : Params Unit) : Call Unit :=
  withLogin sur client id fun _ => withParams params fun _ => reply sur client id .pong

omit [Fastotv] in
def handleRequestClientGetServerInfo (sur : Surroundings) (client : ClientId) (id : RequestId) :
    Call Unit :=
  withLogin sur client id fun _ => do
    let (epgUrl, lockedText) ← reads fun s => .ok (s.epgUrl, s.lockedText)
    reply sur client id (.getServerInfoSuccess epgUrl lockedText)

def handleRequestClientGetChannels (sur : Surroundings) (client : ClientId) (id : RequestId) :
    Call Unit :=
  withLogin sur client id fun auth =>
    orReply sur client id .getChannelsFail
      (reads fun s => clientGetChannels sur.toEnv s.db auth.toAuthInfo) fun catalogue =>
        reply sur client id (.getChannelsSuccess catalogue)

omit [Fastotv] in
/-- The watchers are counted before the connection becomes one. -/
def handleRequestClientGetRuntimeChannelInfo (sur : Surroundings) (client : ClientId)
    (id : RequestId) (params : Params StreamId) : Call Unit :=
  withLogin sur client id fun _ => withParams params fun sid => do
    let watchers ← reads fun s => getAndUpdateOnlineUserByStreamID s sid
    assign client fun c => { c with currentStreamId := sid }
    reply sur client id (.getRuntimeChannelInfoSuccess sid watchers)

/-- The database is written to for the login that the connection has by now. -/
def handleRequestClientSetFavorite (sur : Surroundings) (client : ClientId) (id : RequestId)
    (params : Params FavoriteInfo) : Call Unit :=
  withLogin sur client id fun _ => withParams params fun fav => do
    let login ← currentLogin client
    attempt (database (setFavorite sur.toEnv login fav))
    reply sur client id .getFavoriteInfoSuccess

def handleRequestClientSetRecent (sur : Surroundings) (client : ClientId) (id : RequestId)
    (params : Params RecentStreamTimeInfo) : Call Unit :=
  withLogin sur client id fun _ => withParams params fun recent => do
    let login ← currentLogin client
    attempt (database (setRecent sur.toEnv login recent))
    reply sur client id .getRecentInfoSuccess

def handleRequestInterruptStreamTime (sur : Surroundings) (client : ClientId) (id : RequestId)
    (params : Params InterruptStreamTimeInfo) : Call Unit :=
  withLogin sur client id fun _ => withParams params fun inter => do
    let login ← currentLogin client
    attempt (database (setInterruptTime sur.toEnv login inter))
    reply sur client id .getInterruptStreamTimeInfoSuccess

/-- The manager's `CreateCatchup`, with the endpoint that was set up. -/
def managerCreateCatchup (env : Env) (auth : ServerDBAuthInfo) (info : CatchupGenerateInfo) :
    Call CreatedCatchup := do
  let endpoint ← reads fun s => .ok s.catchupEndpoint
  database (createCatchup env endpoint auth info.streamId info.title info.start info.stop)

/-- Only a catchup that is new is announced. -/
def handleRequestGenerateCatchup (sur : Surroundings) (client : ClientId) (id : RequestId)
    (params : Params CatchupGenerateInfo) : Call Unit :=
  withLogin sur client id fun auth => withParams params fun catGen =>
    orReply sur client id .catchupGenerateFail (managerCreateCatchup sur.toEnv auth catGen)
      fun created =>
        orReply sur client id .catchupGenerateFail
          (database (addUserCatchup sur.toEnv auth created.cat.streamId)) fun _ => do
            (if created.isCreated then catchupCreated created.serverid created.cat else pure ())
            reply sur client id (.catchupGenerateSuccess created.cat)

def handleRequestUndoCatchup (sur : Surroundings) (client : ClientId) (id : RequestId)
    (params : Params StreamId) : Call Unit :=
  withLogin sur client id fun auth => withParams params fun sid =>
    orReply sur client id .catchupUndoFail (database (removeUserCatchup sur.toEnv auth sid))
      fun _ => reply sur client id .catchupUndoSuccess

def handleRequestContent (sur : Surroundings) (client : ClientId) (id : RequestId)
    (params : Params CreateContentRequestInfo) : Call Unit :=
  withLogin sur client id fun auth => withParams params fun request =>
    orReply sur client id .contentRequestFail
      (database (createRequestContent sur.toEnv auth request)) fun cont => do
        contentRequestCreated cont
        reply sur client id .contentRequestSuccess

/-- `HandleRequestCommand`: an unknown command is only logged. -/
def handleRequestCommand (sur : Surroundings) (client : ClientId) (req : SubscriberRequest) :
    Call Unit :=
  match req.command with
  | .activateDevice params => handleRequestClientActivate sur client req.id params
  | .login params => handleRequestClientLogin sur client req.id params
  | .ping params => handleRequestClientPing sur client req.id params
  | .getServerInfo => handleRequestClientGetServerInfo sur client req.id
  | .getChannels => handleRequestClientGetChannels sur client req.id
  | .getRuntimeChannelInfo params =>
    handleRequestClientGetRuntimeChannelInfo sur client req.id params
  | .setFavorite params => handleRequestClientSetFavorite sur client req.id params
  | .setRecent params => handleRequestClientSetRecent sur client req.id params
  | .interruptStreamTime params => handleRequestInterruptStreamTime sur client req.id params
  | .generateCatchup params => handleRequestGenerateCatchup sur client req.id params
  | .undoCatchup params => handleRequestUndoCatchup sur client req.id params
  | .content params => handleRequestContent sur client req.id params
  | .unknown => pure ()

end

end LoadBalance
