import LoadBalance.Mongo.Login

/-!
# The handler of HTTP requests

`http/handler.cpp`: a request names a file of a channel by
`user_id/password_hash/device_id/stream_id/channel_id/file`.  The first three segments are looked
at only when the connection is not logged in yet.
-/

namespace LoadBalance

open LoadBalance.Action

/-! ### Requests -/

inductive HttpMethod where
  | get
  | head
  | other
deriving DecidableEq, Repr

/-- A request after parsing. -/
structure HttpRequest where
  method : HttpMethod
  /-- `PathForRequest` of the URL, nothing when the URL is not valid. -/
  path : Option String
  /-- `ExtractFileName` of the URL. -/
  fileName : String
  /-- There is a `Connection` header that says so. -/
  keepAlive : Bool
deriving DecidableEq, Repr

/-- What is read from a connection. -/
inductive HttpInput where
  /-- The read fails, or gives nothing. -/
  | failed
  /-- The parser gives an error, with its status. -/
  | unparsed (status : ℕ) (err : Error)
  | request (request : HttpRequest)
deriving DecidableEq, Repr

/-- What `stat` and `open` say about a path. -/
inductive FileStatus where
  | missing
  | directory
  | forbidden (size mtime : ℕ)
  | regular (size mtime : ℕ)
deriving DecidableEq, Repr

structure HttpSurroundings extends Surroundings where
  /-- The socket takes the body as well. -/
  sendsBody : Bool
  file : String → FileStatus

/-- `common::Tokenize` at the slashes: the pieces between them that are not empty. -/
def tokenize (path : String) : List String :=
  ((path.toList.splitOn '/').filter fun piece => !piece.isEmpty).map String.ofList

/-! ### Responses -/

/-- `SendError`; that it does not succeed is only logged. -/
def sendError (sur : HttpSurroundings) (client : ClientId) (keepAlive : Bool)
    (status : HttpStatus) (err : Error) : Call Unit :=
  attempt (write sur.toSurroundings client (.response client (.error status err keepAlive)))

/-- The redirect to a URL. -/
def sendRedirect (sur : HttpSurroundings) (client : ClientId) (keepAlive : Bool) (url : Gurl)
    (sid : StreamId) : Call Unit := do
  match ← result (write sur.toSurroundings client
      (.response client (.redirect url.spec keepAlive))) with
  | .error _ => pure ()
  | .ok () => assign client fun c => { c with currentStreamId := sid }

/-- The file itself, which is for `GET` only; that `SendFileByFd` does not succeed is only
logged. -/
def sendFileByFd (sur : HttpSurroundings) (client : ClientId) (request : HttpRequest)
    (path : String) (size : ℕ) (sid : StreamId) : Call Unit :=
  if request.method = .get ∧ sur.sendsBody then do
    send (.response client (.file path size))
    assign client fun c => { c with currentStreamId := sid }
  else pure ()

/-- The head of a file and the file; the descriptor is closed in any case. -/
def sendOpenFile (sur : HttpSurroundings) (client : ClientId) (request : HttpRequest)
    (path : String) (size mtime : ℕ) (mime : String) (sid : StreamId) : Call Unit := do
  match ← result (write sur.toSurroundings client
      (.response client (.headers mime size mtime request.keepAlive))) with
  | .error _ => send (.closed client path)
  | .ok () => do
    sendFileByFd sur client request path size sid
    send (.closed client path)

section

variable [Fastotv]

/-- The file of a directory; `stat` and `open` are given its path as a C string. -/
def sendFile (sur : HttpSurroundings) (client : ClientId) (request : HttpRequest)
    (dir : Directory) (name : String) (sid : StreamId) : Call Unit :=
  match Fastotv.makeFile dir name with
  | none => sendError sur client request.keepAlive .notFound (.message "File not found.")
  | some path => match sur.file (cstr path) with
    | .missing => sendError sur client request.keepAlive .notFound (.message "File not found.")
    | .directory => sendError sur client request.keepAlive .badRequest (.message "Bad filename.")
    | .forbidden _ _ =>
      sendError sur client request.keepAlive .forbidden (.message "File is protected.")
    | .regular size mtime => do
      send (.opened client (cstr path))
      sendOpenFile sur client request (cstr path) size mtime
        (Fastotv.mimeType request.fileName) sid

/-- The file of a directory, or the redirect; a directory that is not valid counts as none, and then
there is no URL either. -/
def sendSource (sur : HttpSurroundings) (client : ClientId) (request : HttpRequest)
    (source : HttpSource) (name : String) (sid : StreamId) : Call Unit :=
  match source with
  | .url url => sendRedirect sur client request.keepAlive url sid
  | .directory dir =>
    if Fastotv.directoryValid dir then sendFile sur client request dir name sid
    else sendRedirect sur client request.keepAlive ⟨"", false⟩ sid

/-! ### The handler -/

/-- The login of the connection, or that of the segments, under which it is then registered. -/
def loginOfRequest (sur : HttpSurroundings) (client : ClientId) (uid : UserId)
    (password : String) (dev : DeviceId) : Call ServerDBAuthInfo := do
  match ← result (checkIsLoginClient client) with
  | .ok auth => pure auth
  | .error _ =>
    let auth ← clientLoginByUid sur.toEnv uid password dev
    registerInnerConnectionByHost client auth
    pure auth

/-- A request of a logged in connection: the stream and the channel are resolved under its
login. -/
def serveStream (sur : HttpSurroundings) (client : ClientId) (request : HttpRequest)
    (auth : ServerDBAuthInfo) (sid : StreamId) (channel name : String) : Call Unit :=
  match Fastotv.channelId channel with
  | none => sendError sur client request.keepAlive .notFound (.message "Invalid channel id.")
  | some cid => do
    match ← result (reads fun s =>
        clientFindHttpDirectoryOrUrlForChannel sur.toEnv s.db auth.toAuthInfo sid cid) with
    | .error err => sendError sur client request.keepAlive .notFound err
    | .ok source => sendSource sur client request source name sid

/-- A request with a path, by the segments of the path. -/
def servePath (sur : HttpSurroundings) (client : ClientId) (request : HttpRequest) :
    List String → Call Unit
  | uid :: password :: dev :: sid :: channel :: name :: _ => do
    match ← result (loginOfRequest sur client uid password dev) with
    | .error err => sendError sur client request.keepAlive .notFound err
    | .ok auth => serveStream sur client request auth sid channel name
  | _ => sendError sur client request.keepAlive .notFound (.message "Invalid request.")

/-- A request up to the label `finish`. -/
def serveRequest (sur : HttpSurroundings) (client : ClientId) (request : HttpRequest) :
    Call Unit :=
  if request.method = .other then pure ()
  else match request.path with
    | none => sendError sur client request.keepAlive .notFound (.message "Invalid request.")
    | some path => servePath sur client request (tokenize path)

/-- `DataReceived` and `ProcessReceived`. -/
def processReceived (sur : HttpSurroundings) (client : ClientId) (input : HttpInput) : Call Unit :=
  match input with
  | .failed => closeAndDelete client
  | .unparsed status err => do
    sendError sur client false (.unparsed status) err
    closeAndDelete client
  | .request request => do
    serveRequest sur client request
    if request.keepAlive then pure () else closeAndDelete client

end

end LoadBalance
