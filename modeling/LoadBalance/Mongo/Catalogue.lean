import LoadBalance.Mongo.UserStreams

/-!
# What a subscriber is shown

The read paths of the manager: the whole catalogue of a subscriber (`clientGetChannels`), a single
stream of it (`findStream`, `findVod`, `findCatchup`), and the place from which a channel is
served (`clientFindHttpDirectoryOrUrlForChannel`).
-/

namespace LoadBalance

/-! ### Walks over an array of a subscriber -/

/-- The elements of an array field, none when the field is absent or no array. -/
def arrayField (doc : Doc) (k : String) : List Bson :=
  match doc.get? k with
  | some (.array a) => a
  | _ => []

/-- What each element gives, in their order. -/
def walk {α : Type} (f : Bson → Outcome Error (Option α)) (a : List Bson) :
    Outcome Error (List α) := do
  let l ← a.mapM f
  pure (l.filterMap id)

/-- A decoder that refuses a document leaves it out. -/
def decoded {α : Type} : Outcome Unit α → Outcome Error (Option α)
  | .ok a => .ok (some a)
  | .error _ => .ok none
  | .abort => .abort

/-- The stream document of an entry of a subscriber's array, its type, and what the entry says
about it.  Entries that are not documents, have no `sid`, or point to no stream document with a
class are passed over; a `sid` that is no object id is a null pointer. -/
def listedStream (db : Database) : Bson → Outcome Error (Option (Doc × StreamType × UserStreamInfo))
  | .document rec =>
    let (bsid, iter) := iterFind userStreamIdField rec
    match bsid with
    | none => .ok none
    | some v => match v.asOid? with
      | none => .abort
      | some oid => match db.streams.findId? oid with
        | none => .ok none
        | some sdoc => match streamType? sdoc.toDoc with
          | none => .ok none
          | some st => .ok (some (sdoc.toDoc, st, makeUserStreamInfo iter))
  | _ => .ok none

/-- The body of the three walks over streams: the info of an entry's stream with the `private` flag
of the entry, where the decoder accepts the stream and the walk shows what is as visible as it
is. -/
def listedInfo {α : Type} (db : Database)
    (decode : Doc → StreamType → UserStreamInfo → Outcome Unit (α × Bool)) (shows : Bool → Bool)
    (e : Bson) : Outcome Error (Option (Bool × α)) := do
  match ← listedStream db e with
  | none => pure none
  | some (sdoc, st, uinf) =>
    match ← decoded (decode sdoc st uinf) with
    | some (info, visible) => pure (if shows visible then some (uinf.priv, info) else none)
    | none => pure none

section

variable [Fastotv]

def listedChannel (env : Env) (db : Database) :
    Bson → Outcome Error (Option (Bool × ChannelInfo)) :=
  listedInfo db (makeChannelInfo env.uninit) fun visible => visible

/-- The visibility is not asked for. -/
def listedVod (env : Env) (db : Database) : Bson → Outcome Error (Option (Bool × VodInfo)) :=
  listedInfo db (makeVodInfo env.uninit) fun _ => true

/-- Neither the visibility nor, later, the `private` flag is asked for. -/
def listedCatchup (env : Env) (db : Database) :
    Bson → Outcome Error (Option (Bool × CatchupInfo)) :=
  listedInfo db (makeCatchupInfo env.uninit) fun _ => true

/-- The views of the episodes: for each one those of the first serial among the VODs with its
id. -/
def episodeViews (vods : List VodInfo) (episodes : List StreamId) : UInt64 :=
  episodes.foldl (fun total episode =>
    match vods.find? fun v => Fastotv.isSerial v.movie.type && v.streamId = episode with
    | some v => total + v.viewCount
    | none => total) 0

def listedSerial (env : Env) (db : Database) (lvods : List VodInfo) (e : Bson) :
    Outcome Error (Option SerialInfo) :=
  match e.asOid? with
  | none => .abort
  | some sid => match db.series.findId? sid with
    | none => .ok none
    | some sdoc => do
      match ← decoded (makeSerialInfo env.uninit sdoc.toDoc) with
      | some (ser, _) => pure (some { ser with viewCount := episodeViews lvods ser.episodes })
      | none => pure none

end

def listedRequest (env : Env) (db : Database) (e : Bson) :
    Outcome Error (Option ContentRequestInfo) :=
  match e.asOid? with
  | none => .abort
  | some sid => match db.requests.findId? sid with
    | none => .ok none
    | some sdoc => decoded (makeContentRequestInfo env.uninit sdoc.toDoc)

/-- The lists that `ClientGetChannels` fills. -/
structure Catalogue where
  chans : List ChannelInfo
  vods : List VodInfo
  pchans : List ChannelInfo
  pvods : List VodInfo
  catchups : List CatchupInfo
  series : List SerialInfo
  contentRequests : List ContentRequestInfo
deriving DecidableEq, Repr

/-- The infos whose entries have this value of the `private` flag. -/
def withPrivate {α : Type} (priv : Bool) (l : List (Bool × α)) : List α :=
  l.filterMap fun x => if x.1 = priv then some x.2 else none

/-- The subscriber with this login: a query for the field `email`. -/
def findByEmail (db : Database) (login : String) : Option StoredDoc :=
  db.subscribers.find? fun d => d.toDoc.fieldMatches emailField (Bson.matchesUtf8 (cstr login))

section

variable [Fastotv]

def clientGetChannels (env : Env) (db : Database) (auth : AuthInfo) : Outcome Error Catalogue := do
  if !Fastotv.authValid auth then
    .error .inval
  else match findByEmail db auth.login with
    | none => .error (.message "User not found")
    | some sub =>
      let doc := sub.toDoc
      let chans ← walk (listedChannel env db) (arrayField doc userStreamsField)
      let vods ← walk (listedVod env db) (arrayField doc userVodsField)
      let catchups ← walk (listedCatchup env db) (arrayField doc userCatchupsField)
      let lvods := withPrivate false vods
      let series ← walk (listedSerial env db lvods) (arrayField doc seriesField)
      let contentRequests ← walk (listedRequest env db) (arrayField doc requestsField)
      pure
        { chans := withPrivate false chans
          vods := lvods
          pchans := withPrivate true chans
          pvods := withPrivate true vods
          catchups := catchups.map Prod.snd
          series := series
          contentRequests := contentRequests }

/-! ### A single stream -/

/-- What the three functions below share.  The flags are looked for in the subscriber's document
itself, from its first field on. -/
def findUserStream (env : Env) (db : Database) (auth : ServerDBAuthInfo) (sid : StreamId)
    (arr : String) : Outcome Error (Doc × StreamType × UserStreamInfo) :=
  if !auth.isValid || sid = Fastotv.invalidStreamId then
    .error .inval
  else match convertFromString env.beyond auth.uid with
    | none => .error (.message "Invalid user id")
    | some oid => match convertFromString env.beyond sid with
      | none => .error (.message "Invalid stream id")
      | some bsid => match db.subscribers.find? (userHasStream oid bsid arr) with
        | none => .error (.message "Stream not found")
        | some doc => match db.streams.findId? bsid with
          | none => .error (.message "Stream not found")
          | some sdoc => match streamType? sdoc.toDoc with
            | none => .error (.message "Invalid stream")
            | some st => .ok (sdoc.toDoc, st, makeUserStreamInfo doc.toDoc)

/-- The info of a decoder, whatever it says about visibility. -/
def foundInfo {α : Type} : Outcome Unit (α × Bool) → Outcome Error α
  | .ok (a, _) => .ok a
  | .error _ => .error (.message "Stream not found")
  | .abort => .abort

/-- The shape of the three functions: the decoder is asked when the stream is of the wanted kind. -/
def findInfo {α : Type} (env : Env) (db : Database) (auth : ServerDBAuthInfo) (sid : StreamId)
    (arr : String) (vod : Bool)
    (decode : Doc → StreamType → UserStreamInfo → Outcome Unit (α × Bool)) : Outcome Error α := do
  let (sdoc, st, uinf) ← findUserStream env db auth sid arr
  if isVod st = vod then foundInfo (decode sdoc st uinf)
  else .error (.message "Stream not found")

def findStream (env : Env) (db : Database) (auth : ServerDBAuthInfo) (sid : StreamId) :
    Outcome Error ChannelInfo :=
  findInfo env db auth sid userStreamsField false (makeChannelInfo env.uninit)

def findVod (env : Env) (db : Database) (auth : ServerDBAuthInfo) (sid : StreamId) :
    Outcome Error VodInfo :=
  findInfo env db auth sid userVodsField true (makeVodInfo env.uninit)

def findCatchup (env : Env) (db : Database) (auth : ServerDBAuthInfo) (sid : StreamId) :
    Outcome Error CatchupInfo :=
  findInfo env db auth sid userCatchupsField false (makeCatchupInfo env.uninit)

/-! ### The place of a channel -/

/-- What `ClientFindHttpDirectoryOrUrlForChannel` gives: the one or the other. -/
inductive HttpSource where
  | directory (dir : Directory)
  | url (url : Gurl)
deriving DecidableEq, Repr

/-- The id of the first entry of a stream; a null pointer when an entry before it has a `sid` of
another type. -/
def findEntry (sid : StreamId) : List Bson → Outcome Error (Option Oid)
  | [] => .ok none
  | .document rec :: rest => match Doc.get? rec userStreamIdField with
    | none => findEntry sid rest
    | some v => match v.asOid? with
      | none => .abort
      | some oid => if oid.text = sid then .ok (some oid) else findEntry sid rest
  | _ :: rest => findEntry sid rest

/-- One block of the search: nothing when the array does not have the stream, and an error when
it has but there is nothing to serve. -/
def findSourceIn (db : Database) (doc : Doc) (arr : String) (sid : StreamId)
    (source : Doc → StreamType → Option HttpSource) : Outcome Error (Option HttpSource) := do
  match ← findEntry sid (arrayField doc arr) with
  | none => pure none
  | some oid => match db.streams.findId? oid with
    | none => .error (.message "Stream type not supported")
    | some sdoc => match streamType? sdoc.toDoc with
      | none => .error (.message "Invalid stream")
      | some st => match source sdoc.toDoc st with
        | none => .error (.message "Cant parse stream urls")
        | some s => pure (some s)

/-- The source of a stream of the arrays `streams` and `vods`, which differ in the type that
counts as proxy: the url is also given up on when there is no directory. -/
def streamSource (env : Env) (proxyType : StreamType) (cid : ChannelId) (sdoc : Doc)
    (st : StreamType) : Option HttpSource :=
  if st = proxyType then
    (getUrlFromStream sdoc st cid).map .url
  else match getHttpRootFromStream sdoc st cid with
    | none => none
    | some dir =>
      if env.isDirectoryExist dir then some (.directory dir)
      else (getUrlFromStream sdoc st cid).map .url

/-- The source of a stream of the array `catchups`. -/
def catchupSource (env : Env) (cid : ChannelId) (sdoc : Doc) (st : StreamType) :
    Option HttpSource :=
  if st = .proxy ∨ st = .vodProxy then
    (getUrlFromStream sdoc st cid).map .url
  else
    let isRequstStreams :=
      st = .codRelay ∨ st = .codEncode ∨ st = .vodEncode ∨ st = .vodRelay
    let dir := if isRequstStreams then none else getHttpRootFromStream sdoc st cid
    match dir.filter env.isDirectoryExist with
    | some dir => some (.directory dir)
    | none => (getUrlFromStream sdoc st cid).map .url

def clientFindHttpDirectoryOrUrlForChannel (env : Env) (db : Database) (auth : AuthInfo)
    (sid : StreamId) (cid : ChannelId) : Outcome Error HttpSource := do
  if !Fastotv.authValid auth || sid = Fastotv.invalidStreamId then
    .error .inval
  else match findByEmail db auth.login with
    | none => .error (.message "User not found")
    | some sub =>
      let doc := sub.toDoc
      match ← findSourceIn db doc userStreamsField sid (streamSource env .proxy cid) with
      | some s => pure s
      | none =>
        match ← findSourceIn db doc userVodsField sid (streamSource env .vodProxy cid) with
        | some s => pure s
        | none =>
          match ← findSourceIn db doc userCatchupsField sid (catchupSource env cid) with
          | some s => pure s
          | none => .error (.message "Stream not found")

end

end LoadBalance
