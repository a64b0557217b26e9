import LoadBalance.Mongo.Database

/-!
# The streams of a subscriber

A subscriber document has three arrays of embedded documents, `streams`, `vods` and `catchups`,
one for each stream that was given to the subscriber.  Here are the readers and writers of one
entry: `makeUserStreamInfo`, the functions that append and remove entries, and the three setters.
-/

namespace LoadBalance

open LoadBalance.Action

def favoriteField := "favorite"
def recentField := "recent"
def privateField := "private"
def lockedField := "locked"
def interruptionTimeField := "interruption_time"
def userStreamIdField := "sid"
def userStreamsField := "streams"
def userVodsField := "vods"
def userCatchupsField := "catchups"
def seriesField := "series"
def requestsField := "requests"
def serverStreamsField := "streams"
def emailField := "email"
def catchupUserClsValue := "pyfastocloud_models.subscriber.entry.UserStream"

theorem userStreams_ne_id : userStreamsField ≠ idField := by decide
theorem userVods_ne_id : userVodsField ≠ idField := by decide
theorem userCatchups_ne_id : userCatchupsField ≠ idField := by decide
theorem requests_ne_id : requestsField ≠ idField := by decide
theorem serverStreams_ne_id : serverStreamsField ≠ idField := by decide

/-! ### Stream types -/

def proxyStr := "pyfastocloud_models.stream.entry.ProxyStream"
def vodProxyStr := "pyfastocloud_models.stream.entry.ProxyVodStream"
def codRelayStr := "pyfastocloud_models.stream.entry.CodRelayStream"
def codEncodeStr := "pyfastocloud_models.stream.entry.CodEncodeStream"
def relayStr := "pyfastocloud_models.stream.entry.RelayStream"
def encodeStr := "pyfastocloud_models.stream.entry.EncodeStream"
def vodRelayStr := "pyfastocloud_models.stream.entry.VodRelayStream"
def vodEncodeStr := "pyfastocloud_models.stream.entry.VodEncodeStream"
def timeshiftRecorderStr := "pyfastocloud_models.stream.entry.TimeshiftRecorderStream"
def timeshiftPlayerStr := "pyfastocloud_models.stream.entry.TimeshiftPlayerStream"
def catchupStr := "pyfastocloud_models.stream.entry.CatchupStream"
def testLifeStr := "pyfastocloud_models.stream.entry.TestLifeStream"
def cvDataStr := "pyfastocloud_models.stream.entry.CvDataStream"

/-- Any other class counts as a proxy stream. -/
def mongoStreamType2StreamType (data : String) : StreamType :=
  if data = proxyStr then .proxy
  else if data = vodProxyStr then .vodProxy
  else if data = relayStr then .relay
  else if data = encodeStr then .encode
  else if data = vodRelayStr then .vodRelay
  else if data = vodEncodeStr then .vodEncode
  else if data = timeshiftRecorderStr then .timeshiftRecorder
  else if data = timeshiftPlayerStr then .timeshiftPlayer
  else if data = catchupStr then .catchup
  else if data = codRelayStr then .codRelay
  else if data = codEncodeStr then .codEncode
  else if data = testLifeStr then .testLife
  else if data = cvDataStr then .cvData
  else .proxy

def isVod (st : StreamType) : Bool := st = .vodRelay || st = .vodEncode || st = .vodProxy

/-- The type that the class of a stream document stands for; nothing without a class. -/
def streamType? (sdoc : Doc) : Option StreamType :=
  match sdoc.get? streamClsField with
  | some (.utf8 cls) => some (mongoStreamType2StreamType (cstr cls))
  | _ => none

/-- The array in which the setters look for a stream of this type. -/
def userArrayField (st : StreamType) : String :=
  if isVod st then userVodsField
  else if st = .catchup then userCatchupsField
  else userStreamsField

theorem userArrayField_ne_id (st : StreamType) : userArrayField st ≠ idField := by
  unfold userArrayField
  split_ifs <;> decide

/-! ### Reading an entry -/

/-- The five fields are looked for one after another on the same iterator. -/
def makeUserStreamInfo (iter : Doc) : UserStreamInfo :=
  let (favorite, iter) := iterFind favoriteField iter
  let (priv, iter) := iterFind privateField iter
  let (locked, iter) := iterFind lockedField iter
  let (recent, iter) := iterFind recentField iter
  let (interruptionTime, _) := iterFind interruptionTimeField iter
  { favorite := (favorite.map Bson.asBool).getD false
    recent := (recent.map Bson.asDateTime).getD 0
    interruptionTime := (interruptionTime.map fun v => v.asInt32.toInt64).getD 0
    priv := (priv.map Bson.asBool).getD false
    locked := (locked.map Bson.asBool).getD false }

/-! ### Appending and removing entries -/

/-- What the three appending functions put into an entry. -/
def userStreamEntry (streamOid : Oid) : Doc :=
  [(userStreamIdField, .oid streamOid), (favoriteField, .bool false), (privateField, .bool false),
    (recentField, .dateTime 0), (interruptionTimeField, .int32 0)]

/-- An entry of the catchups array also has a class. -/
def userCatchupEntry (streamOid : Oid) : Doc :=
  userStreamEntry streamOid ++ [(streamClsField, .utf8 catchupUserClsValue)]

def addStreamToUserStreamsArray (env : Env) (userOid streamOid : Oid) : Action Database Error Unit :=
  mongoUpdate env .pushEntry .subscribers (StoredDoc.hasId userOid) userStreamsField
    userStreams_ne_id (pushOp (.document (userStreamEntry streamOid)))

def addStreamToUserVodsArray (env : Env) (userOid streamOid : Oid) : Action Database Error Unit :=
  mongoUpdate env .pushEntry .subscribers (StoredDoc.hasId userOid) userVodsField userVods_ne_id
    (pushOp (.document (userStreamEntry streamOid)))

def addStreamToUserCatchupsArray (env : Env) (userOid streamOid : Oid) :
    Action Database Error Unit :=
  mongoUpdate env .pushEntry .subscribers (StoredDoc.hasId userOid) userCatchupsField
    userCatchups_ne_id (pushOp (.document (userCatchupEntry streamOid)))

/-- `$pull` of the entries of a stream from one array of a subscriber. -/
def pullUserStream (env : Env) (userOid streamOid : Oid) (arr : String) (h : arr ≠ idField) :
    Action Database Error Unit :=
  mongoUpdate env .pullEntry .subscribers
    (fun d => d.hasId userOid && (d.fields.get? arr).isSome) arr h
    (pullOp userStreamIdField streamOid)

def removeStreamFromUserStreamsArray (env : Env) (userOid streamOid : Oid) :
    Action Database Error Unit :=
  pullUserStream env userOid streamOid userStreamsField userStreams_ne_id

def removeStreamFromUserVodsArray (env : Env) (userOid streamOid : Oid) :
    Action Database Error Unit :=
  pullUserStream env userOid streamOid userVodsField userVods_ne_id

def removeStreamFromUserCatchupsArray (env : Env) (userOid streamOid : Oid) :
    Action Database Error Unit :=
  pullUserStream env userOid streamOid userCatchupsField userCatchups_ne_id

def addStreamToServer (env : Env) (serverOid streamOid : Oid) : Action Database Error Unit :=
  mongoUpdate env .attachServer .servers (StoredDoc.hasId serverOid) serverStreamsField
    serverStreams_ne_id (pushOp (.oid streamOid))

def addContentRequestToUserArray (env : Env) (userOid requestOid : Oid) :
    Action Database Error Unit :=
  mongoUpdate env .pushRequest .subscribers (StoredDoc.hasId userOid) requestsField requests_ne_id
    (pushOp (.oid requestOid))

section

variable [Fastotv]

/-- What the six functions below share: `f` gets the ids of the subscriber and of the stream. -/
def withUserAndStream (env : Env) (auth : ServerDBAuthInfo) (sid : StreamId)
    (f : Oid → Oid → Action Database Error Unit) : Action Database Error Unit := do
  if !auth.isValid || sid = Fastotv.invalidStreamId then
    fail .inval
  else
    let oid ← orFail (convertFromString env.beyond auth.uid) (.message "Invalid user id")
    let bsid ← orFail (convertFromString env.beyond sid) (.message "Invalid stream id")
    f oid bsid

/-- The entry gets the id of the subscriber in the place of the stream's. -/
def addUserStream (env : Env) (auth : ServerDBAuthInfo) (sid : StreamId) :
    Action Database Error Unit :=
  withUserAndStream env auth sid fun oid _ => addStreamToUserStreamsArray env oid oid

def addUserVod (env : Env) (auth : ServerDBAuthInfo) (sid : StreamId) :
    Action Database Error Unit :=
  withUserAndStream env auth sid (addStreamToUserVodsArray env)

def addUserCatchup (env : Env) (auth : ServerDBAuthInfo) (sid : StreamId) :
    Action Database Error Unit :=
  withUserAndStream env auth sid (addStreamToUserCatchupsArray env)

def removeUserStream (env : Env) (auth : ServerDBAuthInfo) (sid : StreamId) :
    Action Database Error Unit :=
  withUserAndStream env auth sid (removeStreamFromUserStreamsArray env)

def removeUserVod (env : Env) (auth : ServerDBAuthInfo) (sid : StreamId) :
    Action Database Error Unit :=
  withUserAndStream env auth sid (removeStreamFromUserVodsArray env)

def removeUserCatchup (env : Env) (auth : ServerDBAuthInfo) (sid : StreamId) :
    Action Database Error Unit :=
  withUserAndStream env auth sid (removeStreamFromUserCatchupsArray env)

/-! ### Setting a field of an entry -/

/-- The entries of a stream in an array of a subscriber, as the setters look for them. -/
def userHasStream (userOid streamOid : Oid) (arr : String) (d : StoredDoc) : Bool :=
  d.hasId userOid && d.toDoc.fieldMatches arr (Bson.pathMatches userStreamIdField streamOid)

/-- What the three setters share: the stream's class selects the array, the first entry of the
stream in it gets the new value, and an update that does not succeed is only logged.  Gives the
id of the stream. -/
def setUserStreamField (env : Env) (auth : ServerDBAuthInfo) (channel : StreamId) (field : String)
    (v : Bson) : Action Database Error Oid := do
  let sid ← orFail (convertFromString env.beyond channel) (.message "Invalid stream id")
  let sdoc ← mongoFind .streams (StoredDoc.hasId sid)
  let sdoc ← orFail sdoc (.message "Stream not found")
  let st ← orFail (streamType? sdoc.toDoc) (.message "Invalid stream")
  let oid ← orFail (convertFromString env.beyond auth.uid) (.message "Invalid user id")
  attempt (mongoUpdate env .setEntry .subscribers (userHasStream oid sid (userArrayField st))
    (userArrayField st) (userArrayField_ne_id st) (setElementOp userStreamIdField sid field v))
  pure sid

def setFavorite (env : Env) (auth : ServerDBAuthInfo) (favorite : FavoriteInfo) :
    Action Database Error Unit := do
  if !Fastotv.favoriteValid favorite then
    fail .inval
  else
    let _ ← setUserStreamField env auth favorite.channel favoriteField (.bool favorite.favorite)

/-- Also counts the view. -/
def setRecent (env : Env) (auth : ServerDBAuthInfo) (recent : RecentStreamTimeInfo) :
    Action Database Error Unit := do
  if !Fastotv.recentValid recent then
    fail .inval
  else
    let sid ← setUserStreamField env auth recent.channel recentField (.dateTime recent.timestamp)
    attempt (mongoUpdate env .incViews .streams (StoredDoc.hasId sid) streamViewCountField
      viewCount_ne_id incOp)

/-- The time is stored in 32 bits. -/
def setInterruptTime (env : Env) (auth : ServerDBAuthInfo) (inter : InterruptStreamTimeInfo) :
    Action Database Error Unit := do
  if !Fastotv.interruptValid inter then
    fail .inval
  else
    let _ ← setUserStreamField env auth inter.channel interruptionTimeField
      (.int32 inter.time.toInt32)

end

end LoadBalance
