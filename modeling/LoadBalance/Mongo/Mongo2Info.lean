import LoadBalance.Bson.Collection
import LoadBalance.Bson.Decoder
import LoadBalance.Fastotv.Types

/-!
# From documents to infos

The decoders of `mongo/mongo2info.cpp`.  `makeVodInfo`, `makeCatchupInfo` and `makeChannelInfo`
walk over the fields of a stream document with the same local variables (`StreamScan`) and mostly
the same branches, so a branch is one `Field` and each decoder is the list of its branches in the
order of the source.
-/

namespace LoadBalance

/-! ### Field names -/

def streamIdField := "_id"
def streamCreateDateField := "created_date"
def streamGroupsField := "groups"
def streamIarcField := "iarc"
def streamViewCountField := "view_count"
def streamNameField := "name"
def streamMetaUrlsField := "meta"
def streamClsField := "_cls"
def streamHaveVideoField := "have_video"
def streamHaveAudioField := "have_audio"
def streamPartsField := "parts"
def streamPriceField := "price"
def streamVisibleField := "visible"
def streamLogLevelField := "log_level"
def streamLoopField := "loop"
def streamRestartAttemptsField := "restart_attempts"
def streamAutoExitField := "auto_exit_time"
def streamExtraConfigArgsField := "extra_config"
def streamVideoParserField := "video_parser"
def streamAudioParserField := "audio_parser"
def streamInputField := "input"
def streamOutputField := "output"
def streamOutputUrlsIdField := "id"
def streamOutputUrlsUriField := "uri"
def streamOutputUrlsHttpRootField := "http_root"
def streamOutputUrlsHlsTypeField := "hls_type"
def vodDescriptionField := "description"
def vodPrviewIconField := "tvg_logo"
def vodTypeField := "vod_type"
def vodTrailerUrlField := "trailer_url"
def vodUserScoreField := "user_score"
def vodPrimeDateField := "prime_date"
def vodCountryField := "country"
def vodDurationField := "duration"
def channelTvgIdField := "tvg_id"
def channelTvgNameField := "tvg_name"
def channelTvgLogoField := "tvg_logo"
def timeshiftChunkDurationField := "timeshift_chunk_duration"
def timeshiftChunkLifeTimeField := "timeshift_chunk_life_time"
def catchupStartField := "start"
def catchupStopField := "stop"
def serialIdField := "_id"
def serialGroupsField := "groups"
def serialNameField := "name"
def serialIconField := "icon"
def serialSeasonField := "season"
def serialEpisodesField := "episodes"
def serialDescriptionField := "description"
def contentRequestIdField := "_id"
def contentRequestClsField := "_cls"
def contentRequestTitleField := "title"
def contentRequestTypeField := "type"
def contentRequestStatusField := "status"
def nameField := "name"
def urlField := "url"

/-! A field that an update writes to is not the id of the document. -/

theorem parts_ne_id : streamPartsField ≠ idField := by decide
theorem viewCount_ne_id : streamViewCountField ≠ idField := by decide

def checkSumVod := 16
def checkSumCatchup := 12
def checkSumChannel := 10
def checkSumSerial := 6
def checkSumRequest := 4

/-- What the array entry of a subscriber says about a stream. -/
structure UserStreamInfo where
  favorite : Bool := false
  recent : Timestamp := 0
  interruptionTime : Timestamp := 0
  priv : Bool := false
  locked : Bool := false
deriving DecidableEq, Repr

/-- The values that locals without an initialiser happen to have. -/
structure Uninit where
  start : Timestamp
  stop : Timestamp
  season : UInt64
  type : Int32
  status : Int32
deriving DecidableEq, Repr

/-- `common::ConvertFromString(soid, &oid)`: only the empty text is refused. -/
def convertFromString (beyond : ℕ → UInt8) (soid : String) : Option Oid :=
  if soid = "" then none else some (Oid.parse beyond soid)

@[simp] theorem convertFromString_text (beyond : ℕ → UInt8) (o : Oid) :
    convertFromString beyond o.text = some o := by
  simp [convertFromString, o.text_ne_empty]

/-- `ConvertToString` of each element's object id; a null pointer on an element without one. -/
def oidTexts (a : List Bson) : Outcome Unit (List String) :=
  a.mapM fun v => match v.asOid? with
    | some o => .ok o.text
    | none => .abort

section

variable [Fastotv]

/-! ### Outputs -/

/-- One element of an output array: nothing unless it holds an int32 id and a string uri. -/
def outputUri? : Bson → Option OutputUri
  | .document d =>
    match Doc.get? d streamOutputUrlsIdField with
    | some (.int32 lcid) =>
      match Doc.get? d streamOutputUrlsUriField with
      | some (.utf8 uri) => some
        { id := lcid.toUInt32
          url := Fastotv.gurl (cstr uri)
          httpRoot := match Doc.get? d streamOutputUrlsHttpRootField with
            | some (.utf8 data) => some (Fastotv.directory (cstr data))
            | _ => none
          hlsType := match Doc.get? d streamOutputUrlsHlsTypeField with
            | some (.int32 t) => some t
            | _ => none }
      | _ => none
    | _ => none
  | _ => none

def getOutputUrlData : Bson → Option (List OutputUri)
  | .array a => some (a.filterMap outputUri?)
  | _ => none

def makeUrlsFromOutput (output : List OutputUri) : List Gurl := output.map OutputUri.url

/-- The outputs of the first output field, and among them the first with this id. -/
def findOutput (sdoc : Doc) (cid : ChannelId) : Option OutputUri := do
  let v ← sdoc.get? streamOutputField
  let urls ← getOutputUrlData v
  urls.find? (·.id = cid)

def getHttpRootFromStream (sdoc : Doc) (_st : StreamType) (cid : ChannelId) : Option Directory :=
  (findOutput sdoc cid).bind OutputUri.httpRoot

def getUrlFromStream (sdoc : Doc) (_st : StreamType) (cid : ChannelId) : Option Gurl :=
  (findOutput sdoc cid).map OutputUri.url

/-! ### Stream documents -/

/-- The local variables of the three stream decoders. -/
structure StreamScan where
  sidStr : String
  groups : List String
  iarc : Int32
  viewCount : UInt64
  epg : EpgInfo
  mov : MovieInfo
  parts : List StreamId
  metaUrls : List MetaUrl
  start : Timestamp
  stop : Timestamp
  haveAudio : Bool
  haveVideo : Bool
  visible : Bool

/-- Their values before the walk; `*visible` is false at every call. -/
def StreamScan.init (uninit : Uninit) : StreamScan where
  sidStr := ""
  groups := []
  iarc := Fastotv.defaultIarc
  viewCount := 0
  epg := Fastotv.epgInfo
  mov := Fastotv.movieInfo
  parts := []
  metaUrls := []
  start := uninit.start
  stop := uninit.stop
  haveAudio := true
  haveVideo := true
  visible := false

/-- The name and the url of a meta document, looked up one after the other. -/
def metaUrl (rec : Doc) : MetaUrl :=
  let (name, iter) := iterFind nameField rec
  let (uri, _) := iterFind urlField iter
  let url : MetaUrl := match name.bind Bson.asUtf8? with
    | some name => { Fastotv.metaUrl with name := name }
    | none => Fastotv.metaUrl
  match uri.bind Bson.asUtf8? with
  | some uri => { url with url := Fastotv.gurl uri }
  | none => url

/-- The valid meta urls of the documents of a meta array. -/
def metaUrls (a : List Bson) : List MetaUrl :=
  a.filterMap fun
    | .document rec =>
      let url := metaUrl rec
      if Fastotv.metaUrlValid url then some url else none
    | _ => none

/-! The branches of the stream decoders. -/

namespace StreamField

def id : Field StreamScan :=
  ⟨streamIdField, true, Field.onOid fun s o => { s with sidStr := o.text }⟩

def groups : Field StreamScan :=
  ⟨streamGroupsField, true, Field.onArray fun s a =>
    .ok { s with groups := s.groups ++ a.filterMap Bson.asUtf8? }⟩

def iarc : Field StreamScan :=
  ⟨streamIarcField, true, Field.onInt32 fun s i => { s with iarc := i }⟩

def viewCount : Field StreamScan :=
  ⟨streamViewCountField, true, Field.onInt32 fun s i =>
    { s with viewCount := i.toInt64.toUInt64 }⟩

def tvgId : Field StreamScan :=
  ⟨channelTvgIdField, true, Field.onUtf8 fun s x => { s with epg.tvgId := x }⟩

def displayName : Field StreamScan :=
  ⟨streamNameField, true, Field.onUtf8 fun s x => { s with epg.displayName := x }⟩

def haveAudio : Field StreamScan :=
  ⟨streamHaveAudioField, true, Field.onBool fun s b => { s with haveAudio := b }⟩

def parts : Field StreamScan :=
  ⟨streamPartsField, false, Field.onArray fun s a => do
    let ps ← oidTexts a
    .ok { s with parts := s.parts ++ ps }⟩

def metaUrlsField : Field StreamScan :=
  ⟨streamMetaUrlsField, false, Field.onArray fun s a =>
    .ok { s with metaUrls := s.metaUrls ++ metaUrls a }⟩

def haveVideo : Field StreamScan :=
  ⟨streamHaveVideoField, true, Field.onBool fun s b => { s with haveVideo := b }⟩

def start : Field StreamScan :=
  ⟨catchupStartField, true, Field.onDateTime fun s t => { s with start := t }⟩

def stop : Field StreamScan :=
  ⟨catchupStopField, true, Field.onDateTime fun s t => { s with stop := t }⟩

def iconUrl : Field StreamScan :=
  ⟨channelTvgLogoField, true, Field.onUtf8 fun s x =>
    { s with epg.iconUrl := Fastotv.gurl x }⟩

def epgOutput : Field StreamScan :=
  ⟨streamOutputField, true, fun s v => match getOutputUrlData v with
    | some urls => .ok { s with epg.urls := makeUrlsFromOutput urls }
    | none => .error ()⟩

def movieName : Field StreamScan :=
  ⟨streamNameField, true, Field.onUtf8 fun s x => { s with mov.name := x }⟩

def description : Field StreamScan :=
  ⟨vodDescriptionField, true, Field.onUtf8 fun s x => { s with mov.description := x }⟩

def previewIcon : Field StreamScan :=
  ⟨vodPrviewIconField, true, Field.onUtf8 fun s x =>
    { s with mov.previewIcon := Fastotv.gurl x }⟩

def movieOutput : Field StreamScan :=
  ⟨streamOutputField, true, fun s v => match getOutputUrlData v with
    | some urls => .ok { s with mov.urls := makeUrlsFromOutput urls }
    | none => .error ()⟩

def trailerUrl : Field StreamScan :=
  ⟨vodTrailerUrlField, true, Field.onUtf8 fun s x =>
    { s with mov.trailerUrl := Fastotv.gurl x }⟩

def userScore : Field StreamScan :=
  ⟨vodUserScoreField, true, Field.onDouble fun s x => { s with mov.userScore := x }⟩

def primeDate : Field StreamScan :=
  ⟨vodPrimeDateField, true, Field.onDateTime fun s t => { s with mov.primeDate := t }⟩

def country : Field StreamScan :=
  ⟨vodCountryField, true, Field.onUtf8 fun s x => { s with mov.country := x }⟩

def duration : Field StreamScan :=
  ⟨vodDurationField, true, Field.onInt32 fun s i => { s with mov.duration := i }⟩

def vodType : Field StreamScan :=
  ⟨vodTypeField, true, Field.onInt32 fun s i => { s with mov.type := i }⟩

def visible : Field StreamScan :=
  ⟨streamVisibleField, false, Field.onBool fun s b => { s with visible := b }⟩

end StreamField

open StreamField in
def vodFields : List (Field StreamScan) :=
  [StreamField.id, groups, iarc, viewCount, movieName, description, previewIcon, movieOutput,
    haveAudio, parts, metaUrlsField, haveVideo, trailerUrl, userScore, primeDate, country,
    duration, vodType, visible]

open StreamField in
def catchupFields : List (Field StreamScan) :=
  [StreamField.id, groups, iarc, viewCount, tvgId, displayName, haveAudio, parts, metaUrlsField,
    haveVideo, start, stop, iconUrl, epgOutput, visible]

open StreamField in
def channelFields : List (Field StreamScan) :=
  [StreamField.id, groups, iarc, viewCount, tvgId, displayName, haveAudio, parts, metaUrlsField,
    haveVideo, iconUrl, epgOutput, visible]

/-- The part of the result that the three constructors take in the same places. -/
def StreamScan.base (s : StreamScan) (uinfo : UserStreamInfo) : StreamBaseInfo :=
  streamBaseInfo s.sidStr s.groups s.iarc uinfo.favorite uinfo.recent uinfo.interruptionTime
    s.haveVideo s.haveAudio s.parts s.viewCount uinfo.locked s.metaUrls

/-- The shape of the three decoders: the walk, the check of the count, and the constructor.  Gives
the info and the value of `*visible`. -/
def decodeStream {α : Type} (fields : List (Field StreamScan)) (accepts : ℕ → Bool)
    (info : StreamScan → UserStreamInfo → α) (uninit : Uninit) (sdoc : Doc)
    (uinfo : UserStreamInfo) : Outcome Unit (α × Bool) := do
  let (s, checkSum) ← scanDoc fields (StreamScan.init uninit) sdoc
  if accepts checkSum then .ok (info s uinfo, s.visible) else .error ()

def makeVodInfo (uninit : Uninit) (sdoc : Doc) (st : StreamType) (uinfo : UserStreamInfo) :
    Outcome Unit (VodInfo × Bool) :=
  decodeStream vodFields
    (fun checkSum => checkSum = checkSumVod || (st = .vodProxy && checkSum = checkSumVod - 2))
    (fun s uinfo => { toStreamBaseInfo := s.base uinfo, movie := s.mov })
    uninit sdoc uinfo

def makeCatchupInfo (uninit : Uninit) (sdoc : Doc) (_st : StreamType) (uinfo : UserStreamInfo) :
    Outcome Unit (CatchupInfo × Bool) :=
  decodeStream catchupFields
    (fun checkSum => checkSum = checkSumCatchup)
    (fun s uinfo =>
      { toStreamBaseInfo := s.base uinfo, epg := s.epg, start := s.start, stop := s.stop })
    uninit sdoc uinfo

def makeChannelInfo (uninit : Uninit) (sdoc : Doc) (st : StreamType) (uinfo : UserStreamInfo) :
    Outcome Unit (ChannelInfo × Bool) :=
  decodeStream channelFields
    (fun checkSum =>
      checkSum = checkSumChannel || (st = .proxy && checkSum = checkSumChannel - 2))
    (fun s uinfo => { toStreamBaseInfo := s.base uinfo, epg := s.epg })
    uninit sdoc uinfo

/-! ### Series -/

/-- The local variables of `makeSerialInfo`. -/
structure SerialScan where
  sidStr : String
  groups : List String
  episodes : List StreamId
  icon : Gurl
  name : String
  description : String
  season : UInt64
  visible : Bool

def SerialScan.init (uninit : Uninit) : SerialScan where
  sidStr := ""
  groups := []
  episodes := []
  icon := ⟨"", false⟩
  name := ""
  description := ""
  season := uninit.season
  visible := false

namespace SerialField

def id : Field SerialScan :=
  ⟨serialIdField, true, Field.onOid fun s o => { s with sidStr := o.text }⟩

def groups : Field SerialScan :=
  ⟨serialGroupsField, true, Field.onArray fun s a =>
    .ok { s with groups := s.groups ++ a.filterMap Bson.asUtf8? }⟩

def season : Field SerialScan :=
  ⟨serialSeasonField, true, Field.onInt32 fun s i => { s with season := i.toInt64.toUInt64 }⟩

def name : Field SerialScan :=
  ⟨serialNameField, true, Field.onUtf8 fun s x => { s with name := x }⟩

def icon : Field SerialScan :=
  ⟨serialIconField, true, Field.onUtf8 fun s x => { s with icon := Fastotv.gurl x }⟩

def description : Field SerialScan :=
  ⟨serialDescriptionField, true, Field.onUtf8 fun s x => { s with description := x }⟩

def episodes : Field SerialScan :=
  ⟨serialEpisodesField, false, Field.onArray fun s a => do
    let es ← oidTexts a
    .ok { s with episodes := s.episodes ++ es }⟩

def visible : Field SerialScan :=
  ⟨streamVisibleField, false, Field.onBool fun s b => { s with visible := b }⟩

end SerialField

open SerialField in
def serialFields : List (Field SerialScan) :=
  [SerialField.id, groups, season, name, icon, description, episodes, visible]

/-- Gives the info and the value of `*visible`. -/
def makeSerialInfo (uninit : Uninit) (sdoc : Doc) : Outcome Unit (SerialInfo × Bool) := do
  let (s, checkSum) ← scanDoc serialFields (SerialScan.init uninit) sdoc
  if checkSum ≠ checkSumSerial then
    .error ()
  else
    .ok ({ id := s.sidStr, name := s.name, icon := s.icon, groups := s.groups,
           description := s.description, season := s.season, episodes := s.episodes,
           viewCount := 0 }, s.visible)

end

/-! ### Content requests -/

/-- The local variables of `makeContentRequestInfo`. -/
structure RequestScan where
  sidStr : String
  title : String
  type : Int32
  status : Int32

namespace RequestField

def id : Field RequestScan :=
  ⟨contentRequestIdField, true, Field.onOid fun s o => { s with sidStr := o.text }⟩

def title : Field RequestScan :=
  ⟨contentRequestTitleField, true, Field.onUtf8 fun s x => { s with title := x }⟩

def type : Field RequestScan :=
  ⟨contentRequestTypeField, true, Field.onInt32 fun s i => { s with type := i }⟩

def status : Field RequestScan :=
  ⟨contentRequestStatusField, true, Field.onInt32 fun s i => { s with status := i }⟩

end RequestField

open RequestField in
def requestFields : List (Field RequestScan) := [RequestField.id, title, type, status]

def makeContentRequestInfo (uninit : Uninit) (sdoc : Doc) : Outcome Unit ContentRequestInfo := do
  let (s, checkSum) ← scanDoc requestFields ⟨"", "", uninit.type, uninit.status⟩ sdoc
  if checkSum ≠ checkSumRequest then
    .error ()
  else
    .ok { id := s.sidStr, title := s.title, type := s.type, status := s.status }

end LoadBalance
