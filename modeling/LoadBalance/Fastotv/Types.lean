import LoadBalance.Json.Basic
import LoadBalance.Bson.Basic

/-!
# The types of the `common` and `fastotv` libraries

The balancer is written against two libraries that are not part of its sources.  Their value
types are kept here with the components the balancer reads and writes.  What it asks the
libraries to compute (parsing a URL, deciding that an info is valid, the order of two adjacent
constructor parameters) is a parameter: an instance of `Fastotv`.
-/

namespace LoadBalance

abbrev UserId := String
abbrev DeviceId := String
abbrev StreamId := String
abbrev ChannelId := UInt32
abbrev Timestamp := Int64

/-- `common::uri::GURL`: the text of a parsed URL and whether it is a valid one. -/
structure Gurl where
  text : String
  isValid : Bool
deriving DecidableEq, Repr

/-- `GURL::spec`: nothing is shown of an invalid URL. -/
def Gurl.spec (u : Gurl) : String := if u.isValid then u.text else ""

/-- `common::file_system::ascii_directory_string_path`. -/
structure Directory where
  path : String
deriving DecidableEq, Repr

/-- `common::net::HostAndPort`. -/
structure HostAndPort where
  host : String
  port : UInt16
deriving DecidableEq, Repr

inductive StreamType where
  | proxy
  | vodProxy
  | relay
  | encode
  | timeshiftPlayer
  | timeshiftRecorder
  | catchup
  | testLife
  | vodRelay
  | vodEncode
  | codRelay
  | codEncode
  | cvData
deriving DecidableEq, Repr

/-! ### Stream infos -/

structure InputUri where
  id : ChannelId
  url : Gurl
  userAgent : Option Int32
deriving DecidableEq, Repr

structure OutputUri where
  id : ChannelId
  url : Gurl
  httpRoot : Option Directory
  hlsType : Option Int32
deriving DecidableEq, Repr

structure MetaUrl where
  name : String
  url : Gurl
deriving DecidableEq, Repr

/-- `EpgInfo` without its programs, which the balancer only ever clears. -/
structure EpgInfo where
  tvgId : String
  urls : List Gurl
  displayName : String
  iconUrl : Gurl
deriving DecidableEq, Repr

/-- `MovieInfo`; the user score is the bits of a double. -/
structure MovieInfo where
  name : String
  description : String
  previewIcon : Gurl
  urls : List Gurl
  trailerUrl : Gurl
  userScore : UInt64
  primeDate : Timestamp
  country : String
  duration : Int32
  type : Int32
deriving DecidableEq, Repr

structure StreamBaseInfo where
  streamId : StreamId
  groups : List String
  iarc : Int32
  favorite : Bool
  recent : Timestamp
  interruptionTime : Timestamp
  enableAudio : Bool
  enableVideo : Bool
  parts : List StreamId
  viewCount : UInt64
  locked : Bool
  metaUrls : List MetaUrl
deriving DecidableEq, Repr

structure ChannelInfo extends StreamBaseInfo where
  epg : EpgInfo
deriving DecidableEq, Repr

structure CatchupInfo extends ChannelInfo where
  start : Timestamp
  stop : Timestamp
deriving DecidableEq, Repr

structure VodInfo extends StreamBaseInfo where
  movie : MovieInfo
deriving DecidableEq, Repr

structure SerialInfo where
  id : StreamId
  name : String
  icon : Gurl
  groups : List String
  description : String
  season : UInt64
  episodes : List StreamId
  viewCount : UInt64
deriving DecidableEq, Repr

structure ContentRequestInfo where
  id : String
  title : String
  type : Int32
  status : Int32
deriving DecidableEq, Repr

/-! ### Requests of a subscriber -/

structure LoginInfo where
  login : String
  password : String
deriving DecidableEq, Repr

structure AuthInfo extends LoginInfo where
  deviceId : DeviceId
deriving DecidableEq, Repr

structure ServerAuthInfo extends AuthInfo where
  expiredDate : Timestamp
deriving DecidableEq, Repr

structure DeviceInfo where
  id : DeviceId
  name : String
deriving DecidableEq, Repr

structure FavoriteInfo where
  channel : StreamId
  favorite : Bool
deriving DecidableEq, Repr

structure RecentStreamTimeInfo where
  channel : StreamId
  timestamp : Timestamp
deriving DecidableEq, Repr

structure InterruptStreamTimeInfo where
  channel : StreamId
  time : Timestamp
deriving DecidableEq, Repr

structure CatchupGenerateInfo where
  streamId : StreamId
  title : String
  start : Timestamp
  stop : Timestamp
deriving DecidableEq, Repr

structure CreateContentRequestInfo where
  text : String
  type : Int32
  status : Int32
deriving DecidableEq, Repr

/-- A text to be shown to a subscriber. -/
structure NotificationTextInfo where
  text : String
  type : Int32
  showTime : Timestamp
deriving DecidableEq, Repr

/-! ### What the libraries compute -/

/-- The functions and constants of the libraries that the balancer relies on. -/
class Fastotv where
  /-- `GURL(const std::string&)`. -/
  gurl : String → Gurl
  /-- `MetaUrl::IsValid`. -/
  metaUrlValid : MetaUrl → Bool
  /-- `MetaUrl()`. -/
  metaUrl : MetaUrl
  /-- `EpgInfo()`. -/
  epgInfo : EpgInfo
  /-- `MovieInfo()`. -/
  movieInfo : MovieInfo
  /-- `StreamBaseInfo::DEFAULT_IARC`. -/
  defaultIarc : Int32
  /-- The first of the two adjacent flags of the info constructors stands for audio. -/
  audioFirst : Bool
  /-- `VodInfo::IsSerial`, which looks at the type of the movie. -/
  isSerial : Int32 → Bool
  /-- The number of the enumerator `CATCHUP`. -/
  catchupNumber : ℕ
  /-- `invalid_stream_id`. -/
  invalidStreamId : StreamId
  /-- `LoginInfo::IsValid`. -/
  loginValid : LoginInfo → Bool
  /-- `AuthInfo::IsValid`. -/
  authValid : AuthInfo → Bool
  /-- `ServerAuthInfo::IsValid`. -/
  serverAuthValid : ServerAuthInfo → Bool
  favoriteValid : FavoriteInfo → Bool
  recentValid : RecentStreamTimeInfo → Bool
  interruptValid : InterruptStreamTimeInfo → Bool
  /-- `ascii_directory_string_path(const char*)`. -/
  directory : String → Directory
  directoryValid : Directory → Bool
  /-- `MakeDirectoryStringPath`. -/
  makeDirectory : Directory → String → Option Directory
  hostValid : HostAndPort → Bool
  /-- `ConvertToString(HostAndPort)`. -/
  hostText : HostAndPort → String
  /-- `LOG_LEVEL_INFO`. -/
  logLevelInfo : Int32
  /-- `CatchupInfo::Serialize` succeeds. -/
  catchupSerializes : CatchupInfo → Bool
  /-- `ContentRequestInfo::SerializeToString` succeeds. -/
  contentRequestSerializes : ContentRequestInfo → Bool
  /-- `common::ConvertFromString` to a channel id. -/
  channelId : String → Option ChannelId
  /-- `MakeFileStringPath`, as the path of the file. -/
  makeFile : Directory → String → Option String
  /-- `MimeTypes::GetType`. -/
  mimeType : String → String
  /-- `NotificationTextInfo()`. -/
  notificationTextInfo : NotificationTextInfo
  /-- `NotificationTextInfo::SerializeFields`, nothing for an error. -/
  textSerializeFields : NotificationTextInfo → JsonObject → Option JsonObject
  /-- `NotificationTextInfo::DoDeSerialize`, nothing for an error. -/
  textDoDeSerialize : JsonObject → Option NotificationTextInfo

namespace Sample

/-- The libraries on plain inputs: a text without blanks and NULs is a valid URL and infos are valid
when their texts are not empty.  Concrete runs of the model are made with it. -/
scoped instance fastotv : Fastotv where
  gurl s := ⟨s, s ≠ "" && !s.toList.contains ' ' && !s.toList.contains '\x00'⟩
  metaUrlValid u := u.name ≠ "" && u.url.isValid
  metaUrl := ⟨"", ⟨"", false⟩⟩
  epgInfo := ⟨"", [], "", ⟨"", false⟩⟩
  movieInfo := ⟨"", "", ⟨"", false⟩, [], ⟨"", false⟩, 0, 0, "", 0, 0⟩
  defaultIarc := 18
  audioFirst := true
  isSerial type := type = 1
  catchupNumber := 6
  invalidStreamId := ""
  loginValid auth := auth.login ≠ "" && auth.password ≠ ""
  authValid auth := auth.login ≠ "" && auth.password ≠ "" && auth.deviceId ≠ ""
  serverAuthValid auth := auth.login ≠ "" && auth.password ≠ "" && auth.deviceId ≠ ""
  favoriteValid info := info.channel ≠ ""
  recentValid info := info.channel ≠ ""
  interruptValid info := info.channel ≠ ""
  directory text := ⟨if text = "" then "" else text ++ "/"⟩
  directoryValid dir := dir.path ≠ ""
  makeDirectory dir name := some ⟨dir.path ++ "/" ++ name⟩
  hostValid host := host.host ≠ ""
  hostText host := host.host ++ ":" ++ toString host.port.toNat
  logLevelInfo := 6
  catchupSerializes info := info.streamId ≠ ""
  contentRequestSerializes info := info.id ≠ ""
  channelId s := if s = "1" then some 1 else none
  makeFile dir name := some (dir.path ++ name)
  mimeType _ := "application/octet-stream"
  notificationTextInfo := ⟨"", 0, 0⟩
  textSerializeFields info o := some (((o.set "message" (.string info.text)).set "type"
    (.int info.type.toInt64)).set "show_time" (.int info.showTime))
  textDoDeSerialize o := match o.get? "message", o.get? "type", o.get? "show_time" with
    | some (.string text), some (.int type), some (.int showTime) =>
      some ⟨text, type.toInt32, showTime⟩
    | _, _, _ => none

end Sample

section constructors

variable [Fastotv]

/-- The part of the info constructors that `VodInfo`, `ChannelInfo` and `CatchupInfo` share, with
the two adjacent flags in the place of the constructor's. -/
def streamBaseInfo (sid : StreamId) (groups : List String) (iarc : Int32) (favorite : Bool)
    (recent interruptionTime : Timestamp) (flag₁ flag₂ : Bool) (parts : List StreamId)
    (viewCount : UInt64) (locked : Bool) (metaUrls : List MetaUrl) : StreamBaseInfo where
  streamId := sid
  groups := groups
  iarc := iarc
  favorite := favorite
  recent := recent
  interruptionTime := interruptionTime
  enableAudio := if Fastotv.audioFirst then flag₁ else flag₂
  enableVideo := if Fastotv.audioFirst then flag₂ else flag₁
  parts := parts
  viewCount := viewCount
  locked := locked
  metaUrls := metaUrls

end constructors

end LoadBalance
