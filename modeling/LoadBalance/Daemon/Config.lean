import LoadBalance.Daemon.CommandsInfo
import LoadBalance.Daemon.Service
import LoadBalance.Library.Assignments

/-!
# The configuration file

`config.cpp`: the file is read line by line into a hash of values, `loadConfigFromFile` takes the
fields of the configuration out of it, and the daemon is made with what it finds.
-/

namespace LoadBalance

def serviceLogPathField := "log_path"
def serviceLogLevelField := "log_level"
def serviceHostField := "host"
def serviceHttpHostField := "http_host"
def serviceSubscribersHostField := "subscribers_host"
def serviceMongodbUrlField := "mongodb_url"
def serviceEpgUrlField := "epg_url"
def serviceLockedStreamTextField := "locked_stream_text"
def serviceLicenseKeyField := "license_key"
def serviceReportNodeStatsField := "report_node_stats"

def dummyLogFilePath := "/dev/null"
def reportNodeStats : Timestamp := 10

/-! What the build passes to the sources. -/

def clientPort : UInt16 := 5317
def subscribersPort : UInt16 := 6000
def httpPort : UInt16 := 5001
def mongodbUrl := "mongodb://localhost:27017"
def defaultEpgUrl := "https://fastotv.com/epg"
def lockedStreamText := "Locked stream"

/-- What the libraries make of the texts of a configuration. -/
class ConfigTexts where
  /-- `HashValue::Insert` replaces a value that the key has. -/
  insertReplaces : Bool
  /-- `common::ConvertFromString` to a time, nothing when it fails. -/
  timeOf : String → Option Timestamp
  textToLogLevel : String → Option Int32
  makeLicense : String → Option String
  /-- `IsValidExpireKey`, with the name of the project. -/
  isValidExpireKey : String → Bool
  createLocalHostIPV4 : UInt16 → HostAndPort
  createDefaultRouteIPV4 : UInt16 → HostAndPort

/-! ### The file -/

/-- `common::Value`, made of a string or of a time. -/
inductive ConfigValue where
  | string (text : String)
  | time (tm : Timestamp)
deriving DecidableEq, Repr

def ConfigValue.getAsBasicString : ConfigValue → Option String
  | .string text => some text
  | .time _ => none

def ConfigValue.getAsTime : ConfigValue → Option Timestamp
  | .string _ => none
  | .time tm => some tm

/-- `common::HashValue`. -/
abbrev HashValue := String → Option ConfigValue

def getKeyValue (line : List Char) (separator : Char) : String × String :=
  let pair := splitAtFirst separator line
  (String.ofList pair.1, String.ofList pair.2)

/-- The fields whose values are kept as they stand. -/
def serviceTextFields : List String :=
  [serviceLogPathField, serviceLogLevelField, serviceHostField, serviceSubscribersHostField,
    serviceHttpHostField, serviceMongodbUrlField, serviceEpgUrlField, serviceLockedStreamTextField,
    serviceLicenseKeyField]

section

variable [ConfigTexts]

/-- The value that is inserted for a line, if one is. -/
def configValueOf (pair : String × String) : Option ConfigValue :=
  if pair.1 ∈ serviceTextFields then some (.string pair.2)
  else if pair.1 = serviceReportNodeStatsField then
    (ConfigTexts.timeOf pair.2).map ConfigValue.time
  else none

/-- What the loop does with one line. -/
def insertLine (options : HashValue) (line : List Char) : HashValue :=
  let pair := getKeyValue line '='
  match configValueOf pair with
  | some value => insertInto ConfigTexts.insertReplaces options pair.1 value
  | none => options

def readConfigFile (files : String → Option String) (path : String) : Except Error HashValue :=
  if path = "" then .error (.message "Invalid config path")
  else match files (cstr path) with
    | none => .error (.message "Failed to open config file")
    | some config => .ok ((getLines config.toList).foldl insertLine fun _ => none)

end

/-! ### The configuration -/

@[ext]
structure Config where
  host : HostAndPort
  subscribersHost : HostAndPort
  logPath : String
  logLevel : Int32
  httpHost : HostAndPort
  mongodbUrl : String
  epgUrl : Gurl
  lockedStreamText : String
  licenseKey : Option String
  reportNode : Timestamp
deriving DecidableEq, Repr

section

variable [Fastotv] [HostTexts] [ConfigTexts]

def Config.getDefaultHost : HostAndPort := ConfigTexts.createLocalHostIPV4 clientPort

/-- What `load_config_from_file` takes out of the hash: only the license key is required, though not
that it is valid; every other field that is absent, or whose value is no text of its kind, has its
default. -/
def configOfArgs (args : HashValue) : Except Error Config :=
  let text (field : String) := (args field).bind ConfigValue.getAsBasicString
  match text serviceLicenseKeyField with
  | none => .error (.message (serviceLicenseKeyField ++ " field in config required"))
  | some license =>
    let epgUrl := ((text serviceEpgUrlField).map Fastotv.gurl).getD (Fastotv.gurl defaultEpgUrl)
    .ok
      { host := ((text serviceHostField).bind HostTexts.hostOf).getD Config.getDefaultHost
        subscribersHost := ((text serviceSubscribersHostField).bind HostTexts.hostOf).getD
          (ConfigTexts.createDefaultRouteIPV4 subscribersPort)
        logPath := (text serviceLogPathField).getD dummyLogFilePath
        logLevel := ((text serviceLogLevelField).bind fun level =>
          ConfigTexts.textToLogLevel (cstr level)).getD Fastotv.logLevelInfo
        httpHost := ((text serviceHttpHostField).bind HostTexts.hostOf).getD
          (ConfigTexts.createDefaultRouteIPV4 httpPort)
        mongodbUrl := (text serviceMongodbUrlField).getD mongodbUrl
        epgUrl := if epgUrl.isValid then epgUrl else Fastotv.gurl defaultEpgUrl
        lockedStreamText := (text serviceLockedStreamTextField).getD lockedStreamText
        licenseKey := (ConfigTexts.makeLicense license).filter ConfigTexts.isValidExpireKey
        reportNode := ((args serviceReportNodeStatsField).bind ConfigValue.getAsTime).getD
          reportNodeStats }

def loadConfigFromFile (files : String → Option String) (path : String) : Except Error Config := do
  let args ← readConfigFile files path
  configOfArgs args

end

/-- `ProcessSlaveWrapper(config)`, with the database that it connects to. -/
def Service.ofConfig (config : Config) (db : Database) (endpoint : CatchupEndpointInfo) : Service :=
  Service.initial (State.initial db endpoint config.epgUrl config.lockedStreamText)
    config.licenseKey

end LoadBalance
