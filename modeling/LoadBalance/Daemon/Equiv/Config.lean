import LoadBalance.Daemon.Config
import LoadBalance.Daemon.Equiv.CommandsInfo

/-!
# What a configuration file means

The loop over the lines fills a hash, and whether that replaces values depends on the library
(`ConfigTexts.insertReplaces`).  Either way the hash holds, of the values that the lines have for a
key, the one that is in force (`foldl_insertLine`).  So settings that are written line by line are
read back field by field (`loadConfigFromFile_written`), and the order of the lines of different
keys does not matter, nor do keys that are no fields (`loadConfigFromFile_congr`).
-/

namespace LoadBalance

/-- The lines of a text, as keys and values. -/
def assignments (config : String) : List (String × String) :=
  (getLines config.toList).map fun line => getKeyValue line '='

/-- A setting can stand on a line of its own. -/
def IsWritable (setting : String × String) : Prop :=
  '=' ∉ setting.1.toList ∧ '\n' ∉ setting.1.toList ∧ '\n' ∉ setting.2.toList

instance (setting : String × String) : Decidable (IsWritable setting) :=
  inferInstanceAs (Decidable (_ ∧ _))

/-- Settings, each on its line. -/
def written (settings : List (String × String)) : String :=
  String.ofList (ofLines (settings.map fun setting =>
    setting.1.toList ++ '=' :: setting.2.toList))

/-! ### Lines -/

/-- A line is read as the setting that was written, also when there is an `=` in its value. -/
theorem getKeyValue_setting {setting : String × String} (h : '=' ∉ setting.1.toList) :
    getKeyValue (setting.1.toList ++ '=' :: setting.2.toList) '=' = setting := by
  unfold getKeyValue
  rw [splitAtFirst_append h]
  exact Prod.ext (String.ofList_toList ..) (String.ofList_toList ..)

theorem assignments_written {settings : List (String × String)}
    (h : ∀ setting ∈ settings, IsWritable setting) : assignments (written settings) = settings := by
  have hlines : ∀ line ∈ settings.map fun setting =>
      setting.1.toList ++ '=' :: setting.2.toList, '\n' ∉ line := by
    intro line hline
    obtain ⟨setting, hmem, rfl⟩ := List.mem_map.mp hline
    obtain ⟨-, hkey, hvalue⟩ := h setting hmem
    rw [List.mem_append, List.mem_cons, not_or, not_or]
    exact ⟨hkey, by decide, hvalue⟩
  have hread : ∀ setting ∈ settings,
      getKeyValue (setting.1.toList ++ '=' :: setting.2.toList) '=' = id setting :=
    fun setting hmem => getKeyValue_setting (h setting hmem).1
  unfold assignments written
  rw [String.toList_ofList, getLines_ofLines hlines, List.map_map]
  exact (List.map_congr_left hread).trans (List.map_id settings)

section

variable [ConfigTexts]

/-! ### The hash -/

/-- The value in force for a field that is a text. -/
def textInForce (values : String → List String) (field : String) : Option String :=
  inForce ConfigTexts.insertReplaces (values field)

/-- The period in force for the statistics, of the values that are times. -/
def reportInForce (values : String → List String) : Option Timestamp :=
  inForce ConfigTexts.insertReplaces ((values serviceReportNodeStatsField).filterMap
    ConfigTexts.timeOf)

/-- The hash that is filled from lines with these values. -/
def argsOf (values : String → List String) : HashValue := fun field =>
  if field ∈ serviceTextFields then (textInForce values field).map .string
  else if field = serviceReportNodeStatsField then (reportInForce values).map .time
  else none

/-- The loop is a series of insertions. -/
theorem foldl_insertLine_eq (lines : List (List Char)) (options : HashValue) :
    lines.foldl insertLine options =
      ((lines.map fun line => getKeyValue line '=').filterMap fun pair =>
        (configValueOf pair).map (Prod.mk pair.1)).foldl
        (fun table e => insertInto ConfigTexts.insertReplaces table e.1 e.2) options := by
  induction lines generalizing options with
  | nil => rfl
  | cons line lines ih =>
    rw [List.foldl_cons, ih, List.map_cons]
    unfold insertLine
    cases hvalue : configValueOf (getKeyValue line '=') with
    | none => simp [hvalue]
    | some value => simp [hvalue]

/-- The values inserted for a key are those of its lines, as far as they are inserted. -/
theorem valuesFor_filterMap (pairs : List (String × String)) (field : String) :
    valuesFor (pairs.filterMap fun pair => (configValueOf pair).map (Prod.mk pair.1)) field =
      (valuesFor pairs field).filterMap fun value => configValueOf (field, value) := by
  induction pairs with
  | nil => rfl
  | cons pair pairs ih =>
    rw [← List.singleton_append, List.filterMap_append, valuesFor_append, valuesFor_append, ih,
      List.filterMap_append]
    congr 1
    rw [valuesFor_singleton]
    by_cases hkey : pair.1 = field
    · subst hkey
      cases hvalue : configValueOf pair with
      | none => simp [hvalue, valuesFor]
      | some value => simp [hvalue, valuesFor]
    · cases hvalue : configValueOf pair with
      | none => simp [hvalue, hkey, valuesFor]
      | some value => simp [hvalue, hkey, valuesFor]

/-- What is in the hash after the loop. -/
theorem foldl_insertLine (config : String) :
    (getLines config.toList).foldl insertLine (fun _ => none) =
      argsOf (valuesFor (assignments config)) := by
  funext field
  rw [foldl_insertLine_eq, foldl_insertInto, valuesFor_filterMap]
  unfold argsOf textInForce reportInForce configValueOf
  split_ifs with htext hreport
  · -- A text comes into the hash as it stands.
    rw [List.filterMap_eq_map', inForce_map]
    rfl
  · -- The period only when it is a time.
    subst hreport
    rw [← inForce_map, List.map_filterMap]
    rfl
  · rw [List.filterMap_none, inForce_nil]

theorem readConfigFile_of_open {files : String → Option String} {path config : String}
    (hpath : path ≠ "") (hopen : files (cstr path) = some config) :
    readConfigFile files path = .ok (argsOf (valuesFor (assignments config))) := by
  unfold readConfigFile
  rw [if_neg hpath, hopen]
  exact congrArg Except.ok (foldl_insertLine config)

theorem argsOf_text {values : String → List String} {field : String}
    (h : field ∈ serviceTextFields) :
    (argsOf values field).bind ConfigValue.getAsBasicString = textInForce values field := by
  unfold argsOf
  rw [if_pos h]
  cases textInForce values field <;> rfl

theorem argsOf_reportNodeStats {values : String → List String} :
    (argsOf values serviceReportNodeStatsField).bind ConfigValue.getAsTime =
      reportInForce values := by
  unfold argsOf
  rw [if_neg (by decide), if_pos rfl]
  cases reportInForce values <;> rfl

/-! ### Settings -/

variable [Fastotv] [HostTexts]

/-- The configuration that the values of the fields mean: what is in force for a field counts when
it is of the kind of the field, and otherwise the default of the field does.  A license key that is
not valid is none. -/
structure Config.MeantBy (values : String → List String) (config : Config) : Prop where
  host : config.host = ((textInForce values serviceHostField).bind HostTexts.hostOf).getD
    Config.getDefaultHost
  subscribersHost : config.subscribersHost =
    ((textInForce values serviceSubscribersHostField).bind HostTexts.hostOf).getD
      (ConfigTexts.createDefaultRouteIPV4 subscribersPort)
  httpHost : config.httpHost =
    ((textInForce values serviceHttpHostField).bind HostTexts.hostOf).getD
      (ConfigTexts.createDefaultRouteIPV4 httpPort)
  logPath : config.logPath = (textInForce values serviceLogPathField).getD dummyLogFilePath
  logLevel : config.logLevel = ((textInForce values serviceLogLevelField).bind fun level =>
    ConfigTexts.textToLogLevel (cstr level)).getD Fastotv.logLevelInfo
  mongodbUrl : config.mongodbUrl =
    (textInForce values serviceMongodbUrlField).getD LoadBalance.mongodbUrl
  epgUrl : config.epgUrl = (((textInForce values serviceEpgUrlField).map Fastotv.gurl).filter
    Gurl.isValid).getD (Fastotv.gurl defaultEpgUrl)
  lockedStreamText : config.lockedStreamText =
    (textInForce values serviceLockedStreamTextField).getD LoadBalance.lockedStreamText
  licenseKey : ∀ key, config.licenseKey = some key ↔
    ∃ text, textInForce values serviceLicenseKeyField = some text ∧
      ConfigTexts.makeLicense text = some key ∧ ConfigTexts.isValidExpireKey key = true
  reportNode : config.reportNode = (reportInForce values).getD reportNodeStats

omit [ConfigTexts] [Fastotv] [HostTexts] in
/-- A valid URL is taken, for any other one the default. -/
theorem epgUrl_eq_filter (url : Option Gurl) (default : Gurl) :
    (if (url.getD default).isValid then url.getD default else default) =
      (url.filter Gurl.isValid).getD default := by
  cases url with
  | none => exact ite_self default
  | some url =>
    cases hvalid : url.isValid with
    | true => simp [Option.filter, hvalid]
    | false => simp [Option.filter, hvalid]

/-- The hash gives a configuration exactly when there is a license key, and the one that the values
mean. -/
theorem configOfArgs_argsOf_eq_ok_iff {values : String → List String} {config : Config} :
    configOfArgs (argsOf values) = .ok config ↔
      values serviceLicenseKeyField ≠ [] ∧ config.MeantBy values := by
  unfold configOfArgs
  simp (disch := decide) only [argsOf_text, argsOf_reportNodeStats]
  cases hlicense : textInForce values serviceLicenseKeyField with
  | none =>
    have hnone : values serviceLicenseKeyField = [] :=
      (inForce_eq_none_iff _).mp hlicense
    simp [hnone]
  | some license =>
    have hsome : values serviceLicenseKeyField ≠ [] := fun h =>
      nomatch hlicense.symm.trans ((inForce_eq_none_iff _).mpr h)
    have hkey (key : String) :
        (ConfigTexts.makeLicense license).filter ConfigTexts.isValidExpireKey = some key ↔
          ∃ text, textInForce values serviceLicenseKeyField = some text ∧
            ConfigTexts.makeLicense text = some key ∧ ConfigTexts.isValidExpireKey key = true := by
      simp [hlicense, Option.filter_eq_some_iff]
    constructor
    · intro h
      cases h
      exact ⟨hsome, rfl, rfl, rfl, rfl, rfl, rfl, epgUrl_eq_filter .., rfl, hkey, rfl⟩
    · rintro ⟨-, hmeant⟩
      refine congrArg Except.ok (Config.ext hmeant.host.symm hmeant.subscribersHost.symm
        hmeant.logPath.symm hmeant.logLevel.symm hmeant.httpHost.symm hmeant.mongodbUrl.symm ?_
        hmeant.lockedStreamText.symm ?_ hmeant.reportNode.symm)
      · exact (epgUrl_eq_filter ..).trans hmeant.epgUrl.symm
      · exact Option.ext fun key => (hkey key).trans (hmeant.licenseKey key).symm

/-! ### Files -/

variable {files files' : String → Option String} {path path' : String}

theorem loadConfigFromFile_of_open {config : String} (hpath : path ≠ "")
    (hopen : files (cstr path) = some config) :
    loadConfigFromFile files path = configOfArgs (argsOf (valuesFor (assignments config))) := by
  unfold loadConfigFromFile
  rw [readConfigFile_of_open hpath hopen]
  rfl

/-- A file whose license key in force is not valid gives a configuration without one. -/
theorem licenseKey_eq_none {text : String} {config : Config} (hopen : files (cstr path) = some text)
    (hload : loadConfigFromFile files path = .ok config)
    (hkey : ∀ value key, textInForce (valuesFor (assignments text)) serviceLicenseKeyField =
      some value → ConfigTexts.makeLicense value = some key →
      ConfigTexts.isValidExpireKey key = false) : config.licenseKey = none := by
  have hpath : path ≠ "" := by
    rintro rfl
    cases hload
  rw [loadConfigFromFile_of_open hpath hopen, configOfArgs_argsOf_eq_ok_iff] at hload
  refine Option.eq_none_iff_forall_ne_some.mpr fun key hsome => ?_
  obtain ⟨value, hvalue, hmake, hvalid⟩ := (hload.2.licenseKey key).mp hsome
  rw [hkey value key hvalue hmake] at hvalid
  cases hvalid

omit [ConfigTexts] [Fastotv] [HostTexts] in
theorem valuesFor_ne_nil_iff {pairs : List (String × String)} {field : String} :
    valuesFor pairs field ≠ [] ↔ ∃ value, (field, value) ∈ pairs := by
  unfold valuesFor
  rw [Ne, List.map_eq_nil_iff, List.filter_eq_nil_iff]
  push Not
  constructor
  · rintro ⟨⟨key, value⟩, hmem, hkey⟩
    obtain rfl : key = field := of_decide_eq_true hkey
    exact ⟨value, hmem⟩
  · rintro ⟨value, hmem⟩
    exact ⟨_, hmem, decide_eq_true rfl⟩

/-- **Settings that are written to a file are what the configuration is made of.**  Whatever
settings stand in the lines, also with an `=` in their values, the file loads exactly when one of
them is a license key, and then as the configuration that they mean. -/
theorem loadConfigFromFile_written {settings : List (String × String)} {config : Config}
    (hpath : path ≠ "") (hsettings : ∀ setting ∈ settings, IsWritable setting)
    (hopen : files (cstr path) = some (written settings)) :
    loadConfigFromFile files path = .ok config ↔
      (∃ value, (serviceLicenseKeyField, value) ∈ settings) ∧
        config.MeantBy (valuesFor settings) := by
  rw [loadConfigFromFile_of_open hpath hopen, assignments_written hsettings,
    configOfArgs_argsOf_eq_ok_iff, valuesFor_ne_nil_iff]

/-- **The order of the lines of different fields does not matter, nor do lines of no field.**  Two
files that have for each field the same values in the same order load alike, with the same
configuration or the same error. -/
theorem loadConfigFromFile_congr {config config' : String} (hpath : path ≠ "") (hpath' : path' ≠ "")
    (hopen : files (cstr path) = some config) (hopen' : files' (cstr path') = some config')
    (hvalues : ∀ field ∈ serviceReportNodeStatsField :: serviceTextFields,
      valuesFor (assignments config) field = valuesFor (assignments config') field) :
    loadConfigFromFile files path = loadConfigFromFile files' path' := by
  obtain ⟨hreport, htexts⟩ := List.forall_mem_cons.mp hvalues
  have hargs : argsOf (valuesFor (assignments config)) =
      argsOf (valuesFor (assignments config')) := by
    funext field
    unfold argsOf textInForce reportInForce
    rw [hreport]
    split_ifs with htext
    · rw [htexts field htext]
    · rfl
    · rfl
  rw [loadConfigFromFile_of_open hpath hopen, loadConfigFromFile_of_open hpath' hopen', hargs]

end

/-! The file that comes with the image, where there is no valid license key. -/

namespace Sample

/-- The library with a hash that replaces values, and only one valid key. -/
scoped instance configTexts : ConfigTexts where
  insertReplaces := true
  timeOf text := if text ≠ "" && text.toList.all Char.isDigit then
    some (Int64.ofNat (Nat.ofDigitChars 10 text.toList 0)) else none
  textToLogLevel text := if text = "INFO" then some 6 else if text = "ERR" then some 3 else none
  makeLicense text := if text = "" then none else some text
  isValidExpireKey key := key = "key"
  createLocalHostIPV4 port := ⟨"127.0.0.1", port⟩
  createDefaultRouteIPV4 port := ⟨"0.0.0.0", port⟩

def configSettings : List (String × String) :=
  [("log_path", "~/fastocloud_load_balance.log"), ("log_level", "INFO"),
    ("host", "fastocloud_load_balance:5317"), ("mongodb_url", "mongodb://mongodb/?replicaSet=rs0"),
    ("epg_url", "https://fastotv.com/epg"), ("catchups_host", "fastocloud:8000"),
    ("report_node_stats", "often"), ("license_key", "")]

def reorderedSettings : List (String × String) :=
  configSettings.reverse ++ [("catchups_http_root", "~/streamer/hls")]

def configFiles (path : String) : Option String :=
  if path = "service.conf" then some (written configSettings)
  else if path = "reordered.conf" then some (written reorderedSettings)
  else none

theorem configSettings_writable : ∀ setting ∈ configSettings, IsWritable setting := by decide

theorem reorderedSettings_writable : ∀ setting ∈ reorderedSettings, IsWritable setting := by decide

def config : Config where
  host := ⟨"fastocloud_load_balance", 5317⟩
  subscribersHost := ⟨"0.0.0.0", 6000⟩
  logPath := "~/fastocloud_load_balance.log"
  logLevel := 6
  httpHost := ⟨"0.0.0.0", 5001⟩
  mongodbUrl := "mongodb://mongodb/?replicaSet=rs0"
  epgUrl := ⟨"https://fastotv.com/epg", true⟩
  lockedStreamText := "Locked stream"
  licenseKey := none
  reportNode := 10

theorem config_meantBy : config.MeantBy (valuesFor configSettings) where
  host := by decide
  subscribersHost := by decide
  httpHost := by decide
  logPath := by decide
  logLevel := by decide
  mongodbUrl := by decide
  epgUrl := by decide
  lockedStreamText := by decide
  licenseKey key := by
    refine iff_of_false nofun ?_
    rintro ⟨text, htext, hmake, -⟩
    obtain rfl : "" = text := Option.some.inj htext
    cases hmake
  reportNode := by decide

theorem config_loaded : loadConfigFromFile configFiles "service.conf" = .ok config := by
  have hfile : configFiles (cstr "service.conf") = some (written configSettings) := rfl
  rw [loadConfigFromFile_of_open (by decide) hfile, assignments_written configSettings_writable,
    configOfArgs_argsOf_eq_ok_iff]
  exact ⟨by decide, config_meantBy⟩

theorem configSettings_unlicensed (value key : String)
    (hvalue : textInForce (valuesFor (assignments (written configSettings)))
      serviceLicenseKeyField = some value)
    (hmake : ConfigTexts.makeLicense value = some key) :
    ConfigTexts.isValidExpireKey key = false := by
  rw [assignments_written configSettings_writable] at hvalue
  obtain rfl : "" = value := Option.some.inj hvalue
  cases hmake

end Sample

open Sample in
theorem loadConfigFromFile_written_sample :
    loadConfigFromFile configFiles "service.conf" = .ok config := by
  have hfile : configFiles (cstr "service.conf") = some (written configSettings) := rfl
  rw [loadConfigFromFile_written (by decide) configSettings_writable hfile]
  exact ⟨⟨"", by decide⟩, config_meantBy⟩

open Sample in
theorem loadConfigFromFile_congr_sample :
    loadConfigFromFile configFiles "service.conf" =
      loadConfigFromFile configFiles "reordered.conf" := by
  have hfile : configFiles (cstr "service.conf") = some (written configSettings) := rfl
  have hfile' : configFiles (cstr "reordered.conf") = some (written reorderedSettings) := rfl
  refine loadConfigFromFile_congr (by decide) (by decide) hfile hfile' fun field hfield => ?_
  rw [assignments_written configSettings_writable, assignments_written reorderedSettings_writable]
  revert field hfield
  decide

end LoadBalance
