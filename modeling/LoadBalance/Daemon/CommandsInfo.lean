import LoadBalance.Base.State

/-!
# Infos of the daemon's commands

`daemon/commands_info`: what a client of the daemon sets up, and the snapshot that it gets.
-/

namespace LoadBalance

def catchupsHostField := "catchups_host"
def catchupsHttpRootField := "catchups_http_root"
def clientsField := "online_clients"
def frontUidField := "id"
def frontLoginField := "login"
def frontDeviceIdField := "device_id"
def frontExpiredDateField := "exp_date"

/-- The conversion of texts to hosts, of the libraries. -/
class HostTexts where
  /-- `HostAndPort()`. -/
  hostAndPort : HostAndPort
  /-- `common::ConvertFromString` to a host, nothing when it fails. -/
  hostOf : String → Option HostAndPort

/-! ### `PrepareInfo` -/

structure PrepareInfo where
  catchupsHost : HostAndPort
  catchupsHttpRoot : Directory
deriving DecidableEq, Repr

section

variable [Fastotv]

/-- `PrepareInfo::SerializeFields`, into a new object. -/
def PrepareInfo.serialize (info : PrepareInfo) : JsonObject :=
  let o : JsonObject := JsonObject.set [] catchupsHostField
    (.string (Fastotv.hostText info.catchupsHost))
  o.set catchupsHttpRootField (.string info.catchupsHttpRoot.path)

/-- `PrepareInfo::DoDeSerialize`: a field that is absent counts as an empty text, and a text that is
no host as the default. -/
def PrepareInfo.deSerialize [HostTexts] (serialized : JsonObject) : Option PrepareInfo :=
  let host := (serialized.getString catchupsHostField).getD ""
  let httpRoot := (serialized.getString catchupsHttpRootField).getD ""
  some
    { catchupsHost := (HostTexts.hostOf host).getD HostTexts.hostAndPort
      catchupsHttpRoot := Fastotv.directory httpRoot }

end

/-! ### `FrontSubscriberInfo` and `StateInfo` -/

/-- `FrontSubscriberInfo::Serialize`. -/
def FrontSubscriberInfo.serialize (info : FrontSubscriberInfo) : Option JsonObject :=
  if !info.isValid then none
  else
    let o : JsonObject := JsonObject.set [] frontUidField (.string info.uid)
    let o := o.set frontLoginField (.string info.login)
    let o := o.set frontDeviceIdField (.string info.deviceId)
    some (o.set frontExpiredDateField (.int info.expiredDate))

def FrontSubscriberInfo.doDeSerialize (serialized : JsonObject) : Option FrontSubscriberInfo := do
  let sid ← serialized.getString frontUidField
  let login ← serialized.getString frontLoginField
  let did ← serialized.getString frontDeviceIdField
  let exp ← serialized.getInt frontExpiredDateField
  pure { uid := sid, login := login, deviceId := did, expiredDate := exp }

/-- `FrontSubscriberInfo::DeSerialize`, of any value: only an object has fields. -/
def FrontSubscriberInfo.deSerialize : Json → Option FrontSubscriberInfo
  | .object serialized => doDeSerialize serialized
  | _ => none

/-- `StateInfo::SerializeFields`: clients that do not serialize are left out. -/
def StateInfo.serialize (state : StateInfo) : JsonObject :=
  JsonObject.set [] clientsField
    (.array (state.onlineClients.filterMap fun client => client.serialize.map Json.object))

/-- `StateInfo::DoDeSerialize`: elements that are no clients are left out. -/
def StateInfo.deSerialize (serialized : JsonObject) : Option StateInfo :=
  match serialized.getArray clientsField with
  | some jclients => some ⟨jclients.filterMap FrontSubscriberInfo.deSerialize⟩
  | none => some ⟨[]⟩

theorem FrontSubscriberInfo.isSome_serialize (info : FrontSubscriberInfo) :
    info.serialize.isSome = info.isValid := by
  unfold serialize
  cases info.isValid <;> rfl

end LoadBalance
