import LoadBalance.Mongo.Database

/-!
# Notifications for a subscriber

`daemon/commands_info/notify_subscriber_info.cpp`: a text, with the user and the device of the
connection that it is meant for.
-/

namespace LoadBalance

def notifyUidField := "id"
def notifyDidField := "device_id"

structure NotifySubscriberInfo extends NotificationTextInfo where
  uid : UserId
  deviceId : DeviceId
deriving DecidableEq, Repr

namespace NotifySubscriberInfo

def isValid (info : NotifySubscriberInfo) : Bool := info.uid ≠ "" && info.deviceId ≠ ""

variable [Fastotv]

def serializeFields (info : NotifySubscriberInfo) (o : JsonObject) : Option JsonObject :=
  if !info.isValid then none
  else
    let o := o.set notifyUidField (.string info.uid)
    let o := o.set notifyDidField (.string info.deviceId)
    Fastotv.textSerializeFields info.toNotificationTextInfo o

/-- `Serialize`: the fields go into a new object. -/
def serialize (info : NotifySubscriberInfo) : Option JsonObject := info.serializeFields []

/-- `DeSerialize`.  The base part is read into a local, the result is made from the two ids. -/
def deSerialize (serialized : JsonObject) : Option NotifySubscriberInfo := do
  let _inf ← Fastotv.textDoDeSerialize serialized
  let uid ← serialized.getString notifyUidField
  let did ← serialized.getString notifyDidField
  pure { toNotificationTextInfo := Fastotv.notificationTextInfo, uid := uid, deviceId := did }

end NotifySubscriberInfo

end LoadBalance
