import LoadBalance.Equiv.Connections

/-!
# What becomes of a notification

`DoDeSerialize` reads the base part of a notification into a local and then makes its result from
the two ids alone, so every notification goes out with the text, type and show time of
`NotificationTextInfo()`.  Apart from that a message arrives: one connection is told, and it is
logged in with the device, and with the user id wherever the registry is in order
(`notification_as_sent_iff`).
-/

namespace LoadBalance

open LoadBalance.Action

/-- What the base class promises: what it writes it reads again, and it leaves the two ids alone. -/
structure TextLaws [Fastotv] : Prop where
  doDeSerialize : ∀ info o o', Fastotv.textSerializeFields info o = some o' →
    Fastotv.textDoDeSerialize o' = some info
  uid : ∀ info o o', Fastotv.textSerializeFields info o = some o' →
    o'.getString notifyUidField = o.getString notifyUidField
  deviceId : ∀ info o o', Fastotv.textSerializeFields info o = some o' →
    o'.getString notifyDidField = o.getString notifyDidField

def Output.isNotification : Output → Bool
  | .notification _ _ => true
  | _ => false

section

variable [Fastotv]

/-- Between the two states one connection was sent a notification: it is logged in with the user id
and the device, and it reads the text, type and show time `text` in it. -/
def DeliveredAsSent (s s' : State) (text : NotificationTextInfo) (uid : UserId)
    (device : DeviceId) : Prop :=
  ∃ connection notify login params,
    (s'.sent.drop s.sent.length).filter Output.isNotification =
        [.notification connection notify] ∧
      s.loginOf connection = some login ∧ login.uid = uid ∧ login.deviceId = device ∧
      notify.serialize = some params ∧ Fastotv.textDoDeSerialize params = some text

omit [Fastotv] in
/-- The connection that is found for a user id and a device is logged in with that user id. -/
def FoundUnder (s : State) (uid : UserId) (device : DeviceId) : Prop :=
  ∀ connection, findDevice s.clients device (s.connections.at' uid) = .ok (some connection) →
    (s.loginOf connection).map ServerDBAuthInfo.uid = some uid

omit [Fastotv] in
theorem Registered.foundUnder {s : State} (h : Registered s) (uid : UserId) (device : DeviceId) :
    FoundUnder s uid device := fun _ hfound => h.mem_iff.mp (of_findDevice hfound).1

/-! ### The info -/

/-- What is written is the base part and the ids. -/
theorem textDoDeSerialize_serialize (laws : TextLaws) {notify : NotifySubscriberInfo}
    {params : JsonObject} (h : notify.serialize = some params) :
    Fastotv.textDoDeSerialize params = some notify.toNotificationTextInfo := by
  unfold NotifySubscriberInfo.serialize NotifySubscriberInfo.serializeFields at h
  split_ifs at h
  exact laws.doDeSerialize _ _ _ h

/-- What is read is the ids, whatever the base part says. -/
theorem deSerialize_serialize (laws : TextLaws) {notify : NotifySubscriberInfo}
    {params : JsonObject} (h : notify.serialize = some params) :
    NotifySubscriberInfo.deSerialize params =
      some ⟨Fastotv.notificationTextInfo, notify.uid, notify.deviceId⟩ := by
  have htext := textDoDeSerialize_serialize laws h
  unfold NotifySubscriberInfo.serialize NotifySubscriberInfo.serializeFields at h
  split_ifs at h
  have huid : params.getString notifyUidField = some notify.uid := by
    rw [laws.uid _ _ _ h, JsonObject.getString_set_ne _ _ (by decide),
      JsonObject.getString_set_self]
  have hdid : params.getString notifyDidField = some notify.deviceId := by
    rw [laws.deviceId _ _ _ h, JsonObject.getString_set_self]
  unfold NotifySubscriberInfo.deSerialize
  rw [htext, huid, hdid]
  rfl

theorem deSerialize_serialize_iff (laws : TextLaws) {notify : NotifySubscriberInfo}
    {params : JsonObject} (h : notify.serialize = some params) :
    NotifySubscriberInfo.deSerialize params = some notify ↔
      notify.toNotificationTextInfo = Fastotv.notificationTextInfo := by
  rw [deSerialize_serialize laws h, Option.some.injEq]
  constructor
  · intro heq
    rw [← heq]
  · intro heq
    rw [← heq]

/-! ### The request -/

variable {s s' : State} {sur : Surroundings}

/-- A notification that goes out goes to the connection that is found for its ids. -/
theorem sendSubscriberNotification_ok {uid : UserId} {device : DeviceId}
    {notify : NotifySubscriberInfo}
    (h : (sendSubscriberNotification sur uid device notify).run s = (.ok (), s')) :
    ∃ connection, findDevice s.clients device (s.connections.at' uid) = .ok (some connection) ∧
      notify.serialize.isSome = true ∧
      s' = { s with sent := s.sent ++ [.notification connection notify] } := by
  unfold sendSubscriberNotification at h
  obtain ⟨l, t, hl, h⟩ := run_bind_eq_ok.mp h
  rw [run_reads, Prod.mk.injEq, Outcome.ok.injEq] at hl
  obtain ⟨hl, rfl⟩ := hl
  cases l with
  | none => cases h
  | some l =>
    obtain ⟨found, t, hfound, h⟩ := run_bind_eq_ok.mp h
    rw [run_reads, Prod.mk.injEq] at hfound
    obtain ⟨hfound, rfl⟩ := hfound
    cases found with
    | none => cases h
    | some connection =>
      dsimp only at h
      unfold sendNotification at h
      obtain ⟨c, t, hc, h⟩ := run_bind_eq_ok.mp h
      obtain rfl : s = t := congrArg Prod.snd hc
      refine ⟨connection, ?_, ?_⟩
      · rw [Multimap.at', hl]
        exact hfound
      · cases hkind : c.kind with
        | http =>
          rw [hkind] at h
          cases h
        | subscriber =>
          rw [hkind] at h
          dsimp only at h
          unfold write at h
          split_ifs at h with hsome hsends
          · exact ⟨hsome, (congrArg Prod.snd h).symm⟩
          · cases h
          · cases h

/-- A message that is answered with success went out, with the text of `NotificationTextInfo()`. -/
theorem handleRequestClientSendMessageForSubscriber_ok {dclient : DaemonClient} {id : RequestId}
    {params : JsonObject} {uid : UserId} {device : DeviceId}
    (huid : params.getString notifyUidField = some uid)
    (hdevice : params.getString notifyDidField = some device)
    (h : (handleRequestClientSendMessageForSubscriber sur dclient id (some params)).run s =
      (.ok (), s')) :
    ∃ connection, findDevice s.clients device (s.connections.at' uid) = .ok (some connection) ∧
      (NotifySubscriberInfo.serialize ⟨Fastotv.notificationTextInfo, uid, device⟩).isSome = true ∧
      s'.sent = s.sent ++ [.notification connection ⟨Fastotv.notificationTextInfo, uid, device⟩,
        .daemonReply dclient.address id .sendSubscriberMessageSuccess] := by
  unfold handleRequestClientSendMessageForSubscriber at h
  split_ifs at h
  · cases h
  dsimp only at h
  cases hnotify : NotifySubscriberInfo.deSerialize params with
  | none =>
    rw [hnotify] at h
    cases h
  | some notify =>
    rw [hnotify] at h
    obtain rfl : notify = ⟨Fastotv.notificationTextInfo, uid, device⟩ := by
      unfold NotifySubscriberInfo.deSerialize at hnotify
      rw [huid, hdevice] at hnotify
      obtain ⟨text, -, hnotify⟩ := Option.bind_eq_some_iff.mp hnotify
      exact (Option.some.inj hnotify).symm
    dsimp only at h
    rw [run_bind, run_result] at h
    rcases hsend : (sendSubscriberNotification sur uid device
      ⟨Fastotv.notificationTextInfo, uid, device⟩).run s with ⟨_ | err | _, s₁⟩
    · rw [hsend] at h
      obtain ⟨connection, hfound, hsome, rfl⟩ := sendSubscriberNotification_ok hsend
      dsimp only at h
      unfold write at h
      split_ifs at h
      · refine ⟨connection, hfound, hsome, ?_⟩
        have hs' : _ = s' := congrArg Prod.snd h
        rw [← hs']
        show (s.sent ++ [_]) ++ [_] = _
        rw [List.append_assoc]
        rfl
      · cases h
    · -- A failure is told to the client, and returned.
      rw [hsend] at h
      obtain ⟨_, t, -, h⟩ := run_bind_eq_ok.mp h
      cases h
    · rw [hsend] at h
      cases h

/-- A message that is answered with success arrives as it was sent if and only if its text, type and
show time are those of `NotificationTextInfo()` and the connection found is logged in with the
user id. -/
theorem deliveredAsSent_iff (laws : TextLaws) {dclient : DaemonClient} {id : RequestId}
    {params : JsonObject} {text : NotificationTextInfo} {uid : UserId} {device : DeviceId}
    (htext : Fastotv.textDoDeSerialize params = some text)
    (huid : params.getString notifyUidField = some uid)
    (hdevice : params.getString notifyDidField = some device)
    (h : (handleRequestClientSendMessageForSubscriber sur dclient id (some params)).run s =
      (.ok (), s')) :
    DeliveredAsSent s s' text uid device ↔
      text = Fastotv.notificationTextInfo ∧ FoundUnder s uid device := by
  obtain ⟨connection, hfound, hsome, hsent⟩ :=
    handleRequestClientSendMessageForSubscriber_ok huid hdevice h
  have houts : (s'.sent.drop s.sent.length).filter Output.isNotification =
      [.notification connection ⟨Fastotv.notificationTextInfo, uid, device⟩] := by
    rw [hsent, List.drop_left]
    rfl
  constructor
  · rintro ⟨connection', notify, login, params', houts', hlogin, hloginUid, -, hserialize, hread⟩
    rw [houts, List.singleton_inj, Output.notification.injEq] at houts'
    obtain ⟨rfl, rfl⟩ := houts'
    constructor
    · rw [textDoDeSerialize_serialize laws hserialize, Option.some.injEq] at hread
      exact hread.symm
    · intro found hfound'
      rw [hfound, Outcome.ok.injEq, Option.some.injEq] at hfound'
      subst hfound'
      rw [hlogin, Option.map_some, hloginUid]
  · rintro ⟨rfl, hunder⟩
    obtain ⟨-, c, login, hc, hlogin, hloginDevice⟩ := of_findDevice hfound
    obtain ⟨params', hserialize⟩ := Option.isSome_iff_exists.mp hsome
    have hloginOf : s.loginOf connection = some login := by
      rw [State.loginOf, hc]
      exact hlogin
    have hloginUid := hunder connection hfound
    rw [hloginOf, Option.map_some, Option.some.injEq] at hloginUid
    exact ⟨connection, _, login, params', houts, hloginOf, hloginUid, hloginDevice, hserialize,
      textDoDeSerialize_serialize laws hserialize⟩

/-- Exactly the messages with the text of `NotificationTextInfo()` survive, in the decoder and on
the whole way; and as long as no connection has logged in twice, the connection that is told
is logged in with the user id. -/
theorem notification_as_sent_iff (laws : TextLaws) :
    (∀ (notify : NotifySubscriberInfo) (params : JsonObject), notify.serialize = some params →
      (NotifySubscriberInfo.deSerialize params = some notify ↔
        notify.toNotificationTextInfo = Fastotv.notificationTextInfo)) ∧
    (∀ (s s' : State) (sur : Surroundings) (dclient : DaemonClient) (id : RequestId)
      (params : JsonObject) (text : NotificationTextInfo) (uid : UserId) (device : DeviceId),
      Fastotv.textDoDeSerialize params = some text →
      params.getString notifyUidField = some uid → params.getString notifyDidField = some device →
      (handleRequestClientSendMessageForSubscriber sur dclient id (some params)).run s =
        (.ok (), s') →
      (DeliveredAsSent s s' text uid device ↔
        text = Fastotv.notificationTextInfo ∧ FoundUnder s uid device)) ∧
    (∀ (db : Database) (endpoint : CatchupEndpointInfo) (epgUrl : Gurl) (lockedText : String)
      (es : List Event) (s : State),
      Meets step (fun o e => ∀ s, o = some s → ¬RepeatsLogin s e)
        (some (State.initial db endpoint epgUrl lockedText)) es →
      run step (some (State.initial db endpoint epgUrl lockedText)) es = some s →
      ∀ uid device, FoundUnder s uid device) :=
  ⟨fun _ _ h => deSerialize_serialize_iff laws h,
    fun _ _ _ _ _ _ _ _ _ htext huid hdevice h =>
      deliveredAsSent_iff laws htext huid hdevice h,
    fun db endpoint epgUrl lockedText _ _ hmeets hrun =>
      (registered_run (registered_initial db endpoint epgUrl lockedText) hmeets hrun).foundUnder⟩

end

/-! A text for a subscriber. -/

namespace Sample

theorem textLaws : TextLaws where
  doDeSerialize info o o' h := by
    obtain rfl := Option.some.inj h
    have htext : JsonObject.get? (((o.set "message" (.string info.text)).set "type"
        (.int info.type.toInt64)).set "show_time" (.int info.showTime)) "message" =
          some (.string info.text) := by
      rw [JsonObject.get?_set_ne _ _ (by decide), JsonObject.get?_set_ne _ _ (by decide),
        JsonObject.get?_set_self]
    have htype : JsonObject.get? (((o.set "message" (.string info.text)).set "type"
        (.int info.type.toInt64)).set "show_time" (.int info.showTime)) "type" =
          some (.int info.type.toInt64) := by
      rw [JsonObject.get?_set_ne _ _ (by decide), JsonObject.get?_set_self]
    simp only [Fastotv.textDoDeSerialize, htext, htype, JsonObject.get?_set_self,
      Int32.toInt32_toInt64]
  uid info o o' h := by
    obtain rfl := Option.some.inj h
    rw [JsonObject.getString_set_ne _ _ (by decide), JsonObject.getString_set_ne _ _ (by decide),
      JsonObject.getString_set_ne _ _ (by decide)]
  deviceId info o o' h := by
    obtain rfl := Option.some.inj h
    rw [JsonObject.getString_set_ne _ _ (by decide), JsonObject.getString_set_ne _ _ (by decide),
      JsonObject.getString_set_ne _ _ (by decide)]

def hello : NotifySubscriberInfo := ⟨⟨"Hello", 1, 5000⟩, (oid 1).text, (oid 5).text⟩

/-- The parameters of the request. -/
def helloParams : JsonObject :=
  [("id", .string (oid 1).text), ("device_id", .string (oid 5).text),
    ("message", .string "Hello"), ("type", .int 1), ("show_time", .int 5000)]

/-- The subscriber is logged in. -/
def loggedIn : List Event := [.accept 7 .subscriber, .request 7 sur (loginRequest (oid 5))]

end Sample

open Sample in
/-- The text, the type and the show time are lost. -/
theorem notification_not_as_sent :
    hello.serialize = some helloParams ∧ hello.isValid = true ∧
      NotifySubscriberInfo.deSerialize helloParams =
        some ⟨⟨"", 0, 0⟩, (oid 1).text, (oid 5).text⟩ ∧
      ∃ s s', run step (some start) loggedIn = some s ∧
        (handleRequestClientSendMessageForSubscriber sur ⟨9, true⟩ (some "3")
          (some helloParams)).run s = (.ok (), s') ∧
        s'.sent.drop s.sent.length =
          [.notification 7 ⟨⟨"", 0, 0⟩, (oid 1).text, (oid 5).text⟩,
            .daemonReply 9 (some "3") .sendSubscriberMessageSuccess] :=
  ⟨rfl, by decide, rfl, _, _, rfl, rfl, by decide⟩

open Sample in
theorem notification_as_sent_iff_sample :
    (NotifySubscriberInfo.deSerialize helloParams = some hello ↔
      hello.toNotificationTextInfo = Fastotv.notificationTextInfo) ∧
    ∃ s s', run step (some start) loggedIn = some s ∧
      (handleRequestClientSendMessageForSubscriber sur ⟨9, true⟩ (some "3")
        (some helloParams)).run s = (.ok (), s') ∧
      (DeliveredAsSent s s' ⟨"Hello", 1, 5000⟩ (oid 1).text (oid 5).text ↔
        (⟨"Hello", 1, 5000⟩ : NotificationTextInfo) = Fastotv.notificationTextInfo ∧
          FoundUnder s (oid 1).text (oid 5).text) ∧
      FoundUnder s (oid 1).text (oid 5).text := by
  obtain ⟨hinfo, hmessage, hfound⟩ := notification_as_sent_iff textLaws
  refine ⟨hinfo hello helloParams rfl, _, _, rfl, rfl, ?_, ?_⟩
  · exact hmessage _ _ sur ⟨9, true⟩ (some "3") helloParams _ _ _ rfl rfl rfl rfl
  · refine hfound (Sample.database account [] List.nodup_nil) endpoint ⟨"http://epg", true⟩ "locked"
      loggedIn _ ⟨?_, ?_, trivial⟩ rfl _ _
    · intro s hs
      exact id
    · rintro s hs ⟨-, hlogin, -⟩
      obtain rfl := Option.some.inj hs
      exact hlogin rfl

end LoadBalance
