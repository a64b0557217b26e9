import LoadBalance.Daemon.ServerInfo
import LoadBalance.Mongo.Catchup

/-!
# The infos of the daemon are read back

What the service and its clients write of an info the other side reads back: the set up of the
catchups, the subscribers that are online, and what the service tells of itself
(`infos_round_trip`).  Of a host whose text does not convert the decoder of `FullServiceInfo` makes
the default one, so only the others are read back.
-/

namespace LoadBalance

/-! ### Set up and snapshot -/

theorem FrontSubscriberInfo.deSerialize_serialize {info : FrontSubscriberInfo} {o : JsonObject}
    (h : info.serialize = some o) : deSerialize (.object o) = some info := by
  unfold serialize at h
  split_ifs at h
  obtain rfl := Option.some.inj h
  rfl

/-- Of the clients those are read back that were written, the valid ones. -/
theorem StateInfo.deSerialize_serialize (state : StateInfo) :
    deSerialize state.serialize =
      some ⟨state.onlineClients.filter FrontSubscriberInfo.isValid⟩ := by
  have hclients : (state.onlineClients.filterMap fun client => client.serialize.map
      Json.object).filterMap FrontSubscriberInfo.deSerialize =
        state.onlineClients.filter FrontSubscriberInfo.isValid := by
    rw [List.filterMap_filterMap, ← List.filterMap_eq_filter]
    refine List.filterMap_congr fun client _ => ?_
    have hsome := client.isSome_serialize
    cases hclient : client.serialize with
    | none =>
      rw [hclient] at hsome
      simp [Option.guard, ← hsome]
    | some o =>
      rw [hclient] at hsome
      simp [Option.guard, ← hsome, FrontSubscriberInfo.deSerialize_serialize hclient]
  unfold serialize deSerialize
  simp only [JsonObject.getArray, JsonObject.get?_set_self]
  rw [hclients]

/-- What the libraries promise of texts: those of valid values give the values back. -/
structure ConversionLaws [Fastotv] [HostTexts] : Prop where
  host : ∀ host, Fastotv.hostValid host = true →
    HostTexts.hostOf (Fastotv.hostText host) = some host
  directory : ∀ dir, Fastotv.directoryValid dir = true → Fastotv.directory dir.path = dir

theorem PrepareInfo.deSerialize_serialize [Fastotv] [HostTexts] (laws : ConversionLaws)
    {info : PrepareInfo} (hhost : Fastotv.hostValid info.catchupsHost = true)
    (hroot : Fastotv.directoryValid info.catchupsHttpRoot = true) :
    deSerialize info.serialize = some info := by
  obtain ⟨host, root⟩ := info
  have hne : catchupsHostField ≠ catchupsHttpRootField := by decide
  unfold serialize deSerialize
  simp only [JsonObject.getString_set_self, JsonObject.getString_set_ne _ _ hne, Option.getD_some]
  rw [laws.host host hhost, laws.directory root hroot]
  rfl

/-! ### The service -/

/-- The number of connections is read back, whatever the locals held. -/
theorem OnlineUsers.deSerialize_serialize (users : OnlineUsers) (uninit : UninitInfo) :
    deSerialize uninit users.serialize = users := by
  obtain ⟨daemon, http, subscribers⟩ := users
  have hdaemon : onlineUsersDaemonField ≠ onlineUsersHttpField ∧
      onlineUsersDaemonField ≠ onlineUsersSubscribersField := by decide
  have hhttp : onlineUsersHttpField ≠ onlineUsersSubscribersField := by decide
  unfold serialize deSerialize
  simp [JsonObject.getUInt, JsonObject.getInt, JsonObject.get?_set, hdaemon, hhttp]

/-- What the libraries promise of their classes: they write and read the fields `keys`, which are
none of the others, and read back what they wrote. -/
structure MachineLaws (Machine OS : Type) [MachineInfos Machine OS] (keys : List String) :
    Prop where
  foreign : ∀ k ∈ keys, k ∉ [onlineUsersField, osField, versionField, projectField, httpHostField,
    expirationTimeField]
  writes : ∀ (x : Machine) (o : JsonObject), ∃ o' : JsonObject,
    MachineInfos.machineSerializeFields OS x o = some o' ∧
      (∀ k, k ∉ keys → o'.get? k = o.get? k) ∧
      MachineInfos.machineDoDeSerialize OS o' = some x
  reads : ∀ o o' : JsonObject, (∀ k ∈ keys, o.get? k = o'.get? k) →
    MachineInfos.machineDoDeSerialize OS o = (MachineInfos.machineDoDeSerialize OS o' :
      Option Machine)
  os : ∀ x : OS, ∃ o, MachineInfos.osSerialize Machine x = some o ∧
    MachineInfos.osDeSerialize Machine o = some x

/-- The host that is read for the text of one. -/
def rereadHost [Fastotv] [HostTexts] (host : HostAndPort) : HostAndPort :=
  (HostTexts.hostOf (Fastotv.hostText host)).getD HostTexts.hostAndPort

section

variable {Machine OS : Type} [MachineInfos Machine OS] {keys : List String}

theorem MachineLaws.not_mem (laws : MachineLaws Machine OS keys) {k : String}
    (h : k ∈ [onlineUsersField, osField, versionField, projectField, httpHostField,
      expirationTimeField]) : k ∉ keys := fun hk => laws.foreign k hk h

/-- The fields of a server go into an object next to others, and are read back. -/
theorem ServerInfo.deSerialize_serializeFields (laws : MachineLaws Machine OS keys)
    (info : ServerInfo Machine) (uninit : UninitInfo) (o : JsonObject) :
    ∃ o' : JsonObject, info.serializeFields OS o = some o' ∧
      (∀ k ∈ [osField, versionField, projectField, httpHostField, expirationTimeField],
        o'.get? k = o.get? k) ∧
      deSerialize OS uninit o' = some info := by
  obtain ⟨machine, users⟩ := info
  obtain ⟨o₁, ho₁, hframe, hread⟩ := laws.writes machine o
  refine ⟨o₁.set onlineUsersField (.object users.serialize), ?_, fun k hk => ?_, ?_⟩
  · unfold serializeFields
    rw [ho₁]
    rfl
  · have hne : k ≠ onlineUsersField := by
      rintro rfl
      exact absurd hk (by decide)
    rw [JsonObject.get?_set_ne _ _ hne]
    exact hframe k (laws.not_mem (List.mem_cons_of_mem _ hk))
  · have hmachine : MachineInfos.machineDoDeSerialize OS
        (o₁.set onlineUsersField (.object users.serialize)) = some machine := by
      rw [← hread]
      refine laws.reads _ _ fun k hk => ?_
      have hne : k ≠ onlineUsersField := by
        rintro rfl
        exact laws.not_mem List.mem_cons_self hk
      exact JsonObject.get?_set_ne _ _ hne
    unfold deSerialize
    rw [hmachine]
    simp only [JsonObject.getObject, JsonObject.get?_set_self]
    rw [users.deSerialize_serialize]
    rfl

/-- The whole info is read back, but for the host when its text gives another. -/
theorem FullServiceInfo.deSerialize_serialize [Fastotv] [HostTexts]
    (laws : MachineLaws Machine OS keys) (info : FullServiceInfo Machine OS)
    (uninit : UninitInfo) :
    ∃ o, info.serialize = some o ∧
      deSerialize uninit o = some { info with httpHost := rereadHost info.httpHost } := by
  obtain ⟨server, host, expTime, project, projVer, os⟩ := info
  obtain ⟨jos, hjos, hos⟩ := laws.os os
  -- The fields of the class itself, before the base part is added.
  let own : JsonObject := ((((JsonObject.set [] httpHostField (.string (Fastotv.hostText host))).set
    expirationTimeField (.int expTime)).set projectField (.string project)).set versionField
    (.string projVer)).set osField (.object jos)
  obtain ⟨o, ho, hframe, hserver⟩ := ServerInfo.deSerialize_serializeFields laws server uninit own
  have hget : ∀ k ∈ [osField, versionField, projectField, httpHostField, expirationTimeField],
      o.get? k = own.get? k := hframe
  have hosField : o.get? osField = some (.object jos) := by
    rw [hget osField (by decide)]
    rfl
  have hversion : o.get? versionField = some (.string projVer) := by
    rw [hget versionField (by decide)]
    rfl
  have hproject : o.get? projectField = some (.string project) := by
    rw [hget projectField (by decide)]
    rfl
  have hhost : o.get? httpHostField = some (.string (Fastotv.hostText host)) := by
    rw [hget httpHostField (by decide)]
    rfl
  have hexp : o.get? expirationTimeField = some (.int expTime) := by
    rw [hget expirationTimeField (by decide)]
    rfl
  refine ⟨o, ?_, ?_⟩
  · unfold serialize
    rw [hjos]
    exact ho
  · have hreados : readOS Machine o = some os := by
      unfold readOS JsonObject.getObject
      rw [hosField]
      exact hos
    unfold deSerialize
    rw [hserver, hreados]
    simp only [JsonObject.getString, JsonObject.getInt, hversion, hproject, hhost, hexp]
    rfl

end

/-- What is written is read back: of a set up with a valid host and directory, of what the service
tells of itself, of the parts of it, and of a valid subscriber the whole, and of a snapshot the
valid clients.  Only the host of the service may change, when it is not a valid one. -/
theorem infos_round_trip [Fastotv] [HostTexts] {Machine OS : Type} [MachineInfos Machine OS]
    (keys : List String) (laws : ConversionLaws) (machineLaws : MachineLaws Machine OS keys) :
    (∀ info : PrepareInfo, Fastotv.hostValid info.catchupsHost = true →
      Fastotv.directoryValid info.catchupsHttpRoot = true →
      PrepareInfo.deSerialize info.serialize = some info) ∧
    (∀ (info : FullServiceInfo Machine OS) uninit, ∃ o, info.serialize = some o ∧
      FullServiceInfo.deSerialize uninit o =
        some { info with httpHost := rereadHost info.httpHost } ∧
      (Fastotv.hostValid info.httpHost = true →
        FullServiceInfo.deSerialize uninit o = some info)) ∧
    (∀ (info : ServerInfo Machine) uninit, ∃ o, info.serializeFields OS [] = some o ∧
      ServerInfo.deSerialize OS uninit o = some info) ∧
    (∀ (users : OnlineUsers) uninit, OnlineUsers.deSerialize uninit users.serialize = users) ∧
    (∀ info : FrontSubscriberInfo, info.isValid = true → ∃ o, info.serialize = some o ∧
      FrontSubscriberInfo.deSerialize (.object o) = some info) ∧
    ∀ state : StateInfo, StateInfo.deSerialize state.serialize =
      some ⟨state.onlineClients.filter FrontSubscriberInfo.isValid⟩ := by
  refine ⟨fun info => PrepareInfo.deSerialize_serialize laws, fun info uninit => ?_,
    fun info uninit => ?_, OnlineUsers.deSerialize_serialize, fun info hvalid => ?_,
    StateInfo.deSerialize_serialize⟩
  · obtain ⟨o, ho, hread⟩ := info.deSerialize_serialize machineLaws uninit
    refine ⟨o, ho, hread, fun hhost => ?_⟩
    have hsame : rereadHost info.httpHost = info.httpHost := by
      unfold rereadHost
      rw [laws.host _ hhost]
      rfl
    rw [hread, hsame]
  · obtain ⟨o, ho, -, hread⟩ := info.deSerialize_serializeFields machineLaws uninit []
    exact ⟨o, ho, hread⟩
  · rw [← info.isSome_serialize] at hvalid
    obtain ⟨o, ho⟩ := Option.isSome_iff_exists.mp hvalid
    exact ⟨o, ho, FrontSubscriberInfo.deSerialize_serialize ho⟩

/-! A machine with a single number, and hosts that are read up to the last colon. -/

namespace Sample

/-- The libraries with paths of directories that end in a slash, which the valid ones do. -/
abbrev slashEnded : Fastotv :=
  { fastotv with
    directory := fun text => ⟨if text.toList.getLast? = some '/' then text else text ++ "/"⟩
    directoryValid := fun dir => dir.path.toList.getLast? = some '/' }

/-- The host and the port of a text, which are apart by the last colon; an empty host is none. -/
def hostOfText (text : String) : Option HostAndPort :=
  let reversed := text.toList.reverse
  let port := (reversed.takeWhile (· ≠ ':')).reverse
  match reversed.dropWhile (· ≠ ':') with
  | _ :: c :: host =>
    if port.all Char.isDigit then
      some ⟨String.ofList (c :: host).reverse, UInt16.ofNat (Nat.ofDigitChars 10 port 0)⟩
    else none
  | _ => none

scoped instance hostTexts : HostTexts where
  hostAndPort := ⟨"", 0⟩
  hostOf := hostOfText

scoped instance machineInfos : MachineInfos Int64 String where
  machineSerializeFields uptime o := some (o.set "uptime" (.int uptime))
  machineDoDeSerialize o := o.getInt "uptime"
  makeOSSnapshot := "linux"
  osSerialize name := some (JsonObject.set [] "name" (.string name))
  osDeSerialize o := o.getString "name"
  projectName := "fastocloud"
  projectVersion := "1.0"

theorem conversionLaws_slashEnded : @ConversionLaws slashEnded hostTexts := by
  let _ := slashEnded
  refine ⟨fun host hvalid => ?_, fun dir hvalid => ?_⟩
  · obtain ⟨name, port⟩ := host
    have hname : name ≠ "" := of_decide_eq_true hvalid
    obtain ⟨c, rest, hrest⟩ : ∃ c rest, name.toList.reverse = c :: rest := by
      refine List.exists_cons_of_ne_nil fun h => hname ?_
      rw [List.reverse_eq_nil_iff] at h
      exact String.toList_inj.mp h
    have hdigits : ∀ d ∈ (Nat.toDigits 10 port.toNat).reverse, d.isDigit = true := fun d hd =>
      Nat.isDigit_of_mem_toDigits (by decide) (by decide) (List.mem_reverse.mp hd)
    have hcolon : ∀ d ∈ (Nat.toDigits 10 port.toNat).reverse, decide (d ≠ ':') = true := by
      intro d hd
      refine decide_eq_true ?_
      rintro rfl
      exact absurd (hdigits _ hd) (by decide)
    have htext : (Fastotv.hostText ⟨name, port⟩).toList.reverse =
        (Nat.toDigits 10 port.toNat).reverse ++ ':' :: c :: rest := by
      show (name ++ ":" ++ toString port.toNat).toList.reverse = _
      rw [Nat.toString_eq_ofList_toDigits]
      simp [← hrest]
    show hostOfText _ = _
    unfold hostOfText
    dsimp only
    rw [htext, List.takeWhile_append_of_pos hcolon, List.dropWhile_append_of_pos hcolon,
      List.takeWhile_cons_of_neg (by simp), List.dropWhile_cons_of_neg (by simp),
      List.append_nil, List.reverse_reverse]
    show (if _ then _ else _) = _
    rw [if_pos (List.all_eq_true.mpr fun d hd => hdigits d (List.mem_reverse.mpr hd)),
      Nat.ofDigitChars_ten_toDigits, ← hrest]
    simp
  · have hslash : dir.path.toList.getLast? = some '/' := of_decide_eq_true hvalid
    show Directory.mk (if _ then _ else _) = _
    rw [if_pos hslash]

theorem machineLaws_uptime : MachineLaws Int64 String ["uptime"] where
  foreign := by decide
  writes uptime o := by
    refine ⟨o.set "uptime" (.int uptime), rfl, fun k hk => ?_, ?_⟩
    · exact JsonObject.get?_set_ne o _ fun h => hk (by rw [h]; exact List.mem_singleton_self _)
    · show JsonObject.getInt _ _ = _
      simp [JsonObject.getInt]
  reads o o' h := by
    show o.getInt _ = o'.getInt _
    unfold JsonObject.getInt
    rw [h _ (List.mem_singleton_self _)]
  os name := ⟨_, rfl, rfl⟩

/-- A service that was given no host, only a port. -/
def hostlessService : FullServiceInfo Int64 String :=
  ⟨⟨60, ⟨1, 2, 3⟩⟩, ⟨"", 8080⟩, 1000, "fastocloud", "1.0", "linux"⟩

end Sample

open Sample in
theorem infos_round_trip_sample :
    @PrepareInfo.deSerialize slashEnded hostTexts (@PrepareInfo.serialize slashEnded
      ⟨⟨"localhost", 8080⟩, ⟨"/catchups/"⟩⟩) = some ⟨⟨"localhost", 8080⟩, ⟨"/catchups/"⟩⟩ := by
  let _ := slashEnded
  obtain ⟨hprepare, -⟩ := infos_round_trip ["uptime"] conversionLaws_slashEnded machineLaws_uptime
  exact hprepare _ rfl rfl

open Sample in
/-- The text of a service without a host is that of no host: the default one is read for it. -/
theorem hostless_not_reread :
    @ConversionLaws slashEnded hostTexts ∧ MachineLaws Int64 String ["uptime"] ∧
      ∃ o, @FullServiceInfo.serialize Int64 String _ slashEnded hostlessService = some o ∧
        ∀ uninit, FullServiceInfo.deSerialize uninit o =
            some { hostlessService with httpHost := ⟨"", 0⟩ } ∧
          FullServiceInfo.deSerialize uninit o ≠ some hostlessService := by
  refine ⟨conversionLaws_slashEnded, machineLaws_uptime, _, rfl, fun uninit => ⟨rfl, fun h => ?_⟩⟩
  have hhost : some (⟨"", 0⟩ : HostAndPort) = some ⟨"", 8080⟩ :=
    congrArg (Option.map FullServiceInfo.httpHost) h
  exact absurd hhost (by decide)

end LoadBalance
