import LoadBalance.Bson.Policy
import LoadBalance.Mongo.Equiv.CreateCatchup
import LoadBalance.Mongo.Equiv.Links
import LoadBalance.Mongo.Equiv.UserCatchups

/-!
# How the database evolves

What the balancer writes, of whatever request and whichever of its writes fail, changes a few fields
by the rules below and inserts documents, and does nothing else (`Evolves`); and what it makes a
document point to is a stream that is there (`PointsToExisting`).  Both are shown for the writes of
`Wrote`, for the creation of a catchup and for its push to the subscriber.
-/

namespace LoadBalance

open LoadBalance.Action

/-! ### The rules -/

/-- The device is as it was, or is active. -/
def DeviceActivated (e e' : Bson) : Prop :=
  e' = e ∨ ∃ d : Doc, e = .document d ∧
    e' = .document (d.set deviceStatusField (.int32 deviceActive))

theorem DeviceActivated.trans (e e' e'' : Bson) (h : DeviceActivated e e')
    (h' : DeviceActivated e' e'') : DeviceActivated e e'' := by
  rcases h with rfl | ⟨d, rfl, rfl⟩
  · exact h'
  · rcases h' with rfl | ⟨d', hd', rfl⟩
    · exact Or.inr ⟨d, rfl, rfl⟩
    · obtain rfl := Bson.document.inj hd'
      exact Or.inr ⟨d, rfl, by rw [Doc.set_set]⟩

/-- The entry is about the same stream. -/
def SameStream (e e' : Bson) : Prop := entrySid? e' = entrySid? e

/-- Of a subscriber, devices become active, entries of streams and VODs stay, catchups come and go,
and requests are added; its credentials, its status and its expiry date never change. -/
def subscriberPolicy : Policy := fun k =>
  if k = devicesField then .elementwise DeviceActivated DeviceActivated.trans
  else if k = userStreamsField ∨ k = userVodsField then
    .elementwise SameStream fun _ _ _ h h' => h'.trans h
  else if k = userCatchupsField then .anything
  else if k = requestsField then .grows
  else .same

/-- Of a stream, views are counted and parts added. -/
def streamPolicy : Policy := fun k =>
  if k = streamViewCountField then .repeated incOp
  else if k = streamPartsField then .grows
  else .same

/-- Of a server, streams are added. -/
def serverPolicy : Policy := fun k => if k = serverStreamsField then .grows else .same

/-- The database changed by these rules; of the series, and of the requests that are there, nothing
changes. -/
structure Evolves (db db' : Database) : Prop where
  subscribers : subscriberPolicy.Changes db.subscribers db'.subscribers
  servers : serverPolicy.Changes db.servers db'.servers
  streams : streamPolicy.Keeps db.streams db'.streams
  requests : db.requests.docs <+: db'.requests.docs
  series : db'.series = db.series

instance : IsPreorder Database Evolves where
  refl _ := ⟨Policy.Changes.refl _, Policy.Changes.refl _, Policy.Keeps.refl _,
    List.prefix_rfl, rfl⟩
  trans _ _ _ h h' := ⟨h.subscribers.trans h'.subscribers, h.servers.trans h'.servers,
    h.streams.trans h'.streams, h.requests.trans h'.requests, h'.series.trans h.series⟩

section

variable {db : Database} {c : Collection}

theorem Evolves.of_subscribers (h : subscriberPolicy.Changes db.subscribers c) :
    Evolves db (db.set .subscribers c) :=
  ⟨h, Policy.Changes.refl _, Policy.Keeps.refl _, List.prefix_rfl, rfl⟩

theorem Evolves.of_streams (h : streamPolicy.Keeps db.streams c) :
    Evolves db (db.set .streams c) :=
  ⟨Policy.Changes.refl _, Policy.Changes.refl _, h, List.prefix_rfl, rfl⟩

theorem Evolves.of_servers (h : serverPolicy.Changes db.servers c) :
    Evolves db (db.set .servers c) :=
  ⟨Policy.Changes.refl _, h, Policy.Keeps.refl _, List.prefix_rfl, rfl⟩

end

/-! ### The writes -/

/-- A setter leaves the entries about their streams, in whichever array it finds one. -/
theorem subscriberPolicy_setEntry (st : StreamType) {field : String} {sid : Oid} {value v : Bson}
    {w : Option Bson} (hfield : field ≠ userStreamIdField)
    (h : setElementOp userStreamIdField sid field value w = some v) :
    (subscriberPolicy (userArrayField st)).rel w (some v) := by
  have hentries : (Rule.elementwise SameStream fun _ _ _ h h' => h'.trans h).rel w (some v) := by
    refine Rule.elementwise_setElementOp (fun _ _ _ h h' => h'.trans h) (fun _ => rfl)
      (fun d => ?_) h
    show (Doc.get? (d.set field value) userStreamIdField).bind Bson.asOid? = _
    rw [Doc.get?_set_ne _ _ (Ne.symm hfield)]
    rfl
  unfold userArrayField
  split_ifs
  · exact hentries
  · exact trivial
  · exact hentries

theorem Evolves.of_wrote {u : Option Oid} {db db' : Database} (h : Wrote u db db') :
    Evolves db db' := by
  cases h with
  | activate h =>
    refine .of_subscribers (Policy.changes_update h fun w v hv => ?_)
    exact Rule.elementwise_setElementOp DeviceActivated.trans (fun _ => Or.inl rfl)
      (fun d => Or.inr ⟨d, rfl, rfl⟩) hv
  | @setEntry _ _ _ st _ _ _ hfield h =>
    exact .of_subscribers (Policy.changes_update h fun w v hv =>
      subscriberPolicy_setEntry st hfield hv)
  | incViews h =>
    exact .of_streams (Policy.changes_update h fun w v hv => Rule.repeated_of_op hv).keeps
  | pullCatchup h => exact .of_subscribers (Policy.changes_update h fun _ _ _ => trivial)
  | insertRequest h =>
    refine ⟨Policy.Changes.refl _, Policy.Changes.refl _, Policy.Keeps.refl _, ?_, rfl⟩
    exact ⟨_, (Collection.insert_cases h).2.1.symm⟩
  | pushRequest h =>
    exact .of_subscribers (Policy.changes_update h fun _ _ hv => Rule.grows_pushOp hv)

section

variable [Fastotv] {env : Env} {endpoint : CatchupEndpointInfo} {auth : ServerDBAuthInfo}
  {db db' : Database} {title : String} {start stop : Timestamp}

/-- The document of the catchup is inserted. -/
theorem CatchupInserted.evolves {basedOn : ChannelInfo} {bsid serverOid : Oid}
    {outputUrls : List OutputUri} {c : Collection}
    (h : CatchupInserted env endpoint basedOn title start stop db bsid serverOid outputUrls c) :
    streamPolicy.Keeps db.streams c := Policy.keeps_insert h.insert

/-- And linked. -/
theorem CatchupLinked.evolves {basedOn : ChannelInfo} {bsid serverOid : Oid}
    {outputUrls : List OutputUri} {c c' : Collection}
    (h : CatchupLinked env endpoint basedOn title start stop db bsid serverOid outputUrls c c') :
    streamPolicy.Keeps db.streams c' :=
  h.toCatchupInserted.evolves.trans
    (Policy.changes_update h.link fun _ _ hv => Rule.grows_pushOp hv).keeps

theorem CatchupRun.evolves {basedOn : ChannelInfo} {o : Outcome Error CreatedCatchup}
    (h : CatchupRun env endpoint basedOn title start stop db o db') : Evolves db db' := by
  cases h with
  | found => exact refl_of Evolves db
  | refused => exact refl_of Evolves db
  | unlinked hinserted => exact .of_streams hinserted.evolves
  | unattached hlinked => exact .of_streams hlinked.evolves
  | created hlinked _ hattach =>
    refine trans_of Evolves (.of_streams hlinked.evolves) (.of_servers ?_)
    exact Policy.changes_update hattach fun _ _ hv => Rule.grows_pushOp hv

theorem evolves_createCatchup (sid : StreamId) :
    Evolves db ((createCatchup env endpoint auth sid title start stop).run db).2 := by
  rcases createCatchup_cases env endpoint auth sid title start stop db with
    ⟨hdb, -⟩ | ⟨ch, -, hrun⟩
  · rw [hdb]
    exact refl_of Evolves db
  · rw [hrun]
    exact (catchupRun env endpoint ch title start stop db).evolves

theorem evolves_addUserCatchup {sid : StreamId} {o : Outcome Error Unit}
    (h : (addUserCatchup env auth sid).run db = (o, db')) : Evolves db db' := by
  rcases addUserCatchup_cases h with ⟨rfl, -⟩ | ⟨user, x, c, -, -, -, -, hc, -, rfl⟩
  · exact refl_of Evolves _
  · exact .of_subscribers (Policy.changes_update hc fun _ _ _ => trivial)

end

/-! ### What points to a stream -/

/-- Something that points to streams: an array of a subscriber, the parts of a stream, or the
streams of a server. -/
inductive Holder where
  | subscriber (id : Bson) (array : String)
  | stream (id : Bson)
  | server (id : Bson)

/-- The stream is pointed to. -/
def Database.Points (db : Database) : Holder → Oid → Prop
  | .subscriber id array, x =>
    ∃ d ∈ db.subscribers.docs, d.id = id ∧ x ∈ entrySids (d.fields.get? array)
  | .stream id, x => ∃ d ∈ db.streams.docs, d.id = id ∧ d.Holds streamPartsField x
  | .server id, x => ∃ d ∈ db.servers.docs, d.id = id ∧ d.Holds serverStreamsField x

/-- The stream is there. -/
def Database.HasStream (db : Database) (x : Oid) : Prop := ∃ d, db.streams.findId? x = some d

/-- Streams stay, and what points to a stream newly points to one that is there. -/
structure PointsToExisting (db db' : Database) : Prop where
  stays : ∀ x, db.HasStream x → db'.HasStream x
  points : ∀ holder x, db'.Points holder x → db.Points holder x ∨ db'.HasStream x

instance : IsPreorder Database PointsToExisting where
  refl _ := ⟨fun _ h => h, fun _ _ h => Or.inl h⟩
  trans _ _ _ h h' := by
    refine ⟨fun x hx => h'.stays x (h.stays x hx), fun holder x hx => ?_⟩
    rcases h'.points holder x hx with hx | hx
    · exact (h.points holder x hx).imp_right (h'.stays x)
    · exact Or.inr hx

section

variable {db db' : Database} {c : Collection}

omit db' in
/-- A document of an updated collection, and the one that it was. -/
theorem Collection.exists_of_mem_update {c' : Collection} {q : StoredDoc → Bool} {k : String}
    {hk : k ≠ idField} {g : Option Bson → Option Bson} (h : c.update q k hk g = some c')
    {d' : StoredDoc} (hd' : d' ∈ c'.docs) :
    ∃ d ∈ c.docs, d'.id = d.id ∧ (d'.fields = d.fields ∨
      ∃ v, g (d.fields.get? k) = some v ∧ d'.fields = d.fields.set k v) := by
  have hforall := Collection.forall₂_update (R := fun d d' => d'.id = d.id ∧
    (d'.fields = d.fields ∨ ∃ v, g (d.fields.get? k) = some v ∧ d'.fields = d.fields.set k v))
    (fun _ => ⟨rfl, Or.inl rfl⟩) h fun _ _ v _ _ hv hid hfields => ⟨hid, Or.inr ⟨v, hv, hfields⟩⟩
  exact exists_of_forall₂_right hforall hd'

/-- An update of the subscribers after which the entries of the field are about streams that they
were about, or that are there. -/
theorem PointsToExisting.of_subscribers {q : StoredDoc → Bool} {k : String} {hk : k ≠ idField}
    {g : Option Bson → Option Bson} (h : db.subscribers.update q k hk g = some c)
    (hg : ∀ w v, g w = some v → ∀ x ∈ entrySids (some v), x ∈ entrySids w ∨ db.HasStream x) :
    PointsToExisting db (db.set .subscribers c) := by
  refine ⟨fun _ hx => hx, fun holder x hx => ?_⟩
  cases holder with
  | stream id => exact Or.inl hx
  | server id => exact Or.inl hx
  | subscriber id array =>
    obtain ⟨d', hd', hid, hx⟩ := hx
    obtain ⟨d, hd, hid', hfields⟩ := Collection.exists_of_mem_update h hd'
    have hmem : x ∈ entrySids (d.fields.get? array) ∨ db.HasStream x := by
      rcases hfields with hfields | ⟨v, hv, hfields⟩
      · rw [hfields] at hx
        exact Or.inl hx
      · rw [hfields] at hx
        by_cases hk' : array = k
        · subst hk'
          rw [Doc.get?_set_self] at hx
          exact hg _ _ hv x hx
        · rw [Doc.get?_set_ne _ _ hk'] at hx
          exact Or.inl hx
    exact hmem.imp_left fun hx => ⟨d, hd, hid'.symm.trans hid, hx⟩

/-- Of the streams, new parts are there. -/
theorem PointsToExisting.of_streams (hkeeps : streamPolicy.Keeps db.streams c)
    (hparts : ∀ d' ∈ c.docs, ∀ x, d'.Holds streamPartsField x →
      (∃ d ∈ db.streams.docs, d.id = d'.id ∧ d.Holds streamPartsField x) ∨
        ∃ e, c.findId? x = some e) : PointsToExisting db (db.set .streams c) := by
  refine ⟨fun x hx => ?_, fun holder x hx => ?_⟩
  · obtain ⟨d, hd⟩ := hx
    obtain ⟨d', hd', -⟩ := hkeeps.findId? hd
    exact ⟨d', hd'⟩
  · cases holder with
    | subscriber id array => exact Or.inl hx
    | server id => exact Or.inl hx
    | stream id =>
      obtain ⟨d', hd', hid, hx⟩ := hx
      exact (hparts d' hd' x hx).imp_left fun ⟨d, hd, hid', hx⟩ => ⟨d, hd, hid'.trans hid, hx⟩

/-- A server gets a stream that is there. -/
theorem PointsToExisting.of_servers {q : StoredDoc → Bool} {y : Oid} (hy : db.HasStream y)
    (h : db.servers.update q serverStreamsField serverStreams_ne_id (pushOp (.oid y)) = some c) :
    PointsToExisting db (db.set .servers c) := by
  refine ⟨fun _ hx => hx, fun holder x hx => ?_⟩
  cases holder with
  | subscriber id array => exact Or.inl hx
  | stream id => exact Or.inl hx
  | server id =>
    obtain ⟨d', hd', hid, hx⟩ := hx
    obtain ⟨d, hd, hid', hfields | ⟨v, hv, hfields⟩⟩ := Collection.exists_of_mem_update h hd'
    · refine Or.inl ⟨d, hd, hid'.symm.trans hid, ?_⟩
      unfold StoredDoc.Holds at hx ⊢
      rwa [hfields] at hx
    · rcases hx.of_push hv hfields with hx | rfl
      · exact Or.inl ⟨d, hd, hid'.symm.trans hid, hx⟩
      · exact Or.inr hy

/-- A push that is no entry adds none. -/
theorem entrySids_pushOid {x : Oid} {w : Option Bson} {v : Bson} (h : pushOp (.oid x) w = some v) :
    entrySids (some v) = entrySids w := by
  have hentry : entrySid? (.oid x) = none := rfl
  unfold pushOp at h
  split at h
  · obtain rfl := Option.some.inj h
    simp [entrySids, hentry]
  · obtain rfl := Option.some.inj h
    simp [entrySids, hentry]
  · cases h

theorem PointsToExisting.of_wrote {u : Option Oid} (h : Wrote u db db') :
    PointsToExisting db db' := by
  cases h with
  | activate h =>
    refine .of_subscribers h fun w v hv x hx => Or.inl ?_
    rwa [entrySids_setElement (by decide) hv] at hx
  | setEntry hfield h =>
    refine .of_subscribers h fun w v hv x hx => Or.inl ?_
    rwa [entrySids_setElement hfield hv] at hx
  | incViews h =>
    refine .of_streams (Policy.changes_update h fun w v hv => Rule.repeated_of_op hv).keeps
      fun d' hd' x hx => Or.inl ?_
    obtain ⟨d, hd, hid, hfields | ⟨v, -, hfields⟩⟩ := Collection.exists_of_mem_update h hd'
    · refine ⟨d, hd, hid.symm, ?_⟩
      unfold StoredDoc.Holds at hx ⊢
      rwa [hfields] at hx
    · exact ⟨d, hd, hid.symm, hx.of_set_ne hfields (by decide)⟩
  | pullCatchup h =>
    exact .of_subscribers h fun w v hv x hx => Or.inl ((entrySids_pull hv).subset hx)
  | insertRequest h =>
    exact ⟨fun _ hx => hx, fun holder x hx => Or.inl (by cases holder <;> exact hx)⟩
  | pushRequest h =>
    refine .of_subscribers h fun w v hv x hx => Or.inl ?_
    rwa [entrySids_pushOid hv] at hx

end

section

variable [Fastotv] {env : Env} {endpoint : CatchupEndpointInfo} {auth : ServerDBAuthInfo}
  {db db' : Database} {title : String} {start stop : Timestamp} {basedOn : ChannelInfo}
  {bsid serverOid : Oid} {outputUrls : List OutputUri} {c c' : Collection}

theorem CatchupInserted.pointsToExisting
    (h : CatchupInserted env endpoint basedOn title start stop db bsid serverOid outputUrls c) :
    PointsToExisting db (db.set .streams c) := by
  refine .of_streams h.evolves fun d' hd' x hx => Or.inl ?_
  rw [(Collection.insert_cases h.insert).2.1, List.mem_append, List.mem_singleton] at hd'
  rcases hd' with hd | rfl
  · exact ⟨d', hd, rfl, hx⟩
  · exact absurd hx not_holds_newCatchupDoc

/-- The link is to the document that was inserted. -/
theorem CatchupLinked.pointsToExisting
    (h : CatchupLinked env endpoint basedOn title start stop db bsid serverOid outputUrls c c') :
    PointsToExisting db (db.set .streams c') ∧ (db.set .streams c').HasStream env.fresh := by
  have hlink : streamPolicy.Keeps c c' :=
    (Policy.changes_update h.link fun _ _ hv => Rule.grows_pushOp hv).keeps
  obtain ⟨d, hfresh, -⟩ := hlink.findId? (Collection.insert_cases h.insert).2.2.1
  refine ⟨trans_of PointsToExisting h.toCatchupInserted.pointsToExisting
    (show PointsToExisting (db.set .streams c) ((db.set .streams c).set .streams c') from
      .of_streams hlink fun d' hd' x hx => ?_), d, hfresh⟩
  obtain ⟨d₀, hd₀, hid, hfields | ⟨v, hv, hfields⟩⟩ := Collection.exists_of_mem_update h.link hd'
  · refine Or.inl ⟨d₀, hd₀, hid.symm, ?_⟩
    unfold StoredDoc.Holds at hx ⊢
    rwa [hfields] at hx
  · rcases hx.of_push hv hfields with hx | rfl
    · exact Or.inl ⟨d₀, hd₀, hid.symm, hx⟩
    · exact Or.inr ⟨d, hfresh⟩

/-- Whichever writes fail, and what is handed out is there. -/
theorem CatchupRun.pointsToExisting {o : Outcome Error CreatedCatchup}
    (h : CatchupRun env endpoint basedOn title start stop db o db') :
    PointsToExisting db db' ∧
      ∀ created, o = .ok created → ∃ x, created.cat.streamId = x.text ∧ db'.HasStream x := by
  cases h with
  | found hpart =>
    refine ⟨refl_of PointsToExisting db, fun created hok => ?_⟩
    obtain rfl := Outcome.ok.inj hok
    obtain ⟨-, -, x, sdoc, -, -, hsdoc, -, -, -, hx⟩ := findPart_eq_some hpart
    exact ⟨x, hx, sdoc, hsdoc⟩
  | refused hno => exact ⟨refl_of PointsToExisting db, fun created hok => absurd hok (hno created)⟩
  | unlinked hinserted => exact ⟨hinserted.pointsToExisting, nofun⟩
  | unattached hlinked => exact ⟨hlinked.pointsToExisting.1, nofun⟩
  | created hlinked _ hattach =>
    obtain ⟨hpoints, hfresh⟩ := hlinked.pointsToExisting
    refine ⟨trans_of PointsToExisting hpoints (.of_servers hfresh hattach), fun created hok => ?_⟩
    obtain rfl := Outcome.ok.inj hok
    exact ⟨env.fresh, rfl, hfresh⟩

theorem pointsToExisting_createCatchup {sid : StreamId} {o : Outcome Error CreatedCatchup}
    (h : (createCatchup env endpoint auth sid title start stop).run db = (o, db')) :
    PointsToExisting db db' ∧
      ∀ created, o = .ok created → ∃ x, created.cat.streamId = x.text ∧ db'.HasStream x := by
  rcases createCatchup_cases env endpoint auth sid title start stop db with
    ⟨hdb, hno, -⟩ | ⟨ch, -, hrun⟩
  · rw [h] at hdb hno
    obtain rfl : db' = db := hdb
    exact ⟨refl_of PointsToExisting _, fun created hok => absurd hok (hno created)⟩
  · have hways := catchupRun env endpoint ch title start stop db
    rw [← hrun, h] at hways
    exact hways.pointsToExisting

/-- A subscriber gets a catchup that is there. -/
theorem pointsToExisting_addUserCatchup {x : Oid} {o : Outcome Error Unit} (hx : db.HasStream x)
    (h : (addUserCatchup env auth x.text).run db = (o, db')) : PointsToExisting db db' := by
  rcases addUserCatchup_cases h with ⟨rfl, -⟩ | ⟨user, y, c, -, hy, -, -, hc, -, rfl⟩
  · exact refl_of PointsToExisting _
  · obtain rfl := Option.some.inj ((convertFromString_text _ _).symm.trans hy)
    refine .of_subscribers hc fun w v hv z hz => ?_
    rw [entrySids_push hv, List.mem_append, List.mem_singleton] at hz
    refine hz.imp_right fun hz => ?_
    rw [hz]
    exact hx

end

end LoadBalance
