import LoadBalance.Mongo.Equiv.CreateCatchup
import LoadBalance.Mongo.Equiv.UserState

/-!
# Requests for streams that a subscriber does not have

The three setters and the generation of a catchup name a stream.  Where the stream is in none of the
arrays of the subscriber, the queries of the setters match no document and the generation does not
find the channel.  One write asks for no entry: `SetRecent` counts the view of any stream that has a
document with a class (`foreign_unchanged_iff`).
-/

namespace LoadBalance

open LoadBalance.Action

/-! ### The requests -/

/-- A request that names a stream. -/
inductive StreamRequest where
  | set (call : SetCall)
  | generate (endpoint : CatchupEndpointInfo) (info : CatchupGenerateInfo)

def StreamRequest.streamId : StreamRequest → StreamId
  | set call => call.channel
  | generate _ info => info.streamId

/-- What the handler of the request has the manager do. -/
def StreamRequest.action [Fastotv] (env : Env) (auth : ServerDBAuthInfo) :
    StreamRequest → Action Database Error Unit
  | set call => SetRequest.action ⟨env, auth, call⟩
  | generate endpoint info => do
    let created ← createCatchup env endpoint auth info.streamId info.title info.start info.stop
    addUserCatchup env auth created.cat.streamId

/-- The stream is in none of the arrays of the subscriber. -/
def Foreign (env : Env) (auth : ServerDBAuthInfo) (sid : StreamId) (db : Database) : Prop :=
  ∀ u s, convertFromString env.beyond auth.uid = some u →
    convertFromString env.beyond sid = some s →
    ∀ arr ∈ [userStreamsField, userVodsField, userCatchupsField], ∀ d ∈ db.subscribers.docs,
      userHasStream u s arr d = false

/-- The collections of the subscribers, the streams and the servers are as they were. -/
structure Unchanged (db db' : Database) : Prop where
  subscribers : db'.subscribers = db.subscribers
  streams : db'.streams = db.streams
  servers : db'.servers = db.servers

/-! ### The view counter -/

/-- `$inc` gives the field another value. -/
def Increments : Option Bson → Prop
  | none => True
  | some (.int32 _) => True
  | some (.int64 i) => i ≠ Int64.maxValue
  | some (.double bits) => (Float.ofBits bits + 1).toBits ≠ bits
  | some (.decimal128 d) => d.addOne ≠ d
  | some _ => False

theorem increments_iff {w : Option Bson} : Increments w ↔ ∃ v, incOp w = some v ∧ w ≠ some v := by
  cases w with
  | none => exact iff_of_true trivial ⟨_, rfl, by simp⟩
  | some b =>
    cases b with
    | int32 i =>
      refine iff_of_true trivial ⟨_, rfl, fun h => ?_⟩
      rw [Option.some.injEq] at h
      split_ifs at h
      rw [Bson.int32.injEq] at h
      have hone : (1 : Int32) = 0 := Int32.add_eq_left.mp h.symm
      exact absurd hone (by decide)
    | int64 i =>
      unfold Increments incOp
      dsimp only
      split_ifs with hmax
      · simp [hmax]
      · refine iff_of_true hmax ⟨_, rfl, fun h => ?_⟩
        rw [Option.some.injEq, Bson.int64.injEq] at h
        have hone : (1 : Int64) = 0 := Int64.add_eq_left.mp h.symm
        exact absurd hone (by decide)
    | double bits => simp [Increments, incOp, eq_comm]
    | decimal128 d => simp [Increments, incOp, eq_comm]
    | _ => simp [Increments, incOp]

section

variable {env : Env} {auth : ServerDBAuthInfo} {db : Database} {u s : Oid} {st : StreamType}

/-- The stream that is named has a document, with a class, whose counter `$inc` changes. -/
def Counted (env : Env) (auth : ServerDBAuthInfo) (sid : StreamId) (db : Database) : Prop :=
  ∃ u s st sdoc, SetterFinds env auth sid db u s st ∧ db.streams.findId? s = some sdoc ∧
    Increments (sdoc.fields.get? streamViewCountField)

/-- Counting the view changes the streams where `$inc` gives the counter another value. -/
theorem streams_incViews_eq_iff {sdoc : StoredDoc} (hsdoc : db.streams.findId? s = some sdoc) :
    ((attempt (mongoUpdate env .incViews .streams (StoredDoc.hasId s) streamViewCountField
      viewCount_ne_id incOp)).run db).2.streams = db.streams ↔
      ¬(env.write .incViews = true ∧ Increments (sdoc.fields.get? streamViewCountField)) := by
  have hquery : ∀ d : StoredDoc, d.hasId s = true → d.id = .oid s :=
    fun d hd => StoredDoc.hasId_iff.mp hd
  have hid : sdoc.hasId s = true := StoredDoc.hasId_iff.mpr (Collection.id_of_findId? hsdoc)
  rw [increments_iff, run_attempt]
  rcases hw : (mongoUpdate env .incViews .streams (StoredDoc.hasId s) streamViewCountField
    viewCount_ne_id incOp).run db with ⟨o, db'⟩
  rcases writeBack_cases hw with ⟨hwrite, c, hc, rfl, rfl⟩ | ⟨hnot, rfl, rfl⟩
  · show c = db.streams ↔ _
    rcases Collection.update_cases hquery hc with
      ⟨hno, -⟩ | ⟨d, d', v, hd, -, hv, -, hfields, hd', -⟩
    · rw [hno sdoc hsdoc] at hid
      cases hid
    · obtain rfl := Option.some.inj (hsdoc.symm.trans hd)
      constructor
      · rintro rfl ⟨-, w, hw, hne⟩
        -- The document that is found afterwards has the new value.
        obtain rfl := Option.some.inj (hd'.symm.trans hd)
        obtain rfl := Option.some.inj (hw.symm.trans hv)
        rw [hfields, Doc.get?_set_self] at hne
        exact hne rfl
      · intro hfixed
        have hvalue : sdoc.fields.get? streamViewCountField = some v := by
          by_contra hne
          exact hfixed ⟨hwrite, v, hv, hne⟩
        have hsame : db.streams.update (StoredDoc.hasId s) streamViewCountField viewCount_ne_id
            incOp = some db.streams := by
          refine Collection.update_of_fixed fun e he hq => ?_
          obtain rfl := db.streams.eq_of_id_eq he (Collection.mem_of_find? hd)
            ((hquery e hq).trans (Collection.id_of_findId? hd).symm)
          exact ⟨v, hvalue, hvalue ▸ hv⟩
        exact Option.some.inj (hc.symm.trans hsame)
  · refine iff_of_true rfl ?_
    rintro ⟨hwrite, v, hv, -⟩
    -- The server has no reason to refuse the operator.
    have hsome : ∃ c, db'.streams.update (StoredDoc.hasId s) streamViewCountField viewCount_ne_id
        incOp = some c := by
      refine Collection.update_isSome fun e he hq => ?_
      obtain rfl := db'.streams.eq_of_id_eq he (Collection.mem_of_find? hsdoc)
        ((hquery e hq).trans (Collection.id_of_findId? hsdoc).symm)
      rw [hv]
      rfl
    obtain ⟨c, hc⟩ := hsome
    rcases hnot with hnot | hnot
    · rw [hwrite] at hnot
      cases hnot
    · rw [Database.get_streams, hc] at hnot
      cases hnot

/-! ### The setters -/

/-- The update of a setter matches no document. -/
theorem run_setUserStreamField_of_foreign {channel : StreamId} (h : Foreign env auth channel db)
    (hfinds : SetterFinds env auth channel db u s st) (field : String) (v : Bson) :
    (setUserStreamField env auth channel field v).run db = (.ok s, db) := by
  have hno : ∀ d ∈ db.subscribers.docs, userHasStream u s (userArrayField st) d = false :=
    h u s hfinds.user hfinds.stream _ (userArrayField_mem st)
  have hupdate : db.subscribers.update (userHasStream u s (userArrayField st)) (userArrayField st)
      (userArrayField_ne_id st) (setElementOp userStreamIdField s field v) = some db.subscribers := by
    refine Collection.update_of_fixed fun d hd hq => ?_
    rw [hno d hd] at hq
    cases hq
  rw [run_setUserStreamField_of_finds hfinds]
  rcases hw : (mongoUpdate env .setEntry .subscribers (userHasStream u s (userArrayField st))
    (userArrayField st) (userArrayField_ne_id st)
    (setElementOp userStreamIdField s field v)).run db with ⟨o, db'⟩
  rcases writeBack_cases hw with ⟨-, c, hc, -, rfl⟩ | ⟨-, -, rfl⟩
  · obtain rfl := Option.some.inj (hupdate.symm.trans hc)
    rfl
  · rfl

/-- So the common part of the setters leaves the database as it is. -/
theorem setUserStreamField_of_foreign {channel : StreamId} (h : Foreign env auth channel db)
    (field : String) (v : Bson) :
    ((setUserStreamField env auth channel field v).run db).2 = db := by
  by_cases hfinds : ∃ u s st, SetterFinds env auth channel db u s st
  · obtain ⟨u, s, st, hfinds⟩ := hfinds
    rw [run_setUserStreamField_of_foreign h hfinds]
  · simp only [not_exists] at hfinds
    obtain ⟨err, herr⟩ := run_setUserStreamField_of_not_finds hfinds field v
    rw [herr]

variable [Fastotv]

theorem setFavorite_of_foreign {info : FavoriteInfo} (h : Foreign env auth info.channel db) :
    ((setFavorite env auth info).run db).2 = db := by
  unfold setFavorite
  split_ifs
  · rfl
  · have hsame := setUserStreamField_of_foreign h favoriteField (.bool info.favorite)
    rw [run_bind]
    rcases hrun : (setUserStreamField env auth info.channel favoriteField
      (.bool info.favorite)).run db with ⟨o | o | _, db'⟩ <;> rw [hrun] at hsame <;> exact hsame

theorem setInterruptTime_of_foreign {info : InterruptStreamTimeInfo}
    (h : Foreign env auth info.channel db) : ((setInterruptTime env auth info).run db).2 = db := by
  unfold setInterruptTime
  split_ifs
  · rfl
  · have hsame := setUserStreamField_of_foreign h interruptionTimeField (.int32 info.time.toInt32)
    rw [run_bind]
    rcases hrun : (setUserStreamField env auth info.channel interruptionTimeField
      (.int32 info.time.toInt32)).run db with ⟨o | o | _, db'⟩ <;> rw [hrun] at hsame <;> exact hsame

/-- What is left of `SetRecent` is to count the view. -/
theorem unchanged_setRecent_iff {info : RecentStreamTimeInfo}
    (h : Foreign env auth info.channel db) :
    Unchanged db ((setRecent env auth info).run db).2 ↔
      ¬(Fastotv.recentValid info = true ∧ env.write .incViews = true ∧
        Counted env auth info.channel db) := by
  unfold setRecent
  cases hvalid : Fastotv.recentValid info with
  | false => exact iff_of_true ⟨rfl, rfl, rfl⟩ (by simp)
  | true =>
    rw [if_neg (by simp)]
    by_cases hfinds : ∃ u s st, SetterFinds env auth info.channel db u s st
    · obtain ⟨u, s, st, hfinds⟩ := hfinds
      obtain ⟨sdoc, hsdoc, -⟩ := hfinds.doc
      rw [run_bind_of_ok (run_setUserStreamField_of_foreign h hfinds _ _)]
      have hcounted : Counted env auth info.channel db ↔
          Increments (sdoc.fields.get? streamViewCountField) := by
        constructor
        · rintro ⟨u', s', st', sdoc', hfinds', hsdoc', hinc⟩
          obtain rfl := Option.some.inj (hfinds.stream.symm.trans hfinds'.stream)
          obtain rfl := Option.some.inj (hsdoc.symm.trans hsdoc')
          exact hinc
        · exact fun hinc => ⟨u, s, st, sdoc, hfinds, hsdoc, hinc⟩
      have hothers : ((attempt (mongoUpdate env .incViews .streams (StoredDoc.hasId s)
          streamViewCountField viewCount_ne_id incOp)).run db).2.subscribers = db.subscribers ∧
          ((attempt (mongoUpdate env .incViews .streams (StoredDoc.hasId s)
          streamViewCountField viewCount_ne_id incOp)).run db).2.servers = db.servers := by
        rw [run_attempt]
        rcases hw : (mongoUpdate env .incViews .streams (StoredDoc.hasId s) streamViewCountField
          viewCount_ne_id incOp).run db with ⟨o, db'⟩
        rcases writeBack_cases hw with ⟨-, c, -, rfl, rfl⟩ | ⟨-, rfl, rfl⟩
        · exact ⟨rfl, rfl⟩
        · exact ⟨rfl, rfl⟩
      rw [hcounted, eq_self, true_and, ← streams_incViews_eq_iff hsdoc]
      exact ⟨fun hsame => hsame.streams, fun hsame => ⟨hothers.1, hsame, hothers.2⟩⟩
    · simp only [not_exists] at hfinds
      obtain ⟨err, herr⟩ := run_setUserStreamField_of_not_finds hfinds recentField
        (.dateTime info.timestamp)
      rw [run_bind, herr]
      refine iff_of_true ⟨rfl, rfl, rfl⟩ ?_
      rintro ⟨-, -, u, s, st, -, hfinds', -⟩
      exact hfinds u s st hfinds'

/-! ### The generation of a catchup -/

/-- The channel is not found among the streams of the subscriber. -/
theorem findStream_of_foreign {sid : StreamId} (h : Foreign env auth sid db) (ch : ChannelInfo) :
    findStream env db auth sid ≠ .ok ch := by
  intro hch
  obtain ⟨⟨sdoc, st, uinf⟩, hfound, -⟩ := Outcome.bind_eq_ok.mp hch
  unfold findUserStream at hfound
  split_ifs at hfound
  split at hfound
  · cases hfound
  · next u hu =>
    split at hfound
    · cases hfound
    · next s hs =>
      have hnone : db.subscribers.find? (userHasStream u s userStreamsField) = none := by
        refine List.find?_eq_none.mpr fun d hd => ?_
        rw [h u s hu hs userStreamsField (by simp) d hd]
        exact Bool.false_ne_true
      rw [hnone] at hfound
      cases hfound

theorem generate_of_foreign {endpoint : CatchupEndpointInfo} {info : CatchupGenerateInfo}
    (h : Foreign env auth info.streamId db) :
    (((StreamRequest.generate endpoint info).action env auth).run db).2 = db := by
  rcases createCatchup_cases env endpoint auth info.streamId info.title info.start info.stop db with
    ⟨hsame, hno, -⟩ | ⟨ch, hch, -⟩
  · unfold StreamRequest.action
    dsimp only
    rw [run_bind]
    rcases hrun : (createCatchup env endpoint auth info.streamId info.title info.start
      info.stop).run db with ⟨created | err | _, db'⟩
    · rw [hrun] at hno
      exact absurd rfl (hno created)
    · rw [hrun] at hsame
      exact hsame
    · rw [hrun] at hsame
      exact hsame
  · exact absurd hch (findStream_of_foreign h ch)

/-! ### The requests together -/

/-- The request is a `SetRecent` that counts the view. -/
def CountsView (env : Env) (auth : ServerDBAuthInfo) (db : Database) (req : StreamRequest) : Prop :=
  ∃ info, req = .set (.recent info) ∧ Fastotv.recentValid info = true ∧
    env.write .incViews = true ∧ Counted env auth info.channel db

/-- A request for a stream that the subscriber does not have leaves the collections alone if and
only if it counts no view. -/
theorem foreign_unchanged_iff (env : Env) (auth : ServerDBAuthInfo) (db : Database)
    (req : StreamRequest) (hforeign : Foreign env auth req.streamId db) :
    Unchanged db ((req.action env auth).run db).2 ↔ ¬CountsView env auth db req := by
  have hsame : ∀ db', db' = db → (∀ info, req ≠ .set (.recent info)) →
      (Unchanged db db' ↔ ¬CountsView env auth db req) := by
    rintro db' rfl hreq
    refine iff_of_true ⟨rfl, rfl, rfl⟩ ?_
    rintro ⟨info, heq, -⟩
    exact hreq info heq
  cases req with
  | set call =>
    cases call with
    | favorite info => exact hsame _ (setFavorite_of_foreign hforeign) (by simp)
    | recent info =>
      refine (unchanged_setRecent_iff hforeign).trans (not_congr ⟨?_, ?_⟩)
      · rintro ⟨hvalid, hwrite, hcounted⟩
        exact ⟨info, rfl, hvalid, hwrite, hcounted⟩
      · rintro ⟨info', heq, h⟩
        cases heq
        exact h
    | interrupt info => exact hsame _ (setInterruptTime_of_foreign hforeign) (by simp)
  | generate endpoint info => exact hsame _ (generate_of_foreign hforeign) (by simp)

end

/-! A subscriber without streams, and a channel. -/

namespace Sample

/-- The subscriber has an empty array of streams. -/
theorem foreign_newDatabase : Foreign env login (oid 2).text newDatabase := by
  intro u s hu hs arr harr d hd
  obtain rfl := Option.some.inj ((convertFromString_text _ (oid 1)).symm.trans hu)
  obtain rfl := Option.some.inj ((convertFromString_text _ (oid 2)).symm.trans hs)
  obtain rfl := List.mem_singleton.mp hd
  simp only [List.mem_cons, List.not_mem_nil, or_false] at harr
  rcases harr with rfl | rfl | rfl <;> decide

end Sample

open Sample in
/-- The stream of another subscriber is watched. -/
theorem foreign_view_counted : Foreign env login (oid 2).text newDatabase ∧
    ¬Unchanged newDatabase (((StreamRequest.set watchedCall.call).action env login).run
      newDatabase).2 := by
  refine ⟨foreign_newDatabase, fun h => ?_⟩
  have hviews : (((((StreamRequest.set watchedCall.call).action env login).run
      newDatabase).2.streams.findId? (oid 2)).bind fun d =>
        (d.fields.get? streamViewCountField).map Bson.asInt32) = some 1 := by decide
  rw [h.streams] at hviews
  exact absurd hviews (by decide)

open Sample in
theorem foreign_unchanged_iff_sample : Unchanged newDatabase
    (((StreamRequest.set watchedCall.call).action env login).run newDatabase).2 ↔
      ¬CountsView env login newDatabase (.set watchedCall.call) :=
  foreign_unchanged_iff env login newDatabase (.set watchedCall.call) foreign_newDatabase

end LoadBalance
