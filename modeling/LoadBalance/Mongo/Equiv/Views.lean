import LoadBalance.Bson.Policy
import LoadBalance.Mongo.Equiv.CreateCatchup
import LoadBalance.Mongo.Equiv.ForeignStreams
import LoadBalance.Mongo.Equiv.UserCatchups
import Mathlib.Algebra.Order.Ring.Int

/-!
# Counting views

`SetRecent` increments the view count of the stream that it names, whether the subscriber has the
stream or not (`watched_setRecent`).  Nothing else that the manager does to the database touches the
count of a stream that is there.  An `int32` that would overflow becomes an `int64`, so the count
goes on up to the greatest `int64`, which the server does not increment.
-/

namespace LoadBalance

open LoadBalance.Action

/-! ### Counts -/

/-- How many views a count stands for: a field that is absent for none, and a value that is no
integer for nothing. -/
def storedViews : Option Bson → Option ℤ
  | none => some 0
  | some (.int32 i) => some i.toInt
  | some (.int64 i) => some i.toInt
  | some _ => none

/-- The views of a stream. -/
def Database.views (db : Database) (sid : Oid) : Option ℤ :=
  (db.streams.findId? sid).bind fun d => storedViews (d.fields.get? streamViewCountField)

theorem toInt_int32_succ {i : Int32} (h : i ≠ Int32.maxValue) : (i + 1).toInt = i.toInt + 1 := by
  have hlt := i.toInt_lt
  have hge := i.le_toInt
  have hne : i.toInt ≠ 2147483647 := fun hmax => h (Int32.toInt_inj.mp hmax)
  have hone : (1 : Int32).toInt = 1 := rfl
  rw [Int32.toInt_add, hone]
  exact Int.bmod_eq_of_le (by omega) (by omega)

theorem toInt_int64_succ {i : Int64} (h : i ≠ Int64.maxValue) : (i + 1).toInt = i.toInt + 1 := by
  have hlt := i.toInt_lt
  have hge := i.le_toInt
  have hne : i.toInt ≠ 9223372036854775807 := fun hmax => h (Int64.toInt_inj.mp hmax)
  have hone : (1 : Int64).toInt = 1 := rfl
  rw [Int64.toInt_add, hone]
  exact Int.bmod_eq_of_le (by omega) (by omega)

theorem toInt_int64_le (i : Int64) : i.toInt ≤ Int64.maxValue.toInt := by
  have hlt := i.toInt_lt
  have hmax : Int64.maxValue.toInt = 9223372036854775807 := rfl
  omega

theorem storedViews_le {w : Option Bson} {n : ℤ} (h : storedViews w = some n) :
    n ≤ Int64.maxValue.toInt := by
  cases w with
  | none =>
    obtain rfl := Option.some.inj h
    decide
  | some v =>
    cases v with
    | int32 i =>
      obtain rfl := Option.some.inj h
      rw [← Int32.toInt_toInt64]
      exact toInt_int64_le _
    | int64 i =>
      obtain rfl := Option.some.inj h
      exact toInt_int64_le i
    | _ => cases h

/-- An increment counts one view; only the greatest count is refused. -/
theorem storedViews_incOp {w : Option Bson} {n : ℤ} (h : storedViews w = some n) :
    (∃ v, incOp w = some v ∧ storedViews (some v) = some (n + 1)) ∨
      (incOp w = none ∧ n = Int64.maxValue.toInt) := by
  cases w with
  | none =>
    obtain rfl := Option.some.inj h
    exact Or.inl ⟨_, rfl, rfl⟩
  | some v =>
    cases v with
    | int32 i =>
      obtain rfl := Option.some.inj h
      refine Or.inl ⟨_, rfl, ?_⟩
      by_cases hmax : i = Int32.maxValue
      · -- The value goes on as an `int64`.
        subst hmax
        rfl
      · rw [if_neg hmax]
        exact congrArg some (toInt_int32_succ hmax)
    | int64 i =>
      obtain rfl := Option.some.inj h
      unfold incOp
      dsimp only
      split_ifs with hmax
      · exact Or.inr ⟨rfl, by rw [hmax]⟩
      · exact Or.inl ⟨_, rfl, congrArg some (toInt_int64_succ hmax)⟩
    | _ => cases h

/-! ### Calls that count -/

/-- Views of the stream were counted, `k` of them. -/
def Watched (sid : Oid) (k : ℕ) (db db' : Database) : Prop :=
  ∀ n, db.views sid = some n → db'.views sid = some (min (n + k) Int64.maxValue.toInt)

section

variable {sid : Oid} {db db' db'' : Database}

theorem Database.views_le {n : ℤ} (h : db.views sid = some n) : n ≤ Int64.maxValue.toInt := by
  obtain ⟨d, -, hd⟩ := Option.bind_eq_some_iff.mp h
  exact storedViews_le hd

theorem Watched.of_views_eq (h : ∀ n, db.views sid = some n → db'.views sid = some n) :
    Watched sid 0 db db' := by
  intro n hn
  have hle := Database.views_le hn
  rw [h n hn]
  exact congrArg some (by omega)

theorem Watched.of_streams_eq (h : db'.streams = db.streams) : Watched sid 0 db db' := by
  refine .of_views_eq fun n hn => ?_
  unfold Database.views at hn ⊢
  rwa [h]

theorem Watched.trans {j k : ℕ} (h : Watched sid j db db') (h' : Watched sid k db' db'') :
    Watched sid (j + k) db db'' := by
  intro n hn
  rw [h' _ (h n hn)]
  exact congrArg some (by omega)

instance : IsPreorder Database (Watched sid 0) where
  refl _ := .of_streams_eq rfl
  trans _ _ _ h h' := h.trans h'

/-- The streams are left as they are. -/
def KeepsStreams (db db' : Database) : Prop := db'.streams = db.streams

instance : IsPreorder Database KeepsStreams where
  refl _ := rfl
  trans _ _ _ h h' := Eq.trans h' h

/-- The count of a stream stays, and everything else may change. -/
def viewPolicy : Policy := fun k => if k = streamViewCountField then .same else .anything

theorem Watched.of_keeps {c : Collection} (h : viewPolicy.Keeps db.streams c) :
    Watched sid 0 db (db.set .streams c) := by
  refine .of_views_eq fun n hn => ?_
  obtain ⟨d, hd, hviews⟩ := Option.bind_eq_some_iff.mp hn
  obtain ⟨d', hd', -, hfields⟩ := h.findId? hd
  have hsame : d'.fields.get? streamViewCountField = d.fields.get? streamViewCountField :=
    hfields streamViewCountField
  unfold Database.views
  rw [Database.set_streams, hd', Option.bind_some, hsame]
  exact hviews

end

section

variable {sid : Oid} {db db' : Database} {env : Env} {auth : ServerDBAuthInfo} {title : String}
  {start stop : Timestamp}

/-- What is written to another collection. -/
theorem keepsStreams_writeBack {goesThrough : Bool} {f : Collection → Option Collection}
    {n : CollectionName} (hn : n ≠ .streams) : Within KeepsStreams (writeBack goesThrough n f) :=
  fun db => rel_writeBack fun _ c _ => by
    cases n with
    | streams => exact absurd rfl hn
    | _ => rfl

theorem keepsStreams_activateDevice (login : String) (oid : Oid) :
    Within KeepsStreams (activateDevice env login oid) :=
  within_activateDevice fun _ _ _ => rfl

theorem keepsStreams_setUserStreamField (channel : StreamId) (field : String) (v : Bson) :
    Within KeepsStreams (setUserStreamField env auth channel field v) := by
  unfold setUserStreamField
  refine within_bind (within_orFail _ _) fun _ => within_bind (within_reads _) fun _ => ?_
  refine within_bind (within_orFail _ _) fun _ => within_bind (within_orFail _ _) fun st => ?_
  refine within_bind (within_orFail _ _) fun _ => ?_
  exact within_bind (within_attempt (keepsStreams_writeBack (by decide))) fun _ => within_pure _

variable [Fastotv] {endpoint : CatchupEndpointInfo}

theorem keepsStreams_setFavorite (favorite : FavoriteInfo) :
    Within KeepsStreams (setFavorite env auth favorite) := by
  unfold setFavorite
  split_ifs
  · exact within_fail _
  · exact within_bind (keepsStreams_setUserStreamField _ _ _) fun _ => within_pure _

theorem keepsStreams_setInterruptTime (inter : InterruptStreamTimeInfo) :
    Within KeepsStreams (setInterruptTime env auth inter) := by
  unfold setInterruptTime
  split_ifs
  · exact within_fail _
  · exact within_bind (keepsStreams_setUserStreamField _ _ _) fun _ => within_pure _

theorem keepsStreams_withUserAndStream (channel : StreamId)
    {f : Oid → Oid → Action Database Error Unit}
    (hf : ∀ oid bsid, Within KeepsStreams (f oid bsid)) :
    Within KeepsStreams (withUserAndStream env auth channel f) := by
  unfold withUserAndStream
  split_ifs
  · exact within_fail _
  · exact within_bind (within_orFail _ _) fun _ => within_bind (within_orFail _ _) fun _ => hf _ _

theorem keepsStreams_addUserCatchup (channel : StreamId) :
    Within KeepsStreams (addUserCatchup env auth channel) :=
  keepsStreams_withUserAndStream channel fun oid bsid =>
    show Within KeepsStreams (addStreamToUserCatchupsArray env oid bsid) from
      keepsStreams_writeBack (by decide)

theorem keepsStreams_removeUserCatchup (channel : StreamId) :
    Within KeepsStreams (removeUserCatchup env auth channel) :=
  keepsStreams_withUserAndStream channel fun oid bsid =>
    show Within KeepsStreams (removeStreamFromUserCatchupsArray env oid bsid) from
      keepsStreams_writeBack (by decide)

theorem keepsStreams_createRequestContent (request : CreateContentRequestInfo) :
    Within KeepsStreams (createRequestContent env auth request) := by
  unfold createRequestContent
  split_ifs
  · exact within_fail _
  · refine within_bind (within_orFail _ _) fun _ => ?_
    refine within_bind (keepsStreams_writeBack (by decide)) fun _ => ?_
    exact within_bind (keepsStreams_writeBack (by decide)) fun _ => within_pure _

/-- A catchup is a new stream, and a new part of its channel. -/
theorem CatchupRun.watched {basedOn : ChannelInfo} {o : Outcome Error CreatedCatchup}
    (h : CatchupRun env endpoint basedOn title start stop db o db') : Watched sid 0 db db' := by
  have hlink : ∀ {bsid serverOid outputUrls c c'},
      CatchupLinked env endpoint basedOn title start stop db bsid serverOid outputUrls c c' →
      viewPolicy.Keeps db.streams c' := by
    intro bsid serverOid outputUrls c c' hlinked
    refine (Policy.keeps_insert hlinked.insert).trans (Policy.changes_update hlinked.link ?_).keeps
    exact fun _ _ _ => trivial
  cases h with
  | found => exact .of_streams_eq rfl
  | refused => exact .of_streams_eq rfl
  | unlinked hinserted => exact .of_keeps (Policy.keeps_insert hinserted.insert)
  | unattached hlinked => exact .of_keeps (hlink hlinked)
  | created hlinked =>
    have hattach : ∀ {db₁ : Database} {servers : Collection},
        Watched sid 0 db₁ (db₁.set .servers servers) := .of_streams_eq rfl
    exact (Watched.of_keeps (hlink hlinked)).trans hattach

theorem watched_createCatchup (channel : StreamId) :
    Watched sid 0 db ((createCatchup env endpoint auth channel title start stop).run db).2 := by
  rcases createCatchup_cases env endpoint auth channel title start stop db with
    ⟨hdb, -⟩ | ⟨ch, -, hrun⟩
  · exact .of_streams_eq (by rw [hdb])
  · rw [hrun]
    exact (catchupRun env endpoint ch title start stop db).watched

/-! ### The call that counts one -/

/-- The stream of which a call of `SetRecent` counts a view, if the call gets as far as that. -/
def viewedStream (env : Env) (auth : ServerDBAuthInfo) (recent : RecentStreamTimeInfo)
    (db : Database) : Option Oid :=
  if Fastotv.recentValid recent && env.write .incViews then do
    let s ← convertFromString env.beyond recent.channel
    let sdoc ← db.streams.findId? s
    let _ ← streamType? sdoc.toDoc
    let _ ← convertFromString env.beyond auth.uid
    some s
  else none

theorem viewedStream_eq_some_iff {recent : RecentStreamTimeInfo} {s : Oid} :
    viewedStream env auth recent db = some s ↔
      (Fastotv.recentValid recent && env.write .incViews) = true ∧
        ∃ u st, SetterFinds env auth recent.channel db u s st := by
  unfold viewedStream
  split_ifs with hmade
  · simp only [Option.bind_eq_bind, Option.bind_eq_some_iff, hmade, true_and]
    constructor
    · rintro ⟨s', hstream, sdoc, hsdoc, st, hst, u, huser, hs⟩
      obtain rfl := Option.some.inj hs
      exact ⟨u, st, huser, hstream, sdoc, hsdoc, hst⟩
    · rintro ⟨u, st, huser, hstream, sdoc, hsdoc, hst⟩
      exact ⟨s, hstream, sdoc, hsdoc, st, hst, u, huser, rfl⟩
  · exact iff_of_false nofun fun h => hmade h.1

omit [Fastotv] in
/-- The increment of a stream that is there. -/
theorem watched_incViews {s : Oid} {sdoc : StoredDoc} (hsdoc : db.streams.findId? s = some sdoc) :
    Watched sid (if env.write .incViews = true ∧ s = sid then 1 else 0) db
      ((attempt (mongoUpdate env .incViews .streams (StoredDoc.hasId s) streamViewCountField
        viewCount_ne_id incOp)).run db).2 := by
  have hquery : ∀ d : StoredDoc, d.hasId s = true → d.id = .oid s :=
    fun d hd => StoredDoc.hasId_iff.mp hd
  rw [run_attempt]
  rcases hw : (mongoUpdate env .incViews .streams (StoredDoc.hasId s) streamViewCountField
    viewCount_ne_id incOp).run db with ⟨o, db'⟩
  rcases writeBack_cases hw with ⟨hwrite, c, hc, rfl, rfl⟩ | ⟨hnot, rfl, heq⟩
  · show Watched sid _ db (db.set .streams c)
    rw [Database.get_streams] at hc
    rcases Collection.update_cases hquery hc with
      ⟨hno, -⟩ | ⟨d, d', v, hd, -, hv, -, hfields, hd', hothers⟩
    · -- The document itself has the id.
      have hid := hno sdoc hsdoc
      rw [StoredDoc.hasId_iff.mpr (Collection.id_of_findId? hsdoc)] at hid
      cases hid
    by_cases hs : s = sid
    · subst hs
      rw [if_pos ⟨hwrite, rfl⟩]
      intro n hn
      unfold Database.views at hn ⊢
      rw [hd, Option.bind_some] at hn
      rw [Database.set_streams, hd', Option.bind_some, hfields, Doc.get?_set_self]
      rcases storedViews_incOp hn with ⟨v', hv', hviews⟩ | ⟨hnone, -⟩
      · obtain rfl := Option.some.inj (hv.symm.trans hv')
        have hle := storedViews_le hviews
        rw [hviews]
        exact congrArg some (by omega)
      · rw [hnone] at hv
        cases hv
    · rw [if_neg fun h => hs h.2]
      refine .of_views_eq fun n hn => ?_
      unfold Database.views at hn ⊢
      rwa [Database.set_streams, hothers sid (Ne.symm hs)]
  · obtain rfl : db' = db := heq
    show Watched sid _ db' db'
    by_cases hcounts : env.write .incViews = true ∧ s = sid
    swap
    · rw [if_neg hcounts]
      exact .of_streams_eq rfl
    -- The server has refused the increment of the greatest count.
    obtain ⟨hwrite, rfl⟩ := hcounts
    have hnone : db'.streams.update (StoredDoc.hasId s) streamViewCountField viewCount_ne_id incOp =
        none := by
      refine hnot.resolve_left fun hfalse => ?_
      rw [hwrite] at hfalse
      cases hfalse
    rw [if_pos ⟨hwrite, rfl⟩]
    intro n hn
    have hviews := hn
    unfold Database.views at hn
    rw [hsdoc, Option.bind_some] at hn
    rcases storedViews_incOp hn with ⟨v, hv, -⟩ | ⟨-, hmax⟩
    · have hsome : ∃ c, db'.streams.update (StoredDoc.hasId s) streamViewCountField viewCount_ne_id
          incOp = some c := by
        refine Collection.update_isSome fun e he hq => ?_
        obtain rfl := db'.streams.eq_of_id_eq he (Collection.mem_of_find? hsdoc)
          ((hquery e hq).trans (Collection.id_of_findId? hsdoc).symm)
        rw [hv]
        rfl
      obtain ⟨c, hc⟩ := hsome
      rw [hnone] at hc
      cases hc
    · rw [hviews]
      exact congrArg some (by omega)

/-- A view of the stream that is named is counted, and of no other stream. -/
theorem watched_setRecent (recent : RecentStreamTimeInfo) :
    Watched sid (if viewedStream env auth recent db = some sid then 1 else 0) db
      ((setRecent env auth recent).run db).2 := by
  unfold setRecent
  cases hvalid : Fastotv.recentValid recent with
  | false =>
    rw [if_neg]
    · exact .of_streams_eq rfl
    · rw [viewedStream_eq_some_iff, hvalid]
      exact fun h => Bool.false_ne_true h.1
  | true =>
    rw [Bool.not_true, if_neg Bool.false_ne_true]
    have hkeeps : KeepsStreams db ((setUserStreamField env auth recent.channel recentField
        (.dateTime recent.timestamp)).run db).2 := keepsStreams_setUserStreamField _ _ _ db
    by_cases hfinds : ∃ u s st, SetterFinds env auth recent.channel db u s st
    · obtain ⟨u, s, st, hfinds⟩ := hfinds
      obtain ⟨sdoc, hsdoc, -⟩ := hfinds.doc
      have hfound := run_setUserStreamField_of_finds hfinds recentField (.dateTime recent.timestamp)
      rcases hrun : (setUserStreamField env auth recent.channel recentField
        (.dateTime recent.timestamp)).run db with ⟨o, db₁⟩
      rw [hrun] at hkeeps hfound
      obtain rfl := (Prod.mk.inj hfound).1
      rw [run_bind_of_ok hrun]
      have hviewed : viewedStream env auth recent db = some sid ↔
          env.write .incViews = true ∧ s = sid := by
        rw [viewedStream_eq_some_iff, hvalid, Bool.true_and]
        refine and_congr_right fun _ => ⟨fun ⟨_, _, h⟩ => ?_, fun h => ⟨u, st, h ▸ hfinds⟩⟩
        exact Option.some.inj (hfinds.stream.symm.trans h.stream)
      have hsdoc₁ : db₁.streams.findId? s = some sdoc := hkeeps ▸ hsdoc
      have hsame : Watched sid 0 db db₁ := .of_streams_eq hkeeps
      simp only [hviewed]
      rw [← Nat.zero_add (if env.write .incViews = true ∧ s = sid then 1 else 0)]
      exact hsame.trans (watched_incViews hsdoc₁)
    · simp only [not_exists] at hfinds
      obtain ⟨err, herr⟩ := run_setUserStreamField_of_not_finds hfinds recentField
        (.dateTime recent.timestamp)
      rw [run_bind, herr, if_neg]
      · exact .of_streams_eq rfl
      · rw [viewedStream_eq_some_iff]
        rintro ⟨-, u, st, h⟩
        exact hfinds u sid st h

end

end LoadBalance
