import LoadBalance.Mongo.Catchup
import LoadBalance.Mongo.Login
import Mathlib.Logic.Relation

/-!
# The writes of the requests

What the balancer writes to the database, one write after another: `Wrote u db db'` is one write of
a request that creates no catchup and adds none to a subscriber, `u` being the subscriber that it is
made for (nothing for the activation of a device).  A call of the database is a sequence of them
(`Writes`), so what each of the six writes keeps, all of these calls keep.
-/

namespace LoadBalance

open LoadBalance.Action

/-- One write, and the subscriber that it is made for. -/
inductive Wrote : Option Oid → Database → Database → Prop where
  /-- The first login with a device. -/
  | activate {db : Database} {login : String} {device : Oid} {c : Collection}
      (h : db.subscribers.update
        (fun d => d.toDoc.fieldMatches emailField (Bson.matchesUtf8 (cstr login)) &&
          d.toDoc.fieldMatches devicesField (Bson.pathMatches deviceIdField device))
        devicesField devices_ne_id
        (setElementOp deviceIdField device deviceStatusField (.int32 deviceActive)) = some c) :
      Wrote none db (db.set .subscribers c)
  /-- A setter changes a field of an entry. -/
  | setEntry {db : Database} {user sid : Oid} {st : StreamType} {field : String} {v : Bson}
      {c : Collection} (hfield : field ≠ userStreamIdField)
      (h : db.subscribers.update (userHasStream user sid (userArrayField st)) (userArrayField st)
        (userArrayField_ne_id st) (setElementOp userStreamIdField sid field v) = some c) :
      Wrote (some user) db (db.set .subscribers c)
  /-- A view is counted. -/
  | incViews {db : Database} {user sid : Oid} {c : Collection}
      (h : db.streams.update (StoredDoc.hasId sid) streamViewCountField viewCount_ne_id incOp =
        some c) :
      Wrote (some user) db (db.set .streams c)
  /-- The entries of a catchup are taken out. -/
  | pullCatchup {db : Database} {user sid : Oid} {c : Collection}
      (h : db.subscribers.update
        (fun d => d.hasId user && (d.fields.get? userCatchupsField).isSome) userCatchupsField
        userCatchups_ne_id (pullOp userStreamIdField sid) = some c) :
      Wrote (some user) db (db.set .subscribers c)
  | insertRequest {db : Database} {user requestid : Oid} {request : CreateContentRequestInfo}
      {c : Collection}
      (h : db.requests.insert requestid (requestDoc request) (no_id_requestDoc _) = some c) :
      Wrote (some user) db (db.set .requests c)
  | pushRequest {db : Database} {user requestid : Oid} {c : Collection}
      (h : db.subscribers.update (StoredDoc.hasId user) requestsField requests_ne_id
        (pushOp (.oid requestid)) = some c) :
      Wrote (some user) db (db.set .subscribers c)

/-- Writes one after another, each for somebody in `U`. -/
def Writes (U : Option Oid → Prop) : Database → Database → Prop :=
  Relation.ReflTransGen fun db db' => ∃ u, U u ∧ Wrote u db db'

/-- Writes for anybody. -/
abbrev AnyWrites : Database → Database → Prop := Writes fun _ => True

instance {U : Option Oid → Prop} : IsPreorder Database (Writes U) where
  refl _ := Relation.ReflTransGen.refl
  trans _ _ _ h h' := Relation.ReflTransGen.trans h h'

/-- What each write keeps, all of them keep. -/
theorem Writes.rel {U : Option Oid → Prop} {R : Database → Database → Prop} [IsPreorder Database R]
    (hR : ∀ u db db', U u → Wrote u db db' → R db db') {db db' : Database}
    (h : Writes U db db') : R db db' := by
  induction h with
  | refl => exact refl_of R db
  | tail _ hwrote ih =>
    obtain ⟨u, hu, hwrote⟩ := hwrote
    exact trans_of R ih (hR u _ _ hu hwrote)

/-! ### The calls -/

section

variable {U : Option Oid → Prop} {goesThrough : Bool} {n : CollectionName}
  {f : Collection → Option Collection} {env : Env}

theorem writes_writeBack
    (h : ∀ db c, f (db.get n) = some c → ∃ u, U u ∧ Wrote u db (db.set n c)) :
    Within (Writes U) (writeBack goesThrough n f) := by
  exact fun db => rel_writeBack fun _ c hc => Relation.ReflTransGen.single (h db c hc)

theorem writes_activateDevice (hU : U none) (login : String) (oid : Oid) :
    Within (Writes U) (activateDevice env login oid) :=
  within_activateDevice fun _ _ h => Relation.ReflTransGen.single ⟨none, hU, .activate h⟩

variable {auth : ServerDBAuthInfo} (hU : ∀ user, convertFromString env.beyond auth.uid = some user →
  U (some user))

include hU

theorem writes_setUserStreamField {field : String} (hfield : field ≠ userStreamIdField)
    (channel : StreamId) (v : Bson) :
    Within (Writes U) (setUserStreamField env auth channel field v) := by
  unfold setUserStreamField
  refine within_bind (within_orFail _ _) fun sid => ?_
  refine within_bind (within_reads _) fun sdoc => ?_
  refine within_bind (within_orFail _ _) fun sdoc => ?_
  refine within_bind (within_orFail _ _) fun st => ?_
  refine within_bind_of_ok (within_orFail _ _) fun db oid db' hoid => ?_
  obtain ⟨huser, rfl⟩ := run_orFail_eq_ok.mp hoid
  refine within_bind (within_attempt (writes_writeBack fun _ _ h => ?_)) (fun _ => within_pure _) db'
  exact ⟨some oid, hU oid huser, .setEntry hfield h⟩

omit hU in
/-- A setter that gets to the end knows its subscriber. -/
theorem uid_of_setUserStreamField {field : String} {channel : StreamId} {v : Bson}
    {db db' : Database} {sid : Oid}
    (h : (setUserStreamField env auth channel field v).run db = (.ok sid, db')) :
    ∃ user, convertFromString env.beyond auth.uid = some user := by
  unfold setUserStreamField at h
  obtain ⟨sid, s, -, h⟩ := run_bind_eq_ok.mp h
  obtain ⟨sdoc, s, -, h⟩ := run_bind_eq_ok.mp h
  obtain ⟨sdoc, s, -, h⟩ := run_bind_eq_ok.mp h
  obtain ⟨st, s, -, h⟩ := run_bind_eq_ok.mp h
  obtain ⟨oid, s, hoid, -⟩ := run_bind_eq_ok.mp h
  exact ⟨oid, (run_orFail_eq_ok.mp hoid).1⟩

variable [Fastotv]

theorem writes_setFavorite (favorite : FavoriteInfo) :
    Within (Writes U) (setFavorite env auth favorite) := by
  unfold setFavorite
  split_ifs
  · exact within_fail _
  · exact within_bind (writes_setUserStreamField hU (by decide) _ _) fun _ => within_pure _

theorem writes_setRecent (recent : RecentStreamTimeInfo) :
    Within (Writes U) (setRecent env auth recent) := by
  unfold setRecent
  split_ifs
  · exact within_fail _
  · refine within_bind_of_ok (writes_setUserStreamField hU (by decide) _ _) fun db sid db' h => ?_
    obtain ⟨user, huser⟩ := uid_of_setUserStreamField h
    refine within_attempt (writes_writeBack fun _ _ h => ?_) db'
    exact ⟨some user, hU user huser, .incViews h⟩

theorem writes_setInterruptTime (inter : InterruptStreamTimeInfo) :
    Within (Writes U) (setInterruptTime env auth inter) := by
  unfold setInterruptTime
  split_ifs
  · exact within_fail _
  · exact within_bind (writes_setUserStreamField hU (by decide) _ _) fun _ => within_pure _

theorem writes_removeUserCatchup (sid : StreamId) :
    Within (Writes U) (removeUserCatchup env auth sid) := by
  unfold removeUserCatchup withUserAndStream
  split_ifs
  · exact within_fail _
  · refine within_bind_of_ok (within_orFail _ _) fun db oid db' hoid => ?_
    obtain ⟨huser, rfl⟩ := run_orFail_eq_ok.mp hoid
    refine within_bind (within_orFail _ _) (fun bsid => ?_) db'
    exact writes_writeBack fun _ _ h => ⟨some oid, hU oid huser, .pullCatchup h⟩

theorem writes_createRequestContent (request : CreateContentRequestInfo) :
    Within (Writes U) (createRequestContent env auth request) := by
  unfold createRequestContent
  split_ifs
  · exact within_fail _
  · refine within_bind_of_ok (within_orFail _ _) fun db oid db' hoid => ?_
    obtain ⟨huser, rfl⟩ := run_orFail_eq_ok.mp hoid
    have hu := hU oid huser
    refine within_bind (writes_writeBack fun _ _ h => ⟨some oid, hu, .insertRequest h⟩)
      (fun _ => ?_) db'
    exact within_bind (writes_writeBack fun _ _ h => ⟨some oid, hu, .pushRequest h⟩)
      fun _ => within_pure _

end

end LoadBalance
