import LoadBalance.Equiv.Credentials
import LoadBalance.Mongo.Equiv.UserState

/-!
# What an acknowledged setter has done

The handlers of the three setters send the success reply whatever the manager says, and the manager
itself passes over an update that fails or matches nothing.  So the value that was asked for stands
in the entry afterwards exactly when the update had everything it needs, or the value stood there
before (`acknowledged_applied_iff`).
-/

namespace LoadBalance

open LoadBalance.Action

/-! ### The entry and the value -/

/-- The value is the one that the call asks for. -/
def SetCall.Holds : SetCall → Bson → Prop
  | favorite info, v => v = .bool info.favorite
  | recent info, v => v = .dateTime info.timestamp
  | interrupt info, v => ∃ i : Int32, v = .int32 i ∧ i.toInt64 = info.time

/-- The value can be stored: a time of an interruption has 32 bits. -/
def SetCall.Fits : SetCall → Prop
  | interrupt info => info.time.toInt32.toInt64 = info.time
  | _ => True

theorem SetCall.holds_value_iff (call : SetCall) : call.Holds call.value ↔ call.Fits := by
  cases call with
  | favorite info => exact iff_of_true rfl trivial
  | recent info => exact iff_of_true rfl trivial
  | interrupt info =>
    constructor
    · rintro ⟨i, hi, htime⟩
      rw [SetCall.value, Bson.int32.injEq] at hi
      rw [← hi] at htime
      exact htime
    · exact fun h => ⟨_, rfl, h⟩

/-- There is one way to store the value. -/
theorem SetCall.eq_value_of_holds {call : SetCall} {v : Bson} (h : call.Holds v) :
    v = call.value := by
  cases call with
  | favorite info => exact h
  | recent info => exact h
  | interrupt info =>
    obtain ⟨i, rfl, htime⟩ := h
    rw [SetCall.value, ← htime, Int32.toInt32_toInt64]

/-- The element is an entry of the stream with the value. -/
def EntryHolds (call : SetCall) (sid : Oid) (e : Bson) : Prop :=
  Bson.subMatches userStreamIdField sid e = true ∧
    ∃ d v, e = .document d ∧ Doc.get? d call.field = some v ∧ call.Holds v

/-- One of the three arrays of a subscriber has such an entry. -/
def SubscriberHolds (call : SetCall) (sid : Oid) (fields : Doc) : Prop :=
  ∃ arr ∈ [userStreamsField, userVodsField, userCatchupsField], ∃ a,
    fields.get? arr = some (.array a) ∧ ∃ e ∈ a, EntryHolds call sid e

/-- The requesting subscriber has the value in its entry of the stream. -/
def Applied (env : Env) (auth : ServerDBAuthInfo) (call : SetCall) (db : Database) : Prop :=
  ∃ user sid sub, convertFromString env.beyond auth.uid = some user ∧
    convertFromString env.beyond call.channel = some sid ∧
    db.subscribers.findId? user = some sub ∧ SubscriberHolds call sid sub.fields

/-! ### Setting the value in an entry -/

section

variable {c : SetCall} {sid : Oid} {d : Doc}

theorem SetCall.fits_of_entryHolds {e : Bson} (h : EntryHolds c sid e) : c.Fits := by
  obtain ⟨-, d, v, -, -, hv⟩ := h
  have heq := SetCall.eq_value_of_holds hv
  subst heq
  exact c.holds_value_iff.mp hv

/-- An entry stays one of the stream when its value is set. -/
theorem entryHolds_set_iff (hmatch : Bson.subMatches userStreamIdField sid (.document d) = true) :
    EntryHolds c sid (.document (Doc.set d c.field c.value)) ↔ c.Fits := by
  rw [← c.holds_value_iff]
  constructor
  · rintro ⟨-, d', v, hd, hv, hholds⟩
    rw [Bson.document.injEq] at hd
    subst hd
    rw [Doc.get?_set_self] at hv
    obtain rfl := Option.some.inj hv
    exact hholds
  · intro h
    refine ⟨?_, _, _, rfl, Doc.get?_set_self _ _ _, h⟩
    simpa only [Bson.subMatches, Doc.fieldMatches, Doc.get?_set_ne _ _ c.field_ne_id] using hmatch

/-- Of an array in which the value of one entry is set, either that entry has the value, or one that
had it before. -/
theorem exists_entryHolds_set_iff (as bs : List Bson)
    (hmatch : Bson.subMatches userStreamIdField sid (.document d) = true) :
    (∃ e ∈ as ++ .document (Doc.set d c.field c.value) :: bs, EntryHolds c sid e) ↔
      c.Fits ∨ ∃ e ∈ as ++ .document d :: bs, EntryHolds c sid e := by
  constructor
  · rintro ⟨e, he, hholds⟩
    rcases List.mem_append.mp he with hleft | hright
    · exact Or.inr ⟨e, List.mem_append_left _ hleft, hholds⟩
    · rcases List.mem_cons.mp hright with rfl | hright
      · exact Or.inl ((entryHolds_set_iff hmatch).mp hholds)
      · exact Or.inr ⟨e, List.mem_append_right _ (List.mem_cons_of_mem _ hright), hholds⟩
  · rintro (hfits | ⟨e, he, hholds⟩)
    · exact ⟨_, List.mem_append_right _ List.mem_cons_self, (entryHolds_set_iff hmatch).mpr hfits⟩
    · rcases List.mem_append.mp he with hleft | hright
      · exact ⟨e, List.mem_append_left _ hleft, hholds⟩
      · rcases List.mem_cons.mp hright with rfl | hright
        · -- The entry that is set had the value already, so the value fits.
          exact ⟨_, List.mem_append_right _ List.mem_cons_self,
            (entryHolds_set_iff hmatch).mpr (SetCall.fits_of_entryHolds hholds)⟩
        · exact ⟨e, List.mem_append_right _ (List.mem_cons_of_mem _ hright), hholds⟩

/-- The same of the arrays of a subscriber. -/
theorem subscriberHolds_set_iff {fields : Doc} {arr : String} {as bs : List Bson}
    (harr : arr ∈ [userStreamsField, userVodsField, userCatchupsField])
    (hget : fields.get? arr = some (.array (as ++ .document d :: bs)))
    (hmatch : Bson.subMatches userStreamIdField sid (.document d) = true) :
    SubscriberHolds c sid (fields.set arr
        (.array (as ++ .document (Doc.set d c.field c.value) :: bs))) ↔
      c.Fits ∨ SubscriberHolds c sid fields := by
  have hset := exists_entryHolds_set_iff (c := c) as bs hmatch
  constructor
  · rintro ⟨arr', harr', a, ha, he⟩
    by_cases heq : arr' = arr
    · subst heq
      rw [Doc.get?_set_self, Option.some.injEq, Bson.array.injEq] at ha
      subst ha
      exact (hset.mp he).imp_right fun he => ⟨arr', harr, _, hget, he⟩
    · rw [Doc.get?_set_ne _ _ heq] at ha
      exact Or.inr ⟨arr', harr', a, ha, he⟩
  · rintro (hfits | ⟨arr', harr', a, ha, he⟩)
    · exact ⟨arr, harr, _, Doc.get?_set_self _ _ _, hset.mpr (Or.inl hfits)⟩
    · by_cases heq : arr' = arr
      · subst heq
        obtain rfl := Bson.array.inj (Option.some.inj (ha.symm.trans hget))
        exact ⟨arr', harr, _, Doc.get?_set_self _ _ _, hset.mpr (Or.inr he)⟩
      · refine ⟨arr', harr', a, ?_, he⟩
        rw [Doc.get?_set_ne _ _ heq]
        exact ha

end

section

variable [Fastotv] {env : Env} {auth : ServerDBAuthInfo} {call : SetCall} {db : Database}

/-- The update of the call has everything it needs: the info is valid, the stream has a document
with a class, the array that the class selects has an entry of the stream, the value fits, and the
write is not lost. -/
def SetsEntry (env : Env) (auth : ServerDBAuthInfo) (call : SetCall) (db : Database) : Prop :=
  call.isValid = true ∧ env.write .setEntry = true ∧ call.Fits ∧ ∃ user sid st a,
    convertFromString env.beyond auth.uid = some user ∧
    convertFromString env.beyond call.channel = some sid ∧
    HasArray st user sid a db ∧ HasEntryOf sid a

/-! ### One call -/

omit [Fastotv] in
/-- The operator finds no entry of the stream, or changes one. -/
theorem setElementOp_cases {sid : Oid} {field : String} {v : Bson} {w : Option Bson} {b : Bson}
    (h : setElementOp userStreamIdField sid field v w = some b) :
    ∃ a, w = some (.array a) ∧
      ((∀ e ∈ a, Bson.subMatches userStreamIdField sid e = false) ∨
        ∃ as d bs, a = as ++ .document d :: bs ∧
          b = .array (as ++ .document (Doc.set d field v) :: bs) ∧
          Bson.subMatches userStreamIdField sid (.document d) = true) := by
  unfold setElementOp at h
  split at h
  · next a =>
    refine ⟨a, rfl, ?_⟩
    obtain ⟨a', ha', rfl⟩ := Option.map_eq_some_iff.mp h
    rcases modifyFirst_cases ha' with ⟨hno, -⟩ | ⟨as, e, e', bs, rfl, -, he, hset, rfl⟩
    · exact Or.inl hno
    · right
      split at hset
      · obtain rfl := Option.some.inj hset
        exact ⟨as, _, bs, rfl, rfl, he⟩
      · cases hset
  · cases h

omit [Fastotv] in
/-- The common part of the setters comes to an end, and either leaves the subscribers alone or makes
the update. -/
theorem setUserStreamField_cases {channel : StreamId} {field : String} {v : Bson}
    {o : Outcome Error Oid} {db' : Database}
    (hrun : (setUserStreamField env auth channel field v).run db = (o, db')) :
    o.Returns ∧ (db'.subscribers = db.subscribers ∨
      ∃ user sid sdoc st c, convertFromString env.beyond auth.uid = some user ∧
        convertFromString env.beyond channel = some sid ∧ db.streams.findId? sid = some sdoc ∧
        streamType? sdoc.toDoc = some st ∧ env.write .setEntry = true ∧
        db.subscribers.update (userHasStream user sid (userArrayField st)) (userArrayField st)
          (userArrayField_ne_id st) (setElementOp userStreamIdField sid field v) = some c ∧
        db'.subscribers = c) := by
  have hsame : ∀ err, (.error err, db) = (o, db') →
      o.Returns ∧ db'.subscribers = db.subscribers := by
    rintro err ⟨⟩
    exact ⟨trivial, rfl⟩
  by_cases hfinds : ∃ user sid st, SetterFinds env auth channel db user sid st
  · obtain ⟨user, sid, st, hfinds⟩ := hfinds
    rw [run_setUserStreamField_of_finds hfinds] at hrun
    obtain ⟨huser, hsid, sdoc, hsdoc, hst⟩ := hfinds
    rcases hupdate : (mongoUpdate env .setEntry .subscribers
      (userHasStream user sid (userArrayField st)) (userArrayField st)
      (userArrayField_ne_id st) (setElementOp userStreamIdField sid field v)).run db with
      ⟨o', db''⟩
    rw [hupdate] at hrun
    cases hrun
    -- The outcome of the update is passed over.
    rcases writeBack_cases hupdate with ⟨hwrite, c, hc, -, rfl⟩ | ⟨-, -, rfl⟩
    · exact ⟨trivial, Or.inr ⟨user, sid, sdoc, st, c, huser, hsid, hsdoc, hst, hwrite, hc, rfl⟩⟩
    · exact ⟨trivial, Or.inl rfl⟩
  · simp only [not_exists] at hfinds
    obtain ⟨err, herr⟩ := run_setUserStreamField_of_not_finds hfinds field v
    exact (hsame err (herr.symm.trans hrun)).imp_right Or.inl

omit [Fastotv] in
/-- What the setters do behind their common part does not matter to the subscribers. -/
theorem setter_cases {valid : Bool} {x : Action Database Error Oid}
    {rest : Oid → Action Database Error Unit} (hx : (x.run db).1.Returns)
    (hrest : ∀ sid db, ((rest sid).run db).1.Returns ∧
      ((rest sid).run db).2.subscribers = db.subscribers) :
    ((if !valid then fail .inval else x >>= rest : Action Database Error Unit).run db).1.Returns ∧
      ((if !valid then fail .inval else x >>= rest : Action Database Error Unit).run
        db).2.subscribers = if valid then (x.run db).2.subscribers else db.subscribers := by
  cases valid with
  | false => exact ⟨trivial, rfl⟩
  | true =>
    rw [if_neg (by simp), if_pos rfl, run_bind]
    rcases hrun : x.run db with ⟨sid | err | _, db'⟩
    · exact hrest sid db'
    · exact ⟨trivial, rfl⟩
    · rw [hrun] at hx
      exact absurd hx Outcome.not_returns_abort

/-- A call comes to an end, and the subscribers are those that its common part leaves. -/
theorem run_action_cases (env : Env) (auth : ServerDBAuthInfo) (call : SetCall) (db : Database) :
    ((SetRequest.mk env auth call).action.run db).1.Returns ∧
      (applySet db ⟨env, auth, call⟩).subscribers = if call.isValid then
        ((setUserStreamField env auth call.channel call.field call.value).run db).2.subscribers
      else db.subscribers := by
  have hx : ((setUserStreamField env auth call.channel call.field call.value).run db).1.Returns :=
    (setUserStreamField_cases rfl).1
  cases call with
  | favorite info => exact setter_cases hx fun _ _ => ⟨trivial, rfl⟩
  | recent info =>
    refine setter_cases hx fun sid db => ?_
    rw [run_attempt]
    rcases hrun : (mongoUpdate env .incViews .streams (StoredDoc.hasId sid) streamViewCountField
      viewCount_ne_id incOp).run db with ⟨o, db'⟩
    rcases writeBack_cases hrun with ⟨-, c, -, rfl, rfl⟩ | ⟨-, rfl, rfl⟩
    · exact ⟨trivial, rfl⟩
    · exact ⟨trivial, rfl⟩
  | interrupt info => exact setter_cases hx fun _ _ => ⟨trivial, rfl⟩

/-- What a call does to the subscribers: nothing, or it sets the value in the entry of the stream
that `SetsEntry` speaks of, if the value fits. -/
theorem applySet_cases (env : Env) (auth : ServerDBAuthInfo) (call : SetCall) (db : Database) :
    (applySet db ⟨env, auth, call⟩).subscribers = db.subscribers ∨
      ∃ user sid st sub sub' as d bs, (call.Fits → SetsEntry env auth call db) ∧
        convertFromString env.beyond auth.uid = some user ∧
        convertFromString env.beyond call.channel = some sid ∧
        db.subscribers.findId? user = some sub ∧
        sub.fields.get? (userArrayField st) = some (.array (as ++ .document d :: bs)) ∧
        Bson.subMatches userStreamIdField sid (.document d) = true ∧
        (applySet db ⟨env, auth, call⟩).subscribers.findId? user = some sub' ∧
        sub'.fields = sub.fields.set (userArrayField st)
          (.array (as ++ .document (Doc.set d call.field call.value) :: bs)) := by
  rw [(run_action_cases env auth call db).2]
  split_ifs with hvalid
  · rcases hrun : (setUserStreamField env auth call.channel call.field call.value).run db with
      ⟨o, db'⟩
    obtain ⟨-, hsame | ⟨user, sid, sdoc, st, c, huser, hsid, hsdoc, hst, hwrite, hc, heq⟩⟩ :=
      setUserStreamField_cases hrun
    · exact Or.inl hsame
    · rw [heq]
      have hquery : ∀ d, userHasStream user sid (userArrayField st) d = true →
          d.id = .oid user := by
        intro d hd
        simp only [userHasStream, Bool.and_eq_true] at hd
        exact StoredDoc.hasId_iff.mp hd.1
      rcases Collection.update_cases hquery hc with
        ⟨-, rfl⟩ | ⟨sub, sub', v, hsub, hq, hv, -, hfields, hsub', -⟩
      · exact Or.inl rfl
      · obtain ⟨a, ha, hno | ⟨as, d, bs, rfl, rfl, hmatch⟩⟩ := setElementOp_cases hv
        · -- The query has found an entry.
          simp only [userHasStream, Bool.and_eq_true, Doc.fieldMatches,
            StoredDoc.get?_toDoc (userArrayField_ne_id st), ha, Bson.pathMatches,
            List.any_eq_true] at hq
          obtain ⟨-, e, he, hmatch⟩ := hq
          rw [hno e he] at hmatch
          cases hmatch
        · refine Or.inr ⟨user, sid, st, sub, sub', as, d, bs, fun hfits => ?_, huser, hsid, hsub,
            ha, hmatch, hsub', hfields⟩
          exact ⟨hvalid, hwrite, hfits, user, sid, st, _, huser, hsid,
            ⟨⟨sdoc, hsdoc, hst⟩, sub, hsub, ha⟩, _, List.mem_append_right _ List.mem_cons_self,
            hmatch⟩
  · exact Or.inl rfl

/-- A call that has what it needs leaves the value in the entry. -/
theorem applied_of_setsEntry (h : SetsEntry env auth call db) :
    Applied env auth call (applySet db ⟨env, auth, call⟩) := by
  obtain ⟨hvalid, hwrite, hfits, user, sid, st, a, huser, hsid, harray, e, he, hmatch⟩ := h
  obtain ⟨x, hx⟩ : ∃ x, a.find? (Bson.subMatches userStreamIdField sid) = some x := by
    cases hfind : a.find? (Bson.subMatches userStreamIdField sid) with
    | some x => exact ⟨x, rfl⟩
    | none =>
      have hno := List.find?_eq_none.mp hfind e he
      exact absurd hmatch hno
  obtain ⟨hxmatch, as, bs, rfl, has⟩ := List.find?_eq_some_iff_append.mp hx
  have has' : ∀ e ∈ as, Bson.subMatches userStreamIdField sid e = false :=
    fun e he => by simpa using has e he
  cases x with
  | document d =>
    have hop : setElementOp userStreamIdField sid call.field call.value
        (some (.array (as ++ .document d :: bs))) =
        some (.array (as ++ .document (Doc.set d call.field call.value) :: bs)) := by
      unfold setElementOp
      dsimp only
      rw [modifyFirst_append_cons has' hxmatch]
      rfl
    have hset := hasArray_applySet (r := ⟨env, auth, call⟩) ⟨huser, hsid⟩ harray
      ⟨e, he, hmatch⟩ hop
    have hsets : SetRequest.sets ⟨env, auth, call⟩ = true := by
      unfold SetRequest.sets
      rw [hvalid, hwrite]
      rfl
    rw [hsets, if_pos rfl] at hset
    obtain ⟨-, sub, hsub, harr⟩ := hset
    exact ⟨user, sid, sub, huser, hsid, hsub, _, userArrayField_mem st, _, harr,
      (exists_entryHolds_set_iff as bs hxmatch).mpr (Or.inl hfits)⟩
  | _ => cases hxmatch

/-- After a call the value stands in the entry iff the call had what it needs, or the value stood
there before. -/
theorem applied_applySet_iff (env : Env) (auth : ServerDBAuthInfo) (call : SetCall)
    (db : Database) : Applied env auth call (applySet db ⟨env, auth, call⟩) ↔
      SetsEntry env auth call db ∨ Applied env auth call db := by
  constructor
  · rintro ⟨user, sid, sub', huser, hsid, hsub', hholds⟩
    rcases applySet_cases env auth call db with hsame |
      ⟨user', sid', st, sub, sub'', as, d, bs, hsets, huser', hsid', hsub, harr, hmatch, hsub'',
        hfields⟩
    · rw [hsame] at hsub'
      exact Or.inr ⟨user, sid, sub', huser, hsid, hsub', hholds⟩
    · obtain rfl := Option.some.inj (huser.symm.trans huser')
      obtain rfl := Option.some.inj (hsid.symm.trans hsid')
      obtain rfl := Option.some.inj (hsub'.symm.trans hsub'')
      rw [hfields, subscriberHolds_set_iff (userArrayField_mem st) harr hmatch] at hholds
      exact hholds.imp hsets fun hholds => ⟨user, sid, sub, huser, hsid, hsub, hholds⟩
  · rintro (hsets | ⟨user, sid, sub, huser, hsid, hsub, hholds⟩)
    · exact applied_of_setsEntry hsets
    · rcases applySet_cases env auth call db with hsame |
        ⟨user', sid', st, sub₀, sub', as, d, bs, -, huser', hsid', hsub₀, harr, hmatch, hsub',
          hfields⟩
      · exact ⟨user, sid, sub, huser, hsid, by rw [hsame]; exact hsub, hholds⟩
      · obtain rfl := Option.some.inj (huser.symm.trans huser')
        obtain rfl := Option.some.inj (hsid.symm.trans hsid')
        obtain rfl := Option.some.inj (hsub.symm.trans hsub₀)
        refine ⟨user, sid, sub', huser, hsid, hsub', ?_⟩
        rw [hfields, subscriberHolds_set_iff (userArrayField_mem st) harr hmatch]
        exact Or.inr hholds

/-! ### The handlers -/

omit [Fastotv] in
/-- One of the three requests. -/
def Command.IsSetter : Command → Prop
  | setFavorite _ => True
  | setRecent _ => True
  | interruptStreamTime _ => True
  | _ => False

/-- The call that the handler of a request makes, when the parameters decode. -/
def Command.setCall? : Command → Option SetCall
  | setFavorite (.decoded info) => some (.favorite info)
  | setRecent (.decoded info) => some (.recent info)
  | interruptStreamTime (.decoded info) => some (.interrupt info)
  | _ => none

/-- The replies of the three handlers. -/
def Reply.SetSuccess : Reply → Prop
  | getFavoriteInfoSuccess => True
  | getRecentInfoSuccess => True
  | getInterruptStreamTimeInfoSuccess => True
  | _ => False

/-- The reply of the handler that makes the call. -/
def SetCall.success : SetCall → Reply
  | favorite _ => .getFavoriteInfoSuccess
  | recent _ => .getRecentInfoSuccess
  | interrupt _ => .getInterruptStreamTimeInfoSuccess

omit [Fastotv] in
theorem SetCall.success_isSuccess (call : SetCall) : call.success.SetSuccess := by
  cases call <;> trivial

variable {s : State} {sur : Surroundings} {client : ClientId} {id : RequestId} {command : Command}

omit [Fastotv] in
/-- The database after a call whose error is passed over, and a reply. -/
theorem run_attempt_then_reply {x : Action Database Error Unit} {r : Reply} {o : Outcome Error Unit}
    {db' : Database} (hx : x.run s.db = (o, db')) (ho : o ≠ .abort) :
    ((do attempt (database x); reply sur client id r : Call Unit).run s).2 =
      { s with db := db', sent := s.sent ++ told sur client id r } := by
  have hattempt : (attempt (database x)).run s = (.ok (), { s with db := db' }) := by
    rw [run_attempt]
    unfold database
    rw [run_zoom, hx]
    cases o with
    | abort => exact absurd rfl ho
    | ok _ => rfl
    | error _ => rfl
  rw [run_bind_of_ok hattempt]
  unfold reply write told
  split_ifs
  · rfl
  · rw [List.append_nil]
    rfl

/-- Such a request of a logged in connection makes the call that it stands for, and is answered
whatever comes of it; one whose parameters do not decode is not. -/
theorem run_setter (sur : Surroundings) (id : RequestId) (hsetter : command.IsSetter)
    (hlogin : s.loginOf client = some auth) :
    ((handleRequestCommand sur client ⟨id, command⟩).run s).2 = match command.setCall? with
      | some call => { s with
          db := applySet s.db ⟨sur.toEnv, auth, call⟩
          sent := s.sent ++ told sur client id call.success }
      | none => s := by
  obtain ⟨c, hc, hclogin⟩ := Option.bind_eq_some_iff.mp hlogin
  have hreturns := fun call => Outcome.returns_iff.mp
    (run_action_cases sur.toEnv auth call s.db).1
  unfold handleRequestCommand
  cases command with
  | setFavorite params =>
    dsimp only
    rw [handleRequestClientSetFavorite_eq, run_withLogin_of_some hc hclogin]
    cases params with
    | decoded info => exact run_attempt_then_reply rfl (hreturns (.favorite info))
    | absent => rfl
    | refused err => rfl
  | setRecent params =>
    dsimp only
    rw [handleRequestClientSetRecent_eq, run_withLogin_of_some hc hclogin]
    cases params with
    | decoded info => exact run_attempt_then_reply rfl (hreturns (.recent info))
    | absent => rfl
    | refused err => rfl
  | interruptStreamTime params =>
    dsimp only
    rw [handleRequestInterruptStreamTime_eq, run_withLogin_of_some hc hclogin]
    cases params with
    | decoded info => exact run_attempt_then_reply rfl (hreturns (.interrupt info))
    | absent => rfl
    | refused err => rfl
  | _ => cases hsetter

/-- The success reply of a setter stands for a value in the entry iff the call had everything it
needs, or the value stood there before. -/
theorem acknowledged_applied_iff (s : State) (sur : Surroundings) (client : ClientId)
    (auth : ServerDBAuthInfo) (id : RequestId) (command : Command) (hsetter : command.IsSetter)
    (hlogin : s.loginOf client = some auth) :
    (∀ s' outs r, ((handleRequestCommand sur client ⟨id, command⟩).run s).2 = s' →
        s'.sent = s.sent ++ outs → .reply client id r ∈ outs → r.SetSuccess →
        ∃ call, command.setCall? = some call ∧ Applied sur.toEnv auth call s'.db) ↔
      ∀ call, command.setCall? = some call → sur.sends client = true →
        SetsEntry sur.toEnv auth call s.db ∨ Applied sur.toEnv auth call s.db := by
  have hrun := run_setter sur id hsetter hlogin
  cases hcall : command.setCall? with
  | none =>
    rw [hcall] at hrun
    refine iff_of_true (fun s' outs r hs' hsent hr _ => ?_) nofun
    -- Nothing is sent.
    rw [← hs', hrun, List.self_eq_append_right] at hsent
    rw [hsent] at hr
    cases hr
  | some call =>
    rw [hcall] at hrun
    constructor
    · intro h call' hcall' hsends
      obtain rfl := Option.some.inj hcall'
      have htold : Output.reply client id call.success ∈ told sur client id call.success := by
        rw [told, if_pos hsends]
        exact List.mem_singleton_self _
      obtain ⟨call', hcall', happlied⟩ := h _ _ call.success hrun rfl htold call.success_isSuccess
      obtain rfl := Option.some.inj hcall'
      exact (applied_applySet_iff _ _ _ _).mp happlied
    · intro h s' outs r hs' hsent hr hsuccess
      rw [hrun] at hs'
      subst hs'
      obtain rfl := List.append_cancel_left hsent
      unfold told at hr
      split_ifs at hr with hsends
      · exact ⟨call, rfl, (applied_applySet_iff _ _ _ _).mpr (h call rfl hsends)⟩
      · cases hr

end

/-! A subscriber who has a channel, and asks for another one to be a favorite. -/

namespace Sample

/-- A connection on which the subscriber is logged in. -/
def loggedInState : State :=
  { viewerStart with clients := fun client =>
      if client = 7 then some ⟨.subscriber, some login, ""⟩ else none }

def favoriteCommand (o : Oid) : Command := .setFavorite (.decoded ⟨o.text, true⟩)

end Sample

open Sample in
/-- There is no stream with this id, and the request is answered with success. -/
theorem favorite_of_unknown_stream : ∃ s', loggedInState.loginOf 7 = some login ∧
    ((handleRequestCommand sur 7 ⟨some "3", favoriteCommand (oid 9)⟩).run loggedInState).2 = s' ∧
    .reply 7 (some "3") .getFavoriteInfoSuccess ∈ s'.sent ∧
    ¬Applied sur.toEnv login (.favorite ⟨(oid 9).text, true⟩) s'.db := by
  refine ⟨_, rfl, rfl, List.mem_singleton_self _, ?_⟩
  rintro ⟨user, sid, sub, huser, hsid, hsub, arr, harr, a, ha, e, he, hmatch, -⟩
  obtain rfl := Option.some.inj ((convertFromString_text _ (oid 1)).symm.trans huser)
  obtain rfl := Option.some.inj ((convertFromString_text _ (oid 9)).symm.trans hsid)
  obtain rfl : viewer = sub := Option.some.inj hsub
  -- The subscriber has one entry, of another stream.
  have hentry : e = .document (userStreamEntry (oid 2)) := by
    have hstreams : viewer.fields.get? userStreamsField =
        some (.array [.document (userStreamEntry (oid 2))]) := rfl
    have hvods : viewer.fields.get? userVodsField = none := by decide
    have hcatchups : viewer.fields.get? userCatchupsField = none := by decide
    simp only [List.mem_cons, List.not_mem_nil, or_false] at harr
    rcases harr with rfl | rfl | rfl
    · obtain rfl := Bson.array.inj (Option.some.inj (hstreams.symm.trans ha))
      exact List.mem_singleton.mp he
    · cases hvods.symm.trans ha
    · cases hcatchups.symm.trans ha
  subst hentry
  exact absurd hmatch (by decide)

open Sample in
theorem acknowledged_applied_iff_sample :
    (∀ s' outs r, ((handleRequestCommand sur 7 ⟨some "3", favoriteCommand (oid 2)⟩).run
          loggedInState).2 = s' →
        s'.sent = loggedInState.sent ++ outs → .reply 7 (some "3") r ∈ outs → r.SetSuccess →
        ∃ call, (favoriteCommand (oid 2)).setCall? = some call ∧
          Applied sur.toEnv login call s'.db) ↔
      ∀ call, (favoriteCommand (oid 2)).setCall? = some call → sur.sends 7 = true →
        SetsEntry sur.toEnv login call loggedInState.db ∨
          Applied sur.toEnv login call loggedInState.db :=
  acknowledged_applied_iff loggedInState sur 7 login (some "3") (favoriteCommand (oid 2)) trivial
    rfl

end LoadBalance
