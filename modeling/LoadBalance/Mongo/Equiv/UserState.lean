import LoadBalance.Library.Transition
import LoadBalance.Mongo.Equiv.SingleStream

/-!
# The state of a stream from the setters to the catalogue

The functions that append an entry and the three setters keep, in the fields of the entry, the
last values that were set (`HasEntry`, kept by every call: `hasEntry_applySet`).  The reader does
not see them all: the appended entries have no field `locked`, and what stands behind it is
`recent` and `interruption_time` (`makeUserStreamInfo_storedEntry`).  So what the catalogue says
about the entry is what was set exactly when nothing but a favorite was
(`user_state_reported_iff`).
-/

namespace LoadBalance

open LoadBalance.Action

/-! ### Calls -/

/-- A call of one of the three setters. -/
inductive SetCall where
  | favorite (info : FavoriteInfo)
  | recent (info : RecentStreamTimeInfo)
  | interrupt (info : InterruptStreamTimeInfo)

def SetCall.channel : SetCall → StreamId
  | favorite info => info.channel
  | recent info => info.channel
  | interrupt info => info.channel

/-- A call with its surroundings and the login it is made for. -/
structure SetRequest where
  env : Env
  auth : ServerDBAuthInfo
  call : SetCall

/-- The call is made for the stream `s` by the subscriber `u`. -/
def SetRequest.IsFor (r : SetRequest) (u s : Oid) : Prop :=
  convertFromString r.env.beyond r.auth.uid = some u ∧
    convertFromString r.env.beyond r.call.channel = some s

/-- The state of a stream of a subscriber: what the three setters set. -/
structure UserState where
  favorite : Bool := false
  recent : Timestamp := 0
  interruptionTime : Timestamp := 0
deriving DecidableEq, Repr

section

variable [Fastotv]

def SetCall.isValid : SetCall → Bool
  | favorite info => Fastotv.favoriteValid info
  | recent info => Fastotv.recentValid info
  | interrupt info => Fastotv.interruptValid info

def SetRequest.action (r : SetRequest) : Action Database Error Unit :=
  match r.call with
  | .favorite info => setFavorite r.env r.auth info
  | .recent info => setRecent r.env r.auth info
  | .interrupt info => setInterruptTime r.env r.auth info

/-- The database after a call. -/
def applySet (db : Database) (r : SetRequest) : Database := (r.action.run db).2

/-- The call sets its value: it is valid, and the update goes through. -/
def SetRequest.sets (r : SetRequest) : Bool := r.call.isValid && r.env.write .setEntry

/-- The state after a call: its value when it sets it. -/
def UserState.set (w : UserState) (r : SetRequest) : UserState :=
  if r.sets then
    match r.call with
    | .favorite info => { w with favorite := info.favorite }
    | .recent info => { w with recent := info.timestamp }
    | .interrupt info => { w with interruptionTime := info.time }
  else w

/-- The last values set by the calls, the initial ones where none was set. -/
def lastSet (calls : List SetRequest) : UserState := run UserState.set {} calls

end

/-- The function that appends to the array which the type of the stream selects. -/
def addStreamToUserArray (env : Env) (st : StreamType) (userOid streamOid : Oid) :
    Action Database Error Unit :=
  if isVod st then addStreamToUserVodsArray env userOid streamOid
  else if st = .catchup then addStreamToUserCatchupsArray env userOid streamOid
  else addStreamToUserStreamsArray env userOid streamOid

/-- The public list of the array which the type of the stream selects. -/
def publicList (st : StreamType) (r : Catalogue) : List StreamBaseInfo :=
  if isVod st then r.vods.map fun x => x.toStreamBaseInfo
  else if st = .catchup then r.catchups.map fun x => x.toStreamBaseInfo
  else r.chans.map fun x => x.toStreamBaseInfo

/-! ### The entry -/

/-- The fields that an appended entry has in front of its class. -/
def stateFields (s : Oid) (w : UserState) : Doc :=
  [(userStreamIdField, .oid s), (favoriteField, .bool w.favorite), (privateField, .bool false),
    (recentField, .dateTime w.recent),
    (interruptionTimeField, .int32 w.interruptionTime.toInt32)]

/-- Only entries of catchups have a class. -/
def entryCls (st : StreamType) : Doc :=
  if isVod st = false ∧ st = .catchup then [(streamClsField, .utf8 catchupUserClsValue)] else []

/-- An appended entry in which the state `w` was stored. -/
def storedEntry (st : StreamType) (s : Oid) (w : UserState) : Doc :=
  stateFields s w ++ entryCls st

theorem userArrayField_mem (st : StreamType) :
    userArrayField st ∈ [userStreamsField, userVodsField, userCatchupsField] := by
  unfold userArrayField
  split_ifs <;> simp

theorem addStreamToUserArray_eq (env : Env) (st : StreamType) (u s : Oid) :
    addStreamToUserArray env st u s =
      mongoUpdate env .pushEntry .subscribers (StoredDoc.hasId u) (userArrayField st)
        (userArrayField_ne_id st) (pushOp (.document (storedEntry st s {}))) := by
  unfold addStreamToUserArray userArrayField storedEntry entryCls
  cases st <;> rfl

theorem set_append {d d' : Doc} {k : String} {v : Bson} (h : k ∈ Doc.keys d) :
    Doc.set (d ++ d') k v = Doc.set d k v ++ d' := by
  induction d with
  | nil => simp [Doc.keys] at h
  | cons f d ih =>
    obtain ⟨k', v'⟩ := f
    simp only [List.cons_append, Doc.set]
    split_ifs with hk
    · rfl
    · have hmem : k ∈ Doc.keys d := by simpa [Doc.keys, Ne.symm hk] using h
      rw [ih hmem]
      rfl

/-- Setting a field of a stored entry stores the state with the new value. -/
theorem set_storedEntry (st : StreamType) (s : Oid) (w : UserState) (b : Bool) (t : Timestamp) :
    Doc.set (storedEntry st s w) favoriteField (.bool b) =
        storedEntry st s { w with favorite := b } ∧
      Doc.set (storedEntry st s w) recentField (.dateTime t) =
        storedEntry st s { w with recent := t } ∧
      Doc.set (storedEntry st s w) interruptionTimeField (.int32 t.toInt32) =
        storedEntry st s { w with interruptionTime := t } := by
  have hkeys : Doc.keys (stateFields s w) =
      [userStreamIdField, favoriteField, privateField, recentField, interruptionTimeField] := rfl
  unfold storedEntry
  refine ⟨?_, ?_, ?_⟩
  · rw [set_append (by rw [hkeys]; decide)]
    rfl
  · rw [set_append (by rw [hkeys]; decide)]
    rfl
  · rw [set_append (by rw [hkeys]; decide)]
    rfl

/-- The reader gets to the favorite and the `private` flag of a stored entry, and then looks for
`locked`, which no writer puts there: the iterator is at its end. -/
theorem makeUserStreamInfo_storedEntry (st : StreamType) (s : Oid) (w : UserState) :
    makeUserStreamInfo (behind [userStreamIdField] (storedEntry st s w)) =
      { favorite := w.favorite } := by
  have hcls : entryCls st = [] ∨ entryCls st = [(streamClsField, .utf8 catchupUserClsValue)] := by
    unfold entryCls
    split_ifs
    · exact Or.inr rfl
    · exact Or.inl rfl
  unfold storedEntry
  rcases hcls with h | h <;> rw [h] <;> rfl

/-- An embedded document with the id `s` under `sid`. -/
theorem subMatches_storedEntry (st : StreamType) (s : Oid) (w : UserState) :
    Bson.subMatches userStreamIdField s (.document (storedEntry st s w)) = true := by
  simp [Bson.subMatches, Doc.fieldMatches, storedEntry, stateFields, Bson.matchesOid]

/-! ### The positional update -/

/-- Without an earlier element that matches, the update sets the field of the last one. -/
theorem setElementOp_last {k : String} {o : Oid} {field : String} {v : Bson} {before : List Bson}
    {d : Doc} (hbefore : ∀ e ∈ before, Bson.subMatches k o e = false)
    (hd : Bson.subMatches k o (.document d) = true) :
    setElementOp k o field v (some (.array (before ++ [.document d]))) =
      some (.array (before ++ [.document (Doc.set d field v)])) := by
  dsimp only [setElementOp]
  rw [modifyFirst_append_cons hbefore hd]
  rfl

/-- With one, it changes an earlier element, which matches afterwards as before. -/
theorem setElementOp_earlier {k : String} {o : Oid} {field : String} {v : Bson}
    {before : List Bson} {x : Bson} (hfield : k ≠ field)
    (hbefore : ∃ e ∈ before, Bson.subMatches k o e = true) :
    ∃ before', setElementOp k o field v (some (.array (before ++ [x]))) =
        some (.array (before' ++ [x])) ∧ ∃ e ∈ before', Bson.subMatches k o e = true := by
  induction before with
  | nil => simp at hbefore
  | cons e before ih =>
    cases hm : Bson.subMatches k o e with
    | true =>
      -- only an embedded document matches
      cases e with
      | document d =>
        refine ⟨.document (Doc.set d field v) :: before, ?_, _, List.mem_cons_self, ?_⟩
        · simp [setElementOp, modifyFirst, hm]
        · simpa [Bson.subMatches, Doc.fieldMatches, Doc.get?_set_ne d v hfield] using hm
      | _ => simp [Bson.subMatches] at hm
    | false =>
      obtain ⟨e', he', hmatch⟩ := hbefore
      have htail : ∃ e ∈ before, Bson.subMatches k o e = true := by
        rcases List.mem_cons.mp he' with rfl | he'
        · rw [hm] at hmatch
          cases hmatch
        · exact ⟨e', he', hmatch⟩
      obtain ⟨before', hop, e₀, he₀, hm₀⟩ := ih htail
      refine ⟨e :: before', ?_, e₀, List.mem_cons_of_mem _ he₀, hm₀⟩
      simp only [setElementOp, Option.map_eq_some_iff, Bson.array.injEq] at hop ⊢
      obtain ⟨l, hl, rfl⟩ := hop
      exact ⟨e :: (before' ++ [x]), by simp [modifyFirst, hm, hl], rfl⟩

/-! ### Calls on the database -/

/-- The stream `s` is there with the type `st`, and the array of the subscriber `u` that the type
selects is `a`. -/
structure HasArray (st : StreamType) (u s : Oid) (a : List Bson) (db : Database) : Prop where
  stream : ∃ sdoc, db.streams.findId? s = some sdoc ∧ streamType? sdoc.toDoc = some st
  array : ∃ sub, db.subscribers.findId? u = some sub ∧
    sub.fields.get? (userArrayField st) = some (.array a)

/-- Some element of an array is an entry of the stream. -/
def HasEntryOf (s : Oid) (a : List Bson) : Prop :=
  ∃ e ∈ a, Bson.subMatches userStreamIdField s e = true

/-- The field that a call sets, and the value it stores there. -/
def SetCall.field : SetCall → String
  | favorite _ => favoriteField
  | recent _ => recentField
  | interrupt _ => interruptionTimeField

def SetCall.value : SetCall → Bson
  | favorite info => .bool info.favorite
  | recent info => .dateTime info.timestamp
  | interrupt info => .int32 info.time.toInt32

theorem SetCall.field_ne_id (c : SetCall) : userStreamIdField ≠ c.field := by
  cases c <;> dsimp only [SetCall.field] <;> decide

section

variable {env : Env} {auth : ServerDBAuthInfo} {channel : StreamId} {u s : Oid}
  {db : Database} {st : StreamType} {field : String} {v : Bson} {a a' : List Bson}

/-- What a setter looks up before it writes: the subscriber, the stream, and the stream's type. -/
structure SetterFinds (env : Env) (auth : ServerDBAuthInfo) (channel : StreamId) (db : Database)
    (u s : Oid) (st : StreamType) : Prop where
  user : convertFromString env.beyond auth.uid = some u
  stream : convertFromString env.beyond channel = some s
  doc : ∃ sdoc, db.streams.findId? s = some sdoc ∧ streamType? sdoc.toDoc = some st

/-- A setter that finds these comes to its end, whatever becomes of the update. -/
theorem run_setUserStreamField_of_finds (h : SetterFinds env auth channel db u s st)
    (field : String) (v : Bson) :
    (setUserStreamField env auth channel field v).run db =
      (.ok s, ((mongoUpdate env .setEntry .subscribers (userHasStream u s (userArrayField st))
        (userArrayField st) (userArrayField_ne_id st)
        (setElementOp userStreamIdField s field v)).run db).2) := by
  obtain ⟨huid, hsid, sdoc, hstream, htype⟩ := h
  have hfind : db.streams.find? (StoredDoc.hasId s) = some sdoc := hstream
  unfold setUserStreamField
  simp only [Action.run_bind, hsid, Action.run_orFail_some, run_mongoFind,
    Database.get_streams, hfind, htype, huid, Action.run_attempt]
  rcases hw : (mongoUpdate env .setEntry .subscribers (userHasStream u s (userArrayField st))
    (userArrayField st) (userArrayField_ne_id st) (setElementOp userStreamIdField s field v)).run db
    with ⟨o, db'⟩
  rcases writeBack_cases hw with ⟨-, c, -, rfl, rfl⟩ | ⟨-, rfl, rfl⟩ <;> rfl

/-- One that misses something fails before it writes. -/
theorem run_setUserStreamField_of_not_finds (h : ∀ u s st, ¬SetterFinds env auth channel db u s st)
    (field : String) (v : Bson) :
    ∃ err, (setUserStreamField env auth channel field v).run db = (.error err, db) := by
  unfold setUserStreamField
  cases hsid : convertFromString env.beyond channel with
  | none => exact ⟨_, rfl⟩
  | some s =>
    rw [run_bind_of_ok (run_orFail_some _ _ _), run_bind_of_ok (run_mongoFind _ _)]
    cases hsdoc : (db.get .streams).find? (StoredDoc.hasId s) with
    | none => exact ⟨_, rfl⟩
    | some sdoc =>
      rw [run_bind_of_ok (run_orFail_some _ _ _)]
      cases hst : streamType? sdoc.toDoc with
      | none => exact ⟨_, rfl⟩
      | some st =>
        rw [run_bind_of_ok (run_orFail_some _ _ _)]
        cases huser : convertFromString env.beyond auth.uid with
        | none => exact ⟨_, rfl⟩
        | some u => exact absurd ⟨huser, hsid, sdoc, hsdoc, hst⟩ (h u s st)

/-- The common part of the setters on an array that has the stream: the positional update, when
the write goes through. -/
theorem run_setUserStreamField (huid : convertFromString env.beyond auth.uid = some u)
    (hsid : convertFromString env.beyond channel = some s) (h : HasArray st u s a db)
    (hany : HasEntryOf s a)
    (hop : setElementOp userStreamIdField s field v (some (.array a)) = some (.array a')) :
    ∃ db', (setUserStreamField env auth channel field v).run db = (.ok s, db') ∧
      HasArray st u s (if env.write .setEntry then a' else a) db' := by
  obtain ⟨⟨sdoc, hstream, htype⟩, sub, hsub, harr⟩ := h
  have hne := userArrayField_ne_id st
  have hquery : ∀ d, userHasStream u s (userArrayField st) d = true → d.id = .oid u := by
    intro d hd
    simp only [userHasStream, Bool.and_eq_true] at hd
    exact StoredDoc.hasId_iff.mp hd.1
  have hmatch : userHasStream u s (userArrayField st) sub = true := by
    obtain ⟨e, he, hm⟩ := hany
    simp only [userHasStream, Bool.and_eq_true]
    refine ⟨StoredDoc.hasId_iff.mpr (Collection.id_of_findId? hsub), ?_⟩
    rw [Doc.fieldMatches, StoredDoc.get?_toDoc hne, harr]
    exact List.any_eq_true.mpr ⟨e, he, hm⟩
  have hrun := run_setUserStreamField_of_finds ⟨huid, hsid, sdoc, hstream, htype⟩ field v
  rcases hw : (mongoUpdate env .setEntry .subscribers (userHasStream u s (userArrayField st))
    (userArrayField st) hne (setElementOp userStreamIdField s field v)).run db with ⟨o, db'⟩
  rw [hw] at hrun
  rcases writeBack_cases hw with ⟨hgoes, c, hc, -, rfl⟩ | ⟨hnot, -, rfl⟩
  · -- the write went through
    rcases Collection.update_cases hquery hc with ⟨hno, -⟩ | ⟨d, d', v', hd, -, hv, -, hf, hd', -⟩
    · rw [hno sub hsub] at hmatch
      cases hmatch
    · obtain rfl : sub = d := by simpa [hsub] using hd
      rw [harr, hop, Option.some.injEq] at hv
      refine ⟨_, hrun, ⟨sdoc, hstream, htype⟩, d', hd', ?_⟩
      rw [hf, Doc.get?_set_self, hgoes, ← hv]
      rfl
  · refine ⟨_, hrun, ⟨sdoc, hstream, htype⟩, sub, hsub, ?_⟩
    cases hgoes : env.write .setEntry with
    | false => exact harr
    | true =>
      -- the server has no reason to refuse the operator
      have hsome : ∃ c, db'.subscribers.update (userHasStream u s (userArrayField st))
          (userArrayField st) hne (setElementOp userStreamIdField s field v) = some c := by
        refine Collection.update_isSome fun d hd hq => ?_
        have hsame := db'.subscribers.eq_of_id_eq hd (Collection.mem_of_find? hsub)
          ((hquery d hq).trans (Collection.id_of_findId? hsub).symm)
        rw [hsame, harr, hop]
        rfl
      obtain ⟨c, hc⟩ := hsome
      rcases hnot with hnot | hnot
      · rw [hgoes] at hnot
        cases hnot
      · rw [Database.get_subscribers, hc] at hnot
        cases hnot

/-- Counting a view leaves the arrays and the types alone. -/
theorem hasArray_incViews (h : HasArray st u s a db) :
    HasArray st u s a ((attempt (mongoUpdate env .incViews .streams (StoredDoc.hasId s)
      streamViewCountField viewCount_ne_id incOp)).run db).2 := by
  obtain ⟨⟨sdoc, hstream, htype⟩, harray⟩ := h
  rw [run_attempt]
  rcases hw : (mongoUpdate env .incViews .streams (StoredDoc.hasId s) streamViewCountField
    viewCount_ne_id incOp).run db with ⟨o, db'⟩
  rcases writeBack_cases hw with ⟨-, c, hc, rfl, rfl⟩ | ⟨-, rfl, rfl⟩
  · refine ⟨?_, harray⟩
    have hquery : ∀ d : StoredDoc, d.hasId s = true → d.id = .oid s :=
      fun d hd => StoredDoc.hasId_iff.mp hd
    rcases Collection.update_cases hquery hc with ⟨-, rfl⟩ | ⟨d, d', v', hd, -, -, -, hf, hd', -⟩
    · exact ⟨sdoc, hstream, htype⟩
    · obtain rfl : sdoc = d := by simpa [hstream] using hd
      refine ⟨d', hd', ?_⟩
      rw [← htype]
      refine streamType?_of_fields ?_
      rw [hf]
      exact Doc.get?_set_ne _ _ (by decide)
  · exact ⟨⟨sdoc, hstream, htype⟩, harray⟩

variable [Fastotv] {r : SetRequest}

/-- A call on an array that has the stream: the positional update of its field when it sets. -/
theorem hasArray_applySet (hr : r.IsFor u s) (h : HasArray st u s a db) (hany : HasEntryOf s a)
    (hop : setElementOp userStreamIdField s r.call.field r.call.value (some (.array a)) =
      some (.array a')) :
    HasArray st u s (if r.sets then a' else a) (applySet db r) := by
  obtain ⟨env, auth, call⟩ := r
  obtain ⟨huid, hsid⟩ := hr
  unfold applySet SetRequest.action SetRequest.sets
  obtain ⟨db', hrun, hdb'⟩ := run_setUserStreamField huid hsid h hany hop
  cases call <;> dsimp only [SetCall.channel, SetCall.field, SetCall.value] at hrun hdb' ⊢
  case favorite info =>
    cases hv : Fastotv.favoriteValid info with
    | false => simpa [setFavorite, hv, SetCall.isValid] using h
    | true =>
      simp only [setFavorite, hv, SetCall.isValid, Bool.true_and, Bool.not_true, Bool.false_eq_true,
        ite_false]
      rw [run_bind_of_ok hrun]
      exact hdb'
  case recent info =>
    cases hv : Fastotv.recentValid info with
    | false => simpa [setRecent, hv, SetCall.isValid] using h
    | true =>
      simp only [setRecent, hv, SetCall.isValid, Bool.true_and, Bool.not_true, Bool.false_eq_true,
        ite_false]
      rw [run_bind_of_ok hrun]
      exact hasArray_incViews hdb'
  case interrupt info =>
    cases hv : Fastotv.interruptValid info with
    | false => simpa [setInterruptTime, hv, SetCall.isValid] using h
    | true =>
      simp only [setInterruptTime, hv, SetCall.isValid, Bool.true_and, Bool.not_true,
        Bool.false_eq_true,
        ite_false]
      rw [run_bind_of_ok hrun]
      exact hdb'

/-- The last element of the array is an appended entry in which `w` was stored. -/
def HasEntry (st : StreamType) (u s : Oid) (before : List Bson) (w : UserState) (db : Database) :
    Prop :=
  HasArray st u s (before ++ [.document (storedEntry st s w)]) db

variable {before : List Bson} {w : UserState}

omit [Fastotv] in
theorem hasEntryOf_append (before : List Bson) (w : UserState) :
    HasEntryOf s (before ++ [.document (storedEntry st s w)]) :=
  ⟨_, by simp, subMatches_storedEntry st s w⟩

/-- The value of a call is stored by setting its field. -/
theorem set_storedEntry_call (hsets : r.sets = true) :
    Doc.set (storedEntry st s w) r.call.field r.call.value = storedEntry st s (w.set r) := by
  have hentry := fun b t => set_storedEntry st s w b t
  unfold UserState.set
  rw [if_pos hsets]
  cases r.call with
  | favorite info => exact (hentry info.favorite 0).1
  | recent info => exact (hentry false info.timestamp).2.1
  | interrupt info => exact (hentry false info.time).2.2

/-- A call stores its value in the entry when the array has no earlier one of the stream. -/
theorem hasEntry_applySet (hbefore : ¬ HasEntryOf s before) (hr : r.IsFor u s)
    (h : HasEntry st u s before w db) : HasEntry st u s before (w.set r) (applySet db r) := by
  have hno : ∀ e ∈ before, Bson.subMatches userStreamIdField s e = false := by
    intro e he
    rw [Bool.eq_false_iff]
    exact fun hm => hbefore ⟨e, he, hm⟩
  have hset := hasArray_applySet hr h (hasEntryOf_append before w)
    (setElementOp_last hno (subMatches_storedEntry st s w))
  cases hsets : r.sets with
  | false =>
    rw [hsets] at hset
    have hw : w.set r = w := by simp [UserState.set, hsets]
    rw [hw]
    exact hset
  | true =>
    rw [hsets, set_storedEntry_call hsets] at hset
    exact hset

/-- With an earlier entry of the stream, the call goes there. -/
theorem hasEntry_applySet_earlier (hbefore : HasEntryOf s before) (hr : r.IsFor u s)
    (h : HasEntry st u s before w db) :
    ∃ before', HasEntryOf s before' ∧ HasEntry st u s before' w (applySet db r) := by
  obtain ⟨before', hop, hbefore'⟩ := setElementOp_earlier (v := r.call.value)
    (x := .document (storedEntry st s w)) r.call.field_ne_id hbefore
  have hset := hasArray_applySet hr h (hasEntryOf_append before w) hop
  cases hsets : r.sets with
  | false =>
    rw [hsets] at hset
    exact ⟨before, hbefore, hset⟩
  | true =>
    rw [hsets] at hset
    exact ⟨before', hbefore', hset⟩

variable {calls : List SetRequest}

/-- A run of calls leaves the values that were set last in the entry; those it was appended with
when the array has an earlier one. -/
theorem hasEntry_run (hcalls : ∀ r ∈ calls, r.IsFor u s) (h : HasEntry st u s before w db) :
    (¬ HasEntryOf s before →
        HasEntry st u s before (run UserState.set w calls) (run applySet db calls)) ∧
      (HasEntryOf s before →
        ∃ before', HasEntry st u s before' w (run applySet db calls)) := by
  induction calls generalizing before w db with
  | nil => exact ⟨fun _ => h, fun _ => ⟨before, h⟩⟩
  | cons r calls ih =>
    obtain ⟨hr, hcalls⟩ := List.forall_mem_cons.mp hcalls
    constructor
    · intro hbefore
      exact (ih hcalls (hasEntry_applySet hbefore hr h)).1 hbefore
    · intro hbefore
      obtain ⟨before', hbefore', h'⟩ := hasEntry_applySet_earlier hbefore hr h
      exact (ih hcalls h').2 hbefore'

/-! ### Reading back -/

omit [Fastotv] in
/-- Appending puts a new entry, with the initial state, at the end of the array.  What stands before
it has the stream when the query of the setters found the document. -/
theorem hasEntry_addStreamToUserArray {sdoc sub : StoredDoc} {db' : Database}
    (hstream : db.streams.findId? s = some sdoc) (htype : streamType? sdoc.toDoc = some st)
    (hsub : db.subscribers.findId? u = some sub)
    (hadd : (addStreamToUserArray env st u s).run db = (.ok (), db')) :
    ∃ before, HasEntry st u s before {} db' ∧
      (HasEntryOf s before ↔ userHasStream u s (userArrayField st) sub = true) := by
  rw [addStreamToUserArray_eq] at hadd
  have hquery : ∀ d : StoredDoc, d.hasId u = true → d.id = .oid u :=
    fun d hd => StoredDoc.hasId_iff.mp hd
  have hsubId : sub.hasId u = true := StoredDoc.hasId_iff.mpr (Collection.id_of_findId? hsub)
  have hhas : userHasStream u s (userArrayField st) sub =
      Doc.fieldMatches sub.fields (userArrayField st) (Bson.pathMatches userStreamIdField s) := by
    unfold userHasStream Doc.fieldMatches
    rw [hsubId, Bool.true_and, StoredDoc.get?_toDoc (userArrayField_ne_id st)]
  rcases writeBack_cases hadd with ⟨-, c, hc, -, rfl⟩ | ⟨-, hno, -⟩
  · rcases Collection.update_cases hquery hc with ⟨hno, -⟩ | ⟨d, d', v, hd, -, hv, -, hf, hd', -⟩
    · rw [hno sub hsub] at hsubId
      cases hsubId
    · obtain rfl : sub = d := by simpa [hsub] using hd
      have harr : ∀ before, v = .array (before ++ [.document (storedEntry st s {})]) →
          HasEntry st u s before {} (db.set .subscribers c) := by
        rintro before rfl
        exact ⟨⟨sdoc, hstream, htype⟩, d', hd', by rw [hf, Doc.get?_set_self]⟩
      rw [hhas]
      unfold Doc.fieldMatches
      cases hget : sub.fields.get? (userArrayField st) with
      | none =>
        rw [hget] at hv
        refine ⟨[], harr [] (by simpa [pushOp, eq_comm] using hv), by simp [HasEntryOf]⟩
      | some x =>
        rw [hget] at hv
        have hx : ∃ a, x = .array a ∧ v = .array (a ++ [.document (storedEntry st s {})]) := by
          cases x <;> simp only [pushOp, Option.some.injEq, reduceCtorEq] at hv
          exact ⟨_, rfl, hv.symm⟩
        obtain ⟨a, rfl, hv'⟩ := hx
        exact ⟨a, harr a hv', by simp [HasEntryOf, Bson.pathMatches]⟩
  · cases hno

/-- A walk over an array that ends with an appended entry ends with its info, if the stream is
listed at all. -/
theorem walk_storedEntry {α : Type} (D : StreamDecoder α) {uninit : Uninit}
    {shows : Bool → Bool} {sdoc : StoredDoc} {l : List (Bool × α)}
    (hstream : db.streams.findId? s = some sdoc) (htype : streamType? sdoc.toDoc = some st)
    (hwalk : walk (listedInfo db (D.decode uninit) shows)
      (before ++ [.document (storedEntry st s w)]) = .ok l)
    (hmem : ∃ x ∈ l, (D.base x.2).streamId = s.text) :
    ∃ l' scan, l = l' ++ [(false, D.info scan { favorite := w.favorite })] ∧
      scan.sidStr = s.text := by
  obtain ⟨e, -, rec, sdoc', st', scan, hes, hacc, hshows, hid⟩ :=
    (streamId_mem_walk_iff D hwalk s).mp hmem
  obtain ⟨-, oid, -, hfind, hst⟩ := entryStream_eq_some.mp hes
  have hoid : oid = s := by
    have hid' := Collection.id_of_findId? hfind
    rw [hid, Bson.oid.injEq] at hid'
    exact hid'.symm
  subst hoid
  obtain rfl : sdoc = sdoc' := by simpa [hstream] using hfind
  obtain rfl : st = st' := by simpa [htype] using hst
  -- the appended entry stands for the same document
  have hlast : entryStream db (.document (storedEntry st oid w)) =
      some (storedEntry st oid w, sdoc, st) :=
    entryStream_eq_some.mpr ⟨rfl, oid, rfl, hstream, htype⟩
  have hread : readInfo (D.decode uninit) shows db (.document (storedEntry st oid w)) =
      some (false, D.info scan { favorite := w.favorite }) := by
    simp only [readInfo, hlast, Option.bind_eq_bind, Option.bind_some,
      makeUserStreamInfo_storedEntry, StreamDecoder.decode_eq, hacc, Outcome.ok_bind,
      Outcome.pure_eq_ok, Outcome.toOption, hshows, ite_true]
  obtain ⟨hall, rfl⟩ := walk_eq_ok.mp hwalk
  obtain ⟨x, hx⟩ := hall _ (List.mem_append_right _ (List.mem_singleton_self _))
  have hlisted := hx
  rw [← (listedInfo_eq_ok.mp hx).2, hread] at hlisted
  refine ⟨before.filterMap fun e => (listedInfo db (D.decode uninit) shows e).toOption.join,
    scan, ?_, ?_⟩
  · rw [List.filterMap_append, List.filterMap_cons, hlisted]
    rfl
  · obtain ⟨o, ho, htext⟩ := StreamDecoder.streamId_of_accepted (u := {}) hacc
    rw [Collection.id_of_findId? hstream, Bson.oid.injEq] at ho
    rw [ho, ← htext, D.base_info]
    rfl

/-- The public part of a list that ends with the info of an appended entry. -/
theorem map_base_withPrivate {α : Type} (D : StreamDecoder α) (l : List (Bool × α))
    (scan : StreamScan) (v : UserStreamInfo) :
    (withPrivate false (l ++ [(false, D.info scan v)])).map D.base =
      (withPrivate false l).map D.base ++ [scan.base v] := by
  rw [withPrivate, List.filterMap_append, List.map_append]
  simp [D.base_info, withPrivate]

variable {auth : AuthInfo} {c : Catalogue} {sub : StoredDoc}

/-- The appended entry is the last one of the public list, with the favorite that was stored in it
and neither of the times. -/
theorem getLast?_publicList (h : HasEntry st u s before w db)
    (hget : clientGetChannels env db auth = .ok c) (hlogin : findByEmail db auth.login = some sub)
    (hid : sub.id = .oid u)
    (hreported : s.text ∈ (publicList st c).map StreamBaseInfo.streamId) :
    ∃ scan : StreamScan, scan.sidStr = s.text ∧
      (publicList st c).getLast? = some (scan.base { favorite := w.favorite }) := by
  obtain ⟨⟨sdoc, hstream, htype⟩, sub', hsub', harr⟩ := h
  have hsub : db.subscribers.findId? u = some sub :=
    Collection.findId?_of_mem (Collection.mem_of_find? hlogin) hid
  obtain rfl : sub' = sub := by simpa [hsub'] using hsub
  have hfield : arrayField sub'.toDoc (userArrayField st) =
      before ++ [.document (storedEntry st s w)] := by
    unfold arrayField
    rw [StoredDoc.get?_toDoc (userArrayField_ne_id st), harr]
  obtain ⟨-, sub, hsub, chans, vods, catchups, series, requests, hc, hv, hca, -, -, rfl⟩ :=
    clientGetChannels_eq_ok.mp hget
  obtain rfl : sub' = sub := by simpa [hlogin] using hsub
  have hmem : ∀ {α : Type} (base : α → StreamBaseInfo) (l : List (Bool × α)),
      s.text ∈ ((withPrivate false l).map base).map StreamBaseInfo.streamId →
        ∃ x ∈ l, (base x.2).streamId = s.text := by
    intro α base l hl
    simp only [List.map_map, List.mem_map, Function.comp_apply, mem_withPrivate] at hl
    obtain ⟨x, hx, hxs⟩ := hl
    exact ⟨_, hx, hxs⟩
  unfold publicList at hreported ⊢
  unfold userArrayField at hfield
  -- the type selects the array and the list alike
  split_ifs at hreported hfield ⊢ with hvod hcatchup
  · rw [hfield] at hv
    obtain ⟨l', scan, rfl, hscan⟩ := walk_storedEntry vodDecoder hstream htype hv
      (hmem VodInfo.toStreamBaseInfo vods hreported)
    refine ⟨scan, hscan, ?_⟩
    rw [show (fun x : VodInfo => x.toStreamBaseInfo) = vodDecoder.base from rfl,
      map_base_withPrivate, List.getLast?_concat]
  · rw [hfield] at hca
    have hlist : ∃ x ∈ catchups, (catchupDecoder.base x.2).streamId = s.text := by
      simpa [catchupDecoder, List.mem_map] using hreported
    obtain ⟨l', scan, rfl, hscan⟩ := walk_storedEntry catchupDecoder hstream htype hca hlist
    refine ⟨scan, hscan, ?_⟩
    rw [List.map_append, List.map_append]
    exact List.getLast?_concat
  · rw [hfield] at hc
    obtain ⟨l', scan, rfl, hscan⟩ := walk_storedEntry channelDecoder hstream htype hc
      (hmem ChannelInfo.toStreamBaseInfo chans hreported)
    refine ⟨scan, hscan, ?_⟩
    rw [show (fun x : ChannelInfo => x.toStreamBaseInfo) = channelDecoder.base from rfl,
      map_base_withPrivate, List.getLast?_concat]

/-- The state that an info reports. -/
def StreamBaseInfo.state (info : StreamBaseInfo) : UserState :=
  ⟨info.favorite, info.recent, info.interruptionTime⟩

/-- After an entry was appended and any calls were made for it, the catalogue reports what was set
last if and only if no time was set, and no favorite where the array had the stream before. -/
theorem user_state_reported_iff (env env' : Env) (db db' : Database) (st : StreamType) (u s : Oid)
    (sdoc sub sub' : StoredDoc) (calls : List SetRequest) (auth : AuthInfo) (c : Catalogue)
    (hstream : db.streams.findId? s = some sdoc) (htype : streamType? sdoc.toDoc = some st)
    (hsub : db.subscribers.findId? u = some sub)
    (hadd : (addStreamToUserArray env st u s).run db = (.ok (), db'))
    (hcalls : ∀ r ∈ calls, r.IsFor u s)
    (hget : clientGetChannels env' (run applySet db' calls) auth = .ok c)
    (hlogin : findByEmail (run applySet db' calls) auth.login = some sub')
    (hid : sub'.id = .oid u)
    (hreported : s.text ∈ (publicList st c).map StreamBaseInfo.streamId) :
    ∃ info, (publicList st c).getLast? = some info ∧ info.streamId = s.text ∧
      (info.state = lastSet calls ↔
        (lastSet calls).recent = 0 ∧ (lastSet calls).interruptionTime = 0 ∧
          (userHasStream u s (userArrayField st) sub = true →
            (lastSet calls).favorite = false)) := by
  obtain ⟨before, hentry, hbefore⟩ := hasEntry_addStreamToUserArray hstream htype hsub hadd
  obtain ⟨hfirst, hearlier⟩ := hasEntry_run hcalls hentry
  have hstate : ∀ (scan : StreamScan) (b : Bool),
      (scan.base { favorite := b }).state = lastSet calls ↔
        b = (lastSet calls).favorite ∧ 0 = (lastSet calls).recent ∧
          0 = (lastSet calls).interruptionTime := by
    intro scan b
    cases lastSet calls
    simp [StreamBaseInfo.state, StreamScan.base, streamBaseInfo]
  cases hhas : userHasStream u s (userArrayField st) sub with
  | false =>
    rw [hhas, Bool.false_eq_true, iff_false] at hbefore
    obtain ⟨scan, hsid, hlast⟩ :=
      getLast?_publicList (hfirst hbefore) hget hlogin hid hreported
    refine ⟨_, hlast, hsid, (hstate scan _).trans ⟨?_, ?_⟩⟩
    · rintro ⟨-, hr, hi⟩
      exact ⟨hr.symm, hi.symm, fun h => absurd h Bool.false_ne_true⟩
    · rintro ⟨hr, hi, -⟩
      exact ⟨rfl, hr.symm, hi.symm⟩
  | true =>
    obtain ⟨before', hentry'⟩ := hearlier (hbefore.mpr hhas)
    obtain ⟨scan, hsid, hlast⟩ := getLast?_publicList hentry' hget hlogin hid hreported
    refine ⟨_, hlast, hsid, (hstate scan _).trans ⟨?_, ?_⟩⟩
    · rintro ⟨hf, hr, hi⟩
      exact ⟨hr.symm, hi.symm, fun _ => hf.symm⟩
    · rintro ⟨hr, hi, hf⟩
      exact ⟨(hf rfl).symm, hr.symm, hi.symm⟩

end

/-! A subscriber who watches a channel. -/

namespace Sample

def newSubscriber : StoredDoc := subscriber userStreamsField userStreams_ne_id []

def newDatabase : Database :=
  database newSubscriber [channelDoc (oid 2) relayStr true] nodup_channelDoc

def watchedCall : SetRequest := ⟨env, login, .recent ⟨(oid 2).text, 5⟩⟩

/-- After the channel was added. -/
def addedDatabase : Database :=
  ((addStreamToUserArray env .relay (oid 1) (oid 2)).run newDatabase).2

/-- After it was also watched. -/
def watchedDatabase : Database := run applySet addedDatabase [watchedCall]

def watchedSubscriber : StoredDoc :=
  subscriber userStreamsField userStreams_ne_id
    [storedEntry .relay (oid 2) { recent := 5 }]

end Sample

open Sample in
/-- The time was set to 5, the catalogue says 0. -/
theorem user_state_not_reported :
    (addStreamToUserArray env .relay (oid 1) (oid 2)).run newDatabase = (.ok (), addedDatabase) ∧
      watchedCall.IsFor (oid 1) (oid 2) ∧
      (clientGetChannels env watchedDatabase auth).toOption.map
          (fun c => (publicList .relay c).map fun info => (info.streamId, info.state)) =
        some [((oid 2).text, {})] ∧
      lastSet [watchedCall] = { recent := 5 } := by
  refine ⟨rfl, ?_, by decide, by decide⟩
  exact ⟨convertFromString_text _ _, convertFromString_text _ _⟩

open Sample in
theorem user_state_reported_iff_sample :
    ∃ info, (publicList .relay (shownCatalogue watchedDatabase)).getLast? = some info ∧
      info.streamId = (oid 2).text ∧
      (info.state = lastSet [watchedCall] ↔
        (lastSet [watchedCall]).recent = 0 ∧ (lastSet [watchedCall]).interruptionTime = 0 ∧
          (userHasStream (oid 1) (oid 2) (userArrayField .relay) newSubscriber = true →
            (lastSet [watchedCall]).favorite = false)) := by
  have hcalls : ∀ r ∈ [watchedCall], r.IsFor (oid 1) (oid 2) := by
    simp only [List.mem_singleton, forall_eq]
    exact ⟨convertFromString_text _ _, convertFromString_text _ _⟩
  exact user_state_reported_iff env env newDatabase addedDatabase .relay (oid 1) (oid 2)
    (channelDoc (oid 2) relayStr true) newSubscriber watchedSubscriber [watchedCall] auth _
    rfl (by decide) rfl rfl hcalls (by decide) rfl rfl (by decide)

end LoadBalance
