import LoadBalance.Mongo.Equiv.ClientGetChannels
import LoadBalance.Mongo.Equiv.UserState

/-!
# Entries that are added and removed

For each of the three arrays of a subscriber there are two functions, one that appends the entry of
a stream and one that takes the entries of a stream out.  They are meant to undo each other
(`PairLaw`), and do so where the appended entry is that of the stream: `AddUserStream` hands the id
of the subscriber on in its place (`pair_law_iff`). -/

namespace LoadBalance

open LoadBalance.Action

/-! ### The three pairs -/

inductive UserArray where
  | streams
  | vods
  | catchups
deriving DecidableEq

namespace UserArray

def field : UserArray → String
  | streams => userStreamsField
  | vods => userVodsField
  | catchups => userCatchupsField

/-- The fields of an appended entry. -/
def entry : UserArray → Oid → Doc
  | streams => userStreamEntry
  | vods => userStreamEntry
  | catchups => userCatchupEntry

theorem field_ne_id (arr : UserArray) : arr.field ≠ idField := by
  cases arr <;> decide

/-- The id that the entry is made with: that of the subscriber for a stream. -/
def added (arr : UserArray) (user sid : Oid) : Oid := match arr with
  | streams => user
  | _ => sid

theorem sid_entry (arr : UserArray) (o : Oid) :
    Doc.get? (arr.entry o) userStreamIdField = some (.oid o) := by
  cases arr <;> rfl

variable [Fastotv]

def add (arr : UserArray) (env : Env) (auth : ServerDBAuthInfo) (sid : StreamId) :
    Action Database Error Unit := match arr with
  | streams => addUserStream env auth sid
  | vods => addUserVod env auth sid
  | catchups => addUserCatchup env auth sid

def remove (arr : UserArray) (env : Env) (auth : ServerDBAuthInfo) (sid : StreamId) :
    Action Database Error Unit := match arr with
  | streams => removeUserStream env auth sid
  | vods => removeUserVod env auth sid
  | catchups => removeUserCatchup env auth sid

end UserArray

/-- The text is read as this object id, whatever stands in memory behind it. -/
def ReadAs (text : String) (o : Oid) : Prop := ∀ beyond, convertFromString beyond text = some o

/-- So is every text of 24 bytes. -/
theorem readAs_of_length {text : String} (h : (utf8Bytes text).length = 24) :
    ReadAs text (Oid.parse (fun _ => 0) text) := by
  intro beyond
  have hne : text ≠ "" := by
    rintro rfl
    exact absurd h (by decide)
  unfold convertFromString
  rw [if_neg hne, Option.some.injEq, Oid.mk.injEq]
  show List.ofFn _ = List.ofFn _
  refine congrArg List.ofFn (funext fun i => ?_)
  have hi : (i : ℕ) < (utf8Bytes text ++ [0]).length := by
    rw [List.length_append, List.length_singleton]
    omega
  unfold byteAt
  rw [List.getD_eq_getElem _ _ hi, List.getD_eq_getElem _ _ hi]

theorem readAs_text (o : Oid) : ReadAs o.text o := fun beyond => convertFromString_text beyond o

/-! ### One field of one subscriber -/

/-- Nothing in any collection is different but one field of the subscriber, which has this value
afterwards. -/
structure OnlyField (user : Oid) (k : String) (v : Bson) (db db' : Database) : Prop where
  subscribers : ∃ as d d' bs, db.subscribers.docs = as ++ d :: bs ∧
    db'.subscribers.docs = as ++ d' :: bs ∧ d.id = .oid user ∧ d'.id = d.id ∧
    d'.fields = d.fields.set k v
  others : db' = { db with subscribers := db'.subscribers }

namespace OnlyField

variable {user : Oid} {k : String} {v w : Bson} {db db₁ db₂ : Database}

/-- A write to the subscriber with an id, by the field that it changes. -/
theorem of_update {c : Collection} {q : StoredDoc → Bool} {hk : k ≠ idField}
    {g : Option Bson → Option Bson} {sub : StoredDoc} (hq : ∀ d, q d = true → d.hasId user = true)
    (hsub : db.subscribers.findId? user = some sub) (hqsub : q sub = true)
    (h : db.subscribers.update q k hk g = some c) :
    ∃ v, g (sub.fields.get? k) = some v ∧ OnlyField user k v db (db.set .subscribers c) := by
  rw [Collection.update_eq_some] at h
  rcases modifyFirst_cases h with ⟨hno, -⟩ | ⟨as, d, d', bs, hdocs, -, hqd, hupd, hdocs'⟩
  · rw [hno sub (Collection.mem_of_find? hsub)] at hqsub
    cases hqsub
  · obtain ⟨v, hv, hid, hfields⟩ := StoredDoc.updateField_eq_some.mp hupd
    have hduser : d.id = .oid user := StoredDoc.hasId_iff.mp (hq d hqd)
    have hmem : d ∈ db.subscribers.docs := by simp [hdocs]
    have hsame : some sub = some d := hsub.symm.trans (Collection.findId?_of_mem hmem hduser)
    obtain rfl := Option.some.inj hsame
    exact ⟨v, hv, ⟨as, sub, d', bs, hdocs, hdocs', hduser, hid, hfields⟩, rfl⟩

/-- The subscriber afterwards. -/
theorem findId? (h : OnlyField user k v db db₁) :
    ∃ d d', db.subscribers.findId? user = some d ∧ db₁.subscribers.findId? user = some d' ∧
      d'.fields = d.fields.set k v := by
  obtain ⟨as, d, d', bs, hdocs, hdocs', hid, hid', hfields⟩ := h.subscribers
  exact ⟨d, d', Collection.findId?_of_mem (by simp [hdocs]) hid,
    Collection.findId?_of_mem (by simp [hdocs']) (hid'.trans hid), hfields⟩

theorem fields {sub : StoredDoc} (hsub : db.subscribers.findId? user = some sub)
    (h : OnlyField user k v db db₁) :
    ∃ d', db₁.subscribers.findId? user = some d' ∧ d'.fields = sub.fields.set k v := by
  obtain ⟨d, d', hd, hd', hfields⟩ := h.findId?
  obtain rfl := Option.some.inj (hsub.symm.trans hd)
  exact ⟨d', hd', hfields⟩

/-- Only the last value of a field remains. -/
theorem trans (h : OnlyField user k v db db₁) (h' : OnlyField user k w db₁ db₂) :
    OnlyField user k w db db₂ := by
  obtain ⟨as, d, d', bs, hdocs, hdocs', hid, hid', hfields⟩ := h.subscribers
  obtain ⟨as', e, e', bs', hdocs₁, hdocs₂, hide, hide', hfields'⟩ := h'.subscribers
  -- Both changes are of the document with this id.
  have hmemd : d' ∈ db₁.subscribers.docs := by simp [hdocs']
  have hmeme : e ∈ db₁.subscribers.docs := by simp [hdocs₁]
  have hsame : d' = e :=
    db₁.subscribers.eq_of_id_eq hmemd hmeme ((hid'.trans hid).trans hide.symm)
  subst hsame
  have hnodup := db₁.subscribers.ids_nodup
  have hnot : d' ∉ as ∧ d' ∉ bs := by
    rw [hdocs', List.map_append, List.map_cons, List.nodup_middle, List.nodup_cons] at hnodup
    have hboth := hnodup.1
    rw [List.mem_append, not_or] at hboth
    exact ⟨fun hmem => hboth.1 (List.mem_map_of_mem hmem),
      fun hmem => hboth.2 (List.mem_map_of_mem hmem)⟩
  have heq : as ++ d' :: bs = as' ++ d' :: bs' := hdocs'.symm.trans hdocs₁
  obtain ⟨rfl, -, rfl⟩ := (List.append_cons_inj_of_notMem hnot.1 hnot.2).mp heq
  refine ⟨⟨as, d, e', bs, hdocs, hdocs₂, hid, hide'.trans hid', ?_⟩, ?_⟩
  · rw [hfields', hfields, Doc.set_set]
  · rw [h'.others, h.others]

/-- A field that has its value again. -/
theorem eq_of_get? {sub : StoredDoc} (hsub : db.subscribers.findId? user = some sub)
    (hv : sub.fields.get? k = some v) (h : OnlyField user k v db db₁) : db₁ = db := by
  obtain ⟨as, d, d', bs, hdocs, hdocs', hid, hid', hfields⟩ := h.subscribers
  have hd : db.subscribers.findId? user = some d :=
    Collection.findId?_of_mem (by simp [hdocs]) hid
  obtain rfl := Option.some.inj (hsub.symm.trans hd)
  rw [Doc.set_of_get? hv] at hfields
  have hsame : d' = sub := by
    cases d'
    cases sub
    simp only at hid' hfields
    subst hid' hfields
    rfl
  have hc : db₁.subscribers = db.subscribers := Collection.ext (by rw [hdocs', hdocs, hsame])
  rw [h.others, hc]

end OnlyField

/-! ### What a pair does -/

section

variable [Fastotv] {env env' : Env} {auth : ServerDBAuthInfo} {sid : StreamId} {user o : Oid}
  {db db' : Database} {sub : StoredDoc}

/-- The laws of a pair for a subscriber and a stream id, of which a successful call of the appending
function made `db₁` from `db`. -/
structure PairLaw (arr : UserArray) (auth : ServerDBAuthInfo) (sid : StreamId) (user o : Oid)
    (db db₁ : Database) : Prop where
  /-- One entry of the stream comes to the end of the array. -/
  adds : ∃ rec, Doc.get? rec userStreamIdField = some (.oid o) ∧
    ∀ sub, db.subscribers.findId? user = some sub →
      OnlyField user arr.field (.array (arrayField sub.fields arr.field ++ [.document rec])) db db₁
  /-- From any database, the entries of the stream are taken out of the array, if there is one. -/
  removes : ∀ env db₂ db₃ sub, db₂.subscribers.findId? user = some sub →
    (arr.remove env auth sid).run db₂ = (.ok (), db₃) →
    (sub.fields.get? arr.field = none ∧ db₃ = db₂) ∨
      ∃ a, sub.fields.get? arr.field = some (.array a) ∧
        OnlyField user arr.field
          (.array (a.filter fun e => !e.subMatches userStreamIdField o)) db₂ db₃
  /-- Where the array was there and did not have the stream, all is as before. -/
  restores : ∀ env db₂ sub a, db.subscribers.findId? user = some sub →
    sub.fields.get? arr.field = some (.array a) →
    (∀ e ∈ a, e.subMatches userStreamIdField o = false) →
    (arr.remove env auth sid).run db₁ = (.ok (), db₂) → db₂ = db
  /-- Where there was no array, the appending function made one, and it is left empty. -/
  leavesEmpty : ∀ env db₂ sub, db.subscribers.findId? user = some sub →
    sub.fields.get? arr.field = none → (arr.remove env auth sid).run db₁ = (.ok (), db₂) →
    OnlyField user arr.field (.array []) db db₂
  /-- A catchup that was taken out is not listed. -/
  disappears : arr = .catchups → ∀ env env' db₂ db₃ login sub catalogue,
    (db₂.subscribers.findId? user).isSome → (arr.remove env auth sid).run db₂ = (.ok (), db₃) →
    clientGetChannels env' db₃ login = .ok catalogue →
    findByEmail db₃ login.login = some sub → sub.id = .oid user →
    ∀ info ∈ catalogue.catchups, info.streamId ≠ o.text

/-- The pair gets the ids that the texts of the call are read as. -/
theorem run_withUserAndStream {f : Oid → Oid → Action Database Error Unit}
    (huser : ReadAs auth.uid user) (ho : ReadAs sid o)
    (h : (withUserAndStream env auth sid f).run db = (.ok (), db')) :
    (f user o).run db = (.ok (), db') := by
  unfold withUserAndStream at h
  split_ifs at h
  · cases h
  · rw [huser env.beyond, ho env.beyond, run_bind_of_ok (run_orFail_some _ _ _),
      run_bind_of_ok (run_orFail_some _ _ _)] at h
    exact h

/-- A successful call of the appending function puts the entry of the id it is made with behind the
others. -/
theorem onlyField_add {arr : UserArray} (huser : ReadAs auth.uid user) (ho : ReadAs sid o)
    (hsub : db.subscribers.findId? user = some sub)
    (h : (arr.add env auth sid).run db = (.ok (), db')) :
    OnlyField user arr.field (.array (arrayField sub.fields arr.field ++
      [.document (arr.entry (arr.added user o))])) db db' := by
  have hpush : (mongoUpdate env .pushEntry .subscribers (StoredDoc.hasId user) arr.field
      arr.field_ne_id (pushOp (.document (arr.entry (arr.added user o))))).run db =
        (.ok (), db') := by
    cases arr with
    | streams => exact run_withUserAndStream huser ho h
    | vods => exact run_withUserAndStream huser ho h
    | catchups => exact run_withUserAndStream huser ho h
  have hid : sub.hasId user = true := StoredDoc.hasId_iff.mpr (Collection.id_of_findId? hsub)
  rcases writeBack_cases hpush with ⟨-, c, hc, -, rfl⟩ | ⟨-, hno, -⟩
  · obtain ⟨v, hv, honly⟩ := OnlyField.of_update (fun _ hd => hd) hsub hid hc
    unfold arrayField
    cases hget : sub.fields.get? arr.field with
    | none =>
      rw [hget] at hv
      obtain rfl := Option.some.inj hv
      exact honly
    | some w =>
      rw [hget] at hv
      cases w with
      | array a =>
        obtain rfl := Option.some.inj hv
        exact honly
      | _ => cases hv
  · cases hno

/-- A successful call of the removing function takes the entries of the stream out. -/
theorem onlyField_remove {arr : UserArray} (huser : ReadAs auth.uid user) (ho : ReadAs sid o)
    (hsub : db.subscribers.findId? user = some sub)
    (h : (arr.remove env auth sid).run db = (.ok (), db')) :
    (sub.fields.get? arr.field = none ∧ db' = db) ∨
      ∃ a, sub.fields.get? arr.field = some (.array a) ∧
        OnlyField user arr.field
          (.array (a.filter fun e => !e.subMatches userStreamIdField o)) db db' := by
  have hpull : (pullUserStream env user o arr.field arr.field_ne_id).run db = (.ok (), db') := by
    cases arr with
    | streams => exact run_withUserAndStream huser ho h
    | vods => exact run_withUserAndStream huser ho h
    | catchups => exact run_withUserAndStream huser ho h
  have hid : sub.hasId user = true := StoredDoc.hasId_iff.mpr (Collection.id_of_findId? hsub)
  have hquery : ∀ d : StoredDoc, (d.hasId user && (d.fields.get? arr.field).isSome) = true →
      d.hasId user = true := fun d hd => (Bool.and_eq_true _ _ ▸ hd).1
  unfold pullUserStream at hpull
  rcases writeBack_cases hpull with ⟨-, c, hc, -, rfl⟩ | ⟨-, hno, -⟩
  · cases hget : sub.fields.get? arr.field with
    | none =>
      -- The query finds no document.
      rcases Collection.update_cases (fun d hd => StoredDoc.hasId_iff.mp (hquery d hd)) hc with
        ⟨-, rfl⟩ | ⟨d, -, -, hd, hq, -⟩
      · exact Or.inl ⟨rfl, rfl⟩
      · obtain rfl := Option.some.inj (hsub.symm.trans hd)
        rw [hget, Option.isSome_none, Bool.and_false] at hq
        cases hq
    | some w =>
      obtain ⟨v, hv, honly⟩ := OnlyField.of_update hquery hsub
        (by rw [hid, hget]; rfl) hc
      rw [hget] at hv
      cases w with
      | array a =>
        obtain rfl := Option.some.inj hv
        exact Or.inr ⟨a, rfl, honly⟩
      | _ => cases hv
  · cases hno

/-- When the entry that was appended is the only one of the stream, it is the one that is taken out
again. -/
theorem onlyField_remove_of_added {arr : UserArray} {db₁ : Database} {a : List Bson}
    (huser : ReadAs auth.uid user) (ho : ReadAs sid o)
    (hsub : db.subscribers.findId? user = some sub)
    (honly : OnlyField user arr.field (.array (a ++ [.document (arr.entry o)])) db db₁)
    (hno : ∀ e ∈ a, e.subMatches userStreamIdField o = false)
    (h : (arr.remove env auth sid).run db₁ = (.ok (), db')) :
    OnlyField user arr.field (.array a) db db' := by
  obtain ⟨d, hd, hfields⟩ := honly.fields hsub
  rcases onlyField_remove huser ho hd h with ⟨hnone, -⟩ | ⟨a', ha', honly'⟩
  · rw [hfields, Doc.get?_set_self] at hnone
    cases hnone
  · rw [hfields, Doc.get?_set_self, Option.some.injEq, Bson.array.injEq] at ha'
    have hkept : a.filter (fun e => !e.subMatches userStreamIdField o) = a :=
      List.filter_eq_self.mpr fun e he => by rw [hno e he]; rfl
    have hentry : Bson.subMatches userStreamIdField o (.document (arr.entry o)) = true := by
      unfold Bson.subMatches Doc.fieldMatches
      dsimp only
      rw [arr.sid_entry]
      exact decide_eq_true rfl
    rw [← ha', List.filter_append, hkept, List.filter_cons_of_neg (by rw [hentry]; decide),
      List.filter_nil, List.append_nil] at honly'
    exact honly.trans honly'

/-- The catchups that are listed are entries of the array. -/
theorem not_listed_of_filter {login : AuthInfo} {catalogue : Catalogue}
    (hget : clientGetChannels env' db login = .ok catalogue)
    (hlogin : findByEmail db login.login = some sub)
    (hno : ∀ e ∈ arrayField sub.toDoc userCatchupsField,
      e.subMatches userStreamIdField o = false) :
    ∀ info ∈ catalogue.catchups, info.streamId ≠ o.text := by
  intro info hinfo hid
  obtain ⟨-, sub', hsub', chans, vods, catchups, series, requests, -, -, hca, -, -, rfl⟩ :=
    clientGetChannels_eq_ok.mp hget
  obtain rfl := Option.some.inj (hlogin.symm.trans hsub')
  obtain ⟨x, hx, rfl⟩ := List.mem_map.mp hinfo
  obtain ⟨e, he, rec, sdoc, st, -, hes, -, -, hsdoc⟩ :=
    (streamId_mem_walk_iff catchupDecoder hca o).mp ⟨x, hx, hid⟩
  obtain ⟨rfl, oid, hoid, hfind, -⟩ := entryStream_eq_some.mp hes
  rw [Collection.id_of_findId? hfind, Bson.oid.injEq] at hsdoc
  subst hsdoc
  have hmatch := hno _ he
  unfold Bson.subMatches Doc.fieldMatches at hmatch
  dsimp only at hmatch
  rw [hoid] at hmatch
  exact absurd hmatch (by simp [Bson.matchesOid])

/-- After a removal no entry of the stream is left. -/
theorem no_entry_of_remove {arr : UserArray} (huser : ReadAs auth.uid user) (ho : ReadAs sid o)
    (hsome : (db.subscribers.findId? user).isSome)
    (h : (arr.remove env auth sid).run db = (.ok (), db'))
    (hsub : db'.subscribers.findId? user = some sub) :
    ∀ e ∈ arrayField sub.toDoc arr.field, e.subMatches userStreamIdField o = false := by
  obtain ⟨sub₀, hsub₀⟩ := Option.isSome_iff_exists.mp hsome
  unfold arrayField
  rw [StoredDoc.get?_toDoc arr.field_ne_id]
  rcases onlyField_remove huser ho hsub₀ h with ⟨hnone, rfl⟩ | ⟨a, -, honly⟩
  · obtain rfl := Option.some.inj (hsub₀.symm.trans hsub)
    rw [hnone]
    exact fun e he => absurd he List.not_mem_nil
  · obtain ⟨d', hd', hfields⟩ := honly.fields hsub₀
    obtain rfl := Option.some.inj (hd'.symm.trans hsub)
    rw [hfields, Doc.get?_set_self]
    intro e he
    have hmatch := (List.mem_filter.mp he).2
    rwa [Bool.not_eq_true'] at hmatch

/-- Under the laws the last entry of the array is one of the stream. -/
theorem PairLaw.sid_last {arr : UserArray} {db₁ : Database} {d : StoredDoc}
    (hlaw : PairLaw arr auth sid user o db db₁) (l : List Bson) (rec : Doc)
    (hsub : db.subscribers.findId? user = some sub) (hd : db₁.subscribers.findId? user = some d)
    (harray : d.fields.get? arr.field = some (.array (l ++ [.document rec]))) :
    Doc.get? rec userStreamIdField = some (.oid o) := by
  obtain ⟨rec', hrec', hadds⟩ := hlaw.adds
  obtain ⟨d', hd', hfields⟩ := (hadds sub hsub).fields hsub
  obtain rfl := Option.some.inj (hd.symm.trans hd')
  rw [hfields, Doc.get?_set_self, Option.some.injEq, Bson.array.injEq] at harray
  obtain ⟨-, hlast⟩ := List.append_inj' harray rfl
  obtain rfl := Bson.document.inj (List.head_eq_of_cons_eq hlast)
  exact hrec'

/-- The pairs of the VODs and of the catchups have the laws, and that of the streams has them only
for the id of the subscriber. -/
theorem pair_law_iff (arr : UserArray) (env : Env) (auth : ServerDBAuthInfo) (sid : StreamId)
    (user o : Oid) (db db₁ : Database) (sub : StoredDoc) (huser : ReadAs auth.uid user)
    (ho : ReadAs sid o) (hsub : db.subscribers.findId? user = some sub)
    (hadd : (arr.add env auth sid).run db = (.ok (), db₁)) :
    PairLaw arr auth sid user o db db₁ ↔ (arr = .streams → o = user) := by
  have honly := onlyField_add huser ho hsub hadd
  constructor
  · rintro hlaw rfl
    obtain ⟨d, hd, hfields⟩ := honly.fields hsub
    have hrec := hlaw.sid_last _ _ hsub hd (by rw [hfields, Doc.get?_set_self])
    rw [UserArray.sid_entry, Option.some.injEq, Bson.oid.injEq] at hrec
    exact hrec.symm
  · intro hstreams
    have hadded : arr.added user o = o := by
      cases arr with
      | streams => exact (hstreams rfl).symm
      | vods => rfl
      | catchups => rfl
    rw [hadded] at honly
    refine ⟨⟨arr.entry o, arr.sid_entry o, ?_⟩, ?_, ?_, ?_, ?_⟩
    · intro sub' hsub'
      obtain rfl := Option.some.inj (hsub.symm.trans hsub')
      exact honly
    · exact fun env db₂ db₃ sub hsub hremove => onlyField_remove huser ho hsub hremove
    · intro env db₂ sub' a hsub' harray hno hremove
      obtain rfl := Option.some.inj (hsub.symm.trans hsub')
      have hold : arrayField sub.fields arr.field = a := by
        unfold arrayField
        rw [harray]
      rw [hold] at honly
      exact (onlyField_remove_of_added huser ho hsub honly hno hremove).eq_of_get? hsub harray
    · intro env db₂ sub' hsub' hnone hremove
      obtain rfl := Option.some.inj (hsub.symm.trans hsub')
      have hold : arrayField sub.fields arr.field = [] := by
        unfold arrayField
        rw [hnone]
      rw [hold] at honly
      exact onlyField_remove_of_added huser ho hsub honly (List.forall_mem_nil _) hremove
    · rintro rfl env env' db₂ db₃ login sub' catalogue hsome hremove hget hlogin hid
      have hsub' := Collection.findId?_of_mem (Collection.mem_of_find? hlogin) hid
      exact not_listed_of_filter hget hlogin (no_entry_of_remove huser ho hsome hremove hsub')

end

/-! A subscriber that is given a channel. -/

namespace Sample

def channelless : StoredDoc := subscriber userStreamsField userStreams_ne_id []

def channellessDatabase : Database :=
  database channelless [channelDoc (oid 2) relayStr true] nodup_channelDoc

/-- After a stream was added to this array. -/
def afterAdd (arr : UserArray) : Database :=
  ((arr.add env login (oid 2).text).run channellessDatabase).2

end Sample

open Sample in
/-- The appended entry has the id of the subscriber. -/
theorem added_under_user_id :
    (UserArray.streams.add env login (oid 2).text).run channellessDatabase =
        (.ok (), afterAdd .streams) ∧
      ((afterAdd .streams).subscribers.findId? (oid 1)).map
          (fun sub => arrayField sub.fields userStreamsField) =
        some [.document (userStreamEntry (oid 1))] ∧
      ¬PairLaw .streams login (oid 2).text (oid 1) (oid 2) channellessDatabase
        (afterAdd .streams) := by
  refine ⟨rfl, rfl, fun hlaw => ?_⟩
  have hsid := hlaw.sid_last [] (userStreamEntry (oid 1)) rfl rfl rfl
  exact absurd (Bson.oid.inj (Option.some.inj hsid)) (by decide)

open Sample in
theorem pair_law_iff_sample :
    PairLaw .vods login (oid 2).text (oid 1) (oid 2) channellessDatabase (afterAdd .vods) ↔
      (UserArray.vods = .streams → oid 2 = oid 1) :=
  pair_law_iff .vods env login (oid 2).text (oid 1) (oid 2) channellessDatabase (afterAdd .vods)
    channelless (readAs_text _) (readAs_text _) rfl rfl

end LoadBalance
