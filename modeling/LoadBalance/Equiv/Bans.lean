import LoadBalance.Equiv.Login
import LoadBalance.Library.Transition
import LoadBalance.Mongo.Equiv.Catchup

/-!
# Bans and logins

A login finds the document of its subscriber in one step, and decides and writes the status of the
device in a later one; in between somebody else may ban the device (`Bans`).  The write looks for
the email and the device only.  So bans hold along a run exactly when no login overwrites a status
other than the one that it read, or the one that it writes (`bans_hold_iff`). -/

namespace LoadBalance

open LoadBalance.Action

/-! ### The statuses of the devices -/

/-- The status that stands at a place of the devices. -/
def StoredDoc.deviceStatusAt (d : StoredDoc) (i : ℕ) : Option Int32 :=
  (arrayField? d.toDoc devicesField).bind fun devices => devices[i]?.bind deviceStatus?

namespace Collection

/-- The device at this place of the document with this id has this status. -/
def HasStatus (c : Collection) (id : Bson) (i : ℕ) (status : Option Int32) : Prop :=
  ∃ d ∈ c.docs, d.id = id ∧ d.deviceStatusAt i = status

/-- The device that `devices.$` stands for, when the query is for a document with the object id
among its devices. -/
def Hits (c : Collection) (q : StoredDoc → Bool) (oid : Oid) (id : Bson) (i : ℕ) : Prop :=
  ∃ d devices, c.find? q = some d ∧ d.id = id ∧ arrayField? d.toDoc devicesField = some devices ∧
    devices.findIdx? (Bson.subMatches deviceIdField oid) = some i

/-- `devices.$.status` of the first document that satisfies the query. -/
def setDeviceStatus (c : Collection) (q : StoredDoc → Bool) (oid : Oid) (status : Int32) :
    Option Collection :=
  c.update q devicesField devices_ne_id
    (setElementOp deviceIdField oid deviceStatusField (.int32 status))

theorem HasStatus.unique' {c : Collection} {id : Bson} {i : ℕ} {status : Option Int32}
    (h : c.HasStatus id i status) {d : StoredDoc} (hd : d ∈ c.docs) (hid : d.id = id) :
    d.deviceStatusAt i = status := by
  obtain ⟨d', hd', hid', rfl⟩ := h
  rw [eq_of_id_eq c hd hd' (hid.trans hid'.symm)]

theorem HasStatus.unique {c : Collection} {id : Bson} {i : ℕ} {status status' : Option Int32}
    (h : c.HasStatus id i status) (h' : c.HasStatus id i status') : status = status' := by
  obtain ⟨d, hd, hid, rfl⟩ := h
  obtain ⟨d', hd', hid', rfl⟩ := h'
  rw [eq_of_id_eq c hd hd' (hid.trans hid'.symm)]

end Collection

/-- The array of the devices after `devices.$.status` was set. -/
theorem setElementOp_eq_some {oid : Oid} {status : Int32} {old : Option Bson} {new : Bson}
    (h : setElementOp deviceIdField oid deviceStatusField (.int32 status) old = some new) :
    ∃ devices devices', old = some (.array devices) ∧ new = .array devices' ∧
      ((devices.findIdx? (Bson.subMatches deviceIdField oid) = none ∧ devices' = devices) ∨
        ∃ i e e', devices.findIdx? (Bson.subMatches deviceIdField oid) = some i ∧
          deviceStatus? e' = some status ∧ devices[i]? = some e ∧ devices' = devices.set i e') := by
  cases old with
  | none => cases h
  | some old =>
    cases old with
    | array devices =>
      obtain ⟨devices', hdevices, rfl⟩ := Option.map_eq_some_iff.mp h
      refine ⟨devices, devices', rfl, rfl, ?_⟩
      rcases modifyFirst_eq_set hdevices with hno | ⟨i, e, e', hi, he, hf, rfl⟩
      · exact Or.inl hno
      · refine Or.inr ⟨i, e, e', hi, ?_, he, rfl⟩
        cases e with
        | document d =>
          obtain rfl := Option.some.inj hf
          unfold deviceStatus?
          dsimp only
          rw [Doc.get?_set_self]
        | _ => cases hf
    | _ => cases h

namespace Collection

variable {c c' : Collection} {q : StoredDoc → Bool} {oid : Oid} {status : Int32}

/-- The only document with an id tells the statuses of its devices. -/
theorem hasStatus_iff {d : StoredDoc} (hd : d ∈ c.docs) {i : ℕ} {status' : Option Int32} :
    c.HasStatus d.id i status' ↔ d.deviceStatusAt i = status' :=
  ⟨fun hs => hs.unique' hd rfl, fun hs => ⟨d, hd, rfl, hs⟩⟩

/-- The first document that satisfies the query tells the device that is hit. -/
theorem hits_iff {d : StoredDoc} {devices : List Bson} (hfind : c.find? q = some d)
    (harray : arrayField? d.toDoc devicesField = some devices) {id : Bson} {i : ℕ} :
    c.Hits q oid id i ↔
      d.id = id ∧ devices.findIdx? (Bson.subMatches deviceIdField oid) = some i := by
  constructor
  · rintro ⟨d₁, devices₁, hfind₁, hid₁, harray₁, hi⟩
    obtain rfl := Option.some.inj (hfind.symm.trans hfind₁)
    obtain rfl := Option.some.inj (harray.symm.trans harray₁)
    exact ⟨hid₁, hi⟩
  · rintro ⟨hid₁, hi⟩
    exact ⟨d, devices, hfind, hid₁, harray, hi⟩

/-- A status that is set changes nothing, or one element in the devices of one document. -/
theorem setDeviceStatus_cases (h : c.setDeviceStatus q oid status = some c') :
    (c' = c ∧ ∀ id i, ¬c.Hits q oid id i) ∨
      ∃ as d d' bs devices devices', c.docs = as ++ d :: bs ∧ c'.docs = as ++ d' :: bs ∧
        d'.id = d.id ∧ c.find? q = some d ∧
        arrayField? d.toDoc devicesField = some devices ∧
        arrayField? d'.toDoc devicesField = some devices' ∧
        ((devices.findIdx? (Bson.subMatches deviceIdField oid) = none ∧ devices' = devices) ∨
          ∃ i e e', devices.findIdx? (Bson.subMatches deviceIdField oid) = some i ∧
            deviceStatus? e' = some status ∧ devices[i]? = some e ∧
            devices' = devices.set i e') := by
  unfold setDeviceStatus at h
  rw [update_eq_some] at h
  rcases modifyFirst_cases h with ⟨hno, hdocs⟩ | ⟨as, d, d', bs, hc, has, hq, hupd, hc'⟩
  · refine Or.inl ⟨Collection.ext hdocs, ?_⟩
    rintro id i ⟨d, devices, hfind, -⟩
    have hqd := (find?_eq_some_iff.mp hfind).1
    rw [hno d (mem_of_find? hfind)] at hqd
    cases hqd
  · obtain ⟨v, hv, hid, hfields⟩ := StoredDoc.updateField_eq_some.mp hupd
    obtain ⟨devices, devices', hold, rfl, hplace⟩ := setElementOp_eq_some hv
    have hfind : c.find? q = some d := find?_eq_some_iff.mpr ⟨hq, as, bs, hc, has⟩
    have harray : arrayField? d.toDoc devicesField = some devices := by
      rw [arrayField?_eq_some, StoredDoc.get?_toDoc (by decide)]
      exact hold
    have harray' : arrayField? d'.toDoc devicesField = some devices' := by
      rw [arrayField?_eq_some, StoredDoc.get?_toDoc (by decide), hfields, Doc.get?_set_self]
    exact Or.inr ⟨as, d, d', bs, devices, devices', hc, hc', hid, hfind, harray, harray', hplace⟩

/-- The documents with other ids are not affected by a change of one. -/
theorem hasStatus_congr {as bs : List StoredDoc} {d d' : StoredDoc} (hc : c.docs = as ++ d :: bs)
    (hc' : c'.docs = as ++ d' :: bs) (hid : d'.id = d.id) {id : Bson} (hne : d.id ≠ id) {i : ℕ}
    {status' : Option Int32} : c'.HasStatus id i status' ↔ c.HasStatus id i status' := by
  unfold HasStatus
  refine exists_congr fun x => ?_
  rw [hc, hc', List.mem_append, List.mem_append, List.mem_cons, List.mem_cons]
  constructor
  · rintro ⟨has | rfl | hbs, hxid, hs⟩
    · exact ⟨Or.inl has, hxid, hs⟩
    · exact absurd (hid.symm.trans hxid) hne
    · exact ⟨Or.inr (Or.inr hbs), hxid, hs⟩
  · rintro ⟨has | rfl | hbs, hxid, hs⟩
    · exact ⟨Or.inl has, hxid, hs⟩
    · exact absurd hxid hne
    · exact ⟨Or.inr (Or.inr hbs), hxid, hs⟩

/-- A status that is set is that of the device that the query stands for; the others stay. -/
theorem hasStatus_setDeviceStatus (h : c.setDeviceStatus q oid status = some c') {id : Bson} {i : ℕ}
    {status' : Option Int32} :
    c'.HasStatus id i status' ↔
      (c.Hits q oid id i ∧ status' = some status) ∨
        (¬c.Hits q oid id i ∧ c.HasStatus id i status') := by
  rcases setDeviceStatus_cases h with ⟨rfl, hmiss⟩ |
    ⟨as, d, d', bs, devices, devices', hc, hc', hid, hfind, harray, harray', hplace⟩
  · simp [hmiss]
  · by_cases hdid : d.id = id
    · -- The document that is changed.
      subst hdid
      have hmem' : d' ∈ c'.docs := by simp [hc']
      rw [hasStatus_iff (mem_of_find? hfind), ← hid, hasStatus_iff hmem', hid,
        hits_iff hfind harray]
      unfold StoredDoc.deviceStatusAt
      rw [harray, harray', Option.bind_some, Option.bind_some]
      rcases hplace with ⟨hnone, rfl⟩ | ⟨j, e, e', hj, he', he, rfl⟩
      · simp [hnone]
      · have hlt : j < devices.length := (List.getElem?_eq_some_iff.mp he).1
        rw [hj, Option.some.injEq]
        by_cases hij : j = i
        · subst hij
          rw [List.getElem?_set_self hlt, Option.bind_some, he']
          simp [eq_comm]
        · rw [List.getElem?_set_ne hij]
          simp [hij]
    · -- The others.
      have hmiss : ¬c.Hits q oid id i := fun hh => hdid ((hits_iff hfind harray).mp hh).1
      rw [hasStatus_congr hc hc' hid hdid]
      simp [hmiss]

end Collection

/-! ### The steps -/

/-- The query for the device of a user. -/
def banQuery (user device : Oid) (d : StoredDoc) : Bool :=
  d.hasId user && d.toDoc.fieldMatches devicesField (Bson.pathMatches deviceIdField device)

/-- The state, and the logins that have found their documents. -/
structure Bans where
  shared : State
  logins : ℕ → Option (Env × Found)

inductive BanEvent where
  /-- A login finds the document of its subscriber. -/
  | find (n : ℕ) (env : Env) (c : Credentials)
  /-- It goes on with `ClientLoginImpl`. -/
  | finish (n : ℕ)
  /-- Somebody else bans a device of a user. -/
  | ban (user device : Oid)
  /-- Connections come, are registered and go. -/
  | connections (clients : ClientId → Option Client) (connections : Multimap UserId ClientId)

section

variable [Fastotv]

/-- A login that has found its document goes on. -/
def Bans.finish (b : Bans) (n : ℕ) : Option Bans :=
  match b.logins n with
  | none => some b
  | some (env, f) => match (clientLoginImpl env f.uid f.uauth f.doc.toDoc).run b.shared with
    | (.abort, _) => none
    | (_, s) => some ⟨s, Function.update b.logins n none⟩

/-- One step, of a login or of somebody else. -/
def banStep (b : Option Bans) (e : BanEvent) : Option Bans := do
  let b ← b
  match e with
  | .find n env c => match lookUp env b.shared.db c with
    | .error _ => some b
    | .ok f => some { b with logins := Function.update b.logins n (some (env, f)) }
  | .finish n => b.finish n
  | .ban user device =>
    match b.shared.db.subscribers.setDeviceStatus (banQuery user device) device deviceBanned with
    | none => some b
    | some c => some { b with
        shared := { b.shared with db := { b.shared.db with subscribers := c } } }
  | .connections clients connections => some { b with
      shared := { b.shared with clients := clients, connections := connections } }

omit [Fastotv] in
theorem finish_of_none {b : Bans} {n : ℕ} (hn : b.logins n = none) : b.finish n = some b := by
  unfold Bans.finish
  rw [hn]

omit [Fastotv] in
/-- What `ClientLoginImpl` leaves is what the login leaves. -/
theorem finish_eq_some {b b' : Bans} {n : ℕ} {env : Env} {f : Found}
    (hn : b.logins n = some (env, f)) (h : b.finish n = some b') :
    b' = ⟨((clientLoginImpl env f.uid f.uauth f.doc.toDoc).run b.shared).2,
      Function.update b.logins n none⟩ := by
  unfold Bans.finish at h
  rw [hn] at h
  dsimp only at h
  rcases hrun : (clientLoginImpl env f.uid f.uauth f.doc.toDoc).run b.shared with ⟨_ | _ | _, s⟩ <;>
    rw [hrun] at h
  · exact (Option.some.inj h).symm
  · exact (Option.some.inj h).symm
  · cases h

/-- A login of which nothing comes in between is the call of `ClientLogin`. -/
theorem run_find_finish {b b' : Bans} {n : ℕ} {env : Env} {c : Credentials} (hn : b.logins n = none)
    (h : run banStep (some b) [.find n env c, .finish n] = some b') :
    b'.shared = ((login env c).run b.shared).2 ∧ b'.logins = b.logins := by
  have hfind : banStep (some b) (.find n env c) = match lookUp env b.shared.db c with
    | .error _ => some b
    | .ok f => some { b with logins := Function.update b.logins n (some (env, f)) } := rfl
  rw [run_cons, run_cons, run_nil, hfind] at h
  rw [run_login]
  cases hf : lookUp env b.shared.db c with
  | error err =>
    rw [hf] at h
    have hidle : b.finish n = some b' := h
    rw [finish_of_none hn] at hidle
    obtain rfl := Option.some.inj hidle
    exact ⟨rfl, rfl⟩
  | ok f =>
    rw [hf] at h
    obtain rfl := finish_eq_some (Function.update_self ..) h
    refine ⟨?_, ?_⟩
    · dsimp only
      rw [run_bind]
      rcases (clientLoginImpl env f.uid f.uauth f.doc.toDoc).run b.shared with ⟨_ | _ | _, s⟩ <;> rfl
    · dsimp only
      rw [Function.update_idem, ← hn, Function.update_eq_self]

omit [Fastotv] in
/-- No login has found its document yet. -/
def Bans.initial (s : State) : Bans := ⟨s, fun _ => none⟩

end

/-! ### What a login writes -/

theorem exists_document_of_subMatches {k : String} {o : Oid} {e : Bson}
    (h : e.subMatches k o = true) :
    ∃ d, e = .document d := by
  cases e with
  | document d => exact ⟨d, rfl⟩
  | _ => cases h

/-- The device that the query stands for can be written. -/
theorem Collection.Hits.exists_setDeviceStatus {c : Collection} {q : StoredDoc → Bool} {oid : Oid}
    {id : Bson} {i : ℕ} (h : c.Hits q oid id i) (status : Int32) :
    ∃ c', c.setDeviceStatus q oid status = some c' := by
  obtain ⟨d, devices, hfind, -, harray, -⟩ := h
  obtain ⟨hq, as, bs, hc, has⟩ := find?_eq_some_iff.mp hfind
  rw [arrayField?_eq_some, StoredDoc.get?_toDoc (by decide)] at harray
  have hop : (setElementOp deviceIdField oid deviceStatusField (.int32 status)
      (d.fields.get? devicesField)).isSome := by
    rw [harray]
    unfold setElementOp
    dsimp only
    rw [Option.isSome_map]
    refine isSome_modifyFirst fun e _ he => ?_
    obtain ⟨d', rfl⟩ := exists_document_of_subMatches he
    rfl
  have hds : (modifyFirst q (StoredDoc.updateField devicesField devices_ne_id
      (setElementOp deviceIdField oid deviceStatusField (.int32 status))) c.docs).isSome := by
    rw [hc, modifyFirst_append_cons has hq, Option.isSome_map]
    unfold StoredDoc.updateField
    rwa [Option.isSome_map]
  obtain ⟨ds, hds⟩ := Option.isSome_iff_exists.mp hds
  have hnodup : (ds.map StoredDoc.id).Nodup := by
    rw [map_modifyFirst StoredDoc.id (fun _ _ => StoredDoc.id_updateField) hds]
    exact c.ids_nodup
  exact ⟨⟨ds, hnodup⟩, update_eq_some.mpr hds⟩

/-- An accepted login writes the subscribers only when it found the device not active, and its email
is a text for the query. -/
theorem subscribers_activated_cases (s : State) (env : Env) (login : String) (oid : Oid)
    (status : Int32) :
    (s.activated env login oid status).db.subscribers = s.db.subscribers ∨
      status = deviceNotActive ∧ env.write .activateDevice = true ∧
        bconTokenize login = .utf8 (cstr login) ∧
        s.db.subscribers.setDeviceStatus (activationQuery (cstr login) oid) oid deviceActive =
          some (s.activated env login oid status).db.subscribers := by
  unfold State.activated
  split_ifs with hstatus
  · rcases hrun : (activateDevice env login oid).run s.db with ⟨o, db⟩
    rcases run_activateDevice_cases hrun with ⟨-, htext, hwrite, c, hc, rfl⟩ | ⟨-, rfl⟩
    · exact Or.inr ⟨hstatus, hwrite, htext, hc⟩
    · exact Or.inl rfl
  · exact Or.inl rfl

/-- What a login writes when it goes on. -/
theorem finish_cases {b b' : Bans} {n : ℕ} (h : b.finish n = some b') :
    b'.shared.db.subscribers = b.shared.db.subscribers ∨
      ∃ env f oid, b.logins n = some (env, f) ∧
        Accepts env b.shared f.uid f.uauth f.doc.toDoc oid deviceNotActive ∧
        env.write .activateDevice = true ∧
        bconTokenize f.uauth.login = .utf8 (cstr f.uauth.login) ∧
        b.shared.db.subscribers.setDeviceStatus (activationQuery (cstr f.uauth.login) oid) oid
          deviceActive = some b'.shared.db.subscribers := by
  cases hn : b.logins n with
  | none =>
    rw [finish_of_none hn] at h
    obtain rfl := Option.some.inj h
    exact Or.inl rfl
  | some login =>
    obtain ⟨env, f⟩ := login
    obtain rfl := finish_eq_some hn h
    dsimp only
    rcases clientLoginImpl_cases env f.uid f.uauth f.doc.toDoc b.shared with
      ⟨oid, status, haccepts, hrun⟩ | ⟨o, hrun, -⟩
    · rw [hrun]
      rcases subscribers_activated_cases b.shared env f.uauth.login oid status with
        hsame | ⟨rfl, hwrite, htext, hset⟩
      · exact Or.inl hsame
      · exact Or.inr ⟨env, f, oid, rfl, haccepts, hwrite, htext, hset⟩
    · rw [hrun]
      exact Or.inl rfl

/-! ### What holds along a run -/

/-- The place of the device in the document that was found. -/
def Found.place (f : Found) : Option ℕ :=
  (arrayField? f.doc.toDoc devicesField).bind fun devices =>
    devices.findIdx? fun e => (matchDevice f.uauth.deviceId e).isSome

section

variable [Fastotv]

/-- Bans are not undone, logins only make devices active that were not, and a login that finds its
document after the device was banned does not succeed, whatever else happens. -/
structure BansHold (start : Bans) (es : List BanEvent) : Prop where
  stays : ∀ fs gs hs, es = fs ++ gs ++ hs → ∀ b b', run banStep (some start) fs = some b →
    run banStep (some start) (fs ++ gs) = some b' → ∀ id i,
      b.shared.db.subscribers.HasStatus id i (some deviceBanned) →
      b'.shared.db.subscribers.HasStatus id i (some deviceBanned)
  activates : ∀ fs n gs, es = fs ++ .finish n :: gs → ∀ b b',
    run banStep (some start) fs = some b → banStep (some b) (.finish n) = some b' →
    ∀ id i status status', b.shared.db.subscribers.HasStatus id i status →
      b'.shared.db.subscribers.HasStatus id i status' → status' ≠ status →
      status = some deviceNotActive ∧ status' = some deviceActive
  refuses : ∀ fs gs hs, es = fs ++ gs ++ hs → ∀ b b', run banStep (some start) fs = some b →
    run banStep (some start) (fs ++ gs) = some b' → ∀ env c f i,
      lookUp env b'.shared.db c = .ok f → f.place = some i →
      b.shared.db.subscribers.HasStatus f.doc.id i (some deviceBanned) →
      ∀ s, ((clientLoginImpl env f.uid f.uauth f.doc.toDoc).run s).1 ≠ .ok ()

/-- A login that goes on, and whose update goes through, overwrites only a device that is not
active, or is active already. -/
def Harmless (b : Bans) : BanEvent → Prop
  | .finish n => ∀ env f oid, b.logins n = some (env, f) →
    Accepts env b.shared f.uid f.uauth f.doc.toDoc oid deviceNotActive →
    env.write .activateDevice = true → bconTokenize f.uauth.login = .utf8 (cstr f.uauth.login) →
    ∀ id i, b.shared.db.subscribers.Hits (activationQuery (cstr f.uauth.login) oid) oid id i →
      b.shared.db.subscribers.HasStatus id i (some deviceNotActive) ∨
        b.shared.db.subscribers.HasStatus id i (some deviceActive)
  | _ => True

/-! ### One step -/

variable {b b' : Bans} {e : BanEvent} {n : ℕ} {id : Bson} {i : ℕ} {status status' : Option Int32}

omit [Fastotv] in
/-- A harmless login changes statuses from not active to active only. -/
theorem activates_of_harmless (he : Harmless b (.finish n)) (h : b.finish n = some b')
    (hs : b.shared.db.subscribers.HasStatus id i status)
    (hs' : b'.shared.db.subscribers.HasStatus id i status') (hne : status' ≠ status) :
    status = some deviceNotActive ∧ status' = some deviceActive := by
  rcases finish_cases h with hsame | ⟨env, f, oid, hn, haccepts, hwrite, htext, hset⟩
  · rw [hsame] at hs'
    exact absurd (hs'.unique hs) hne
  · rcases (Collection.hasStatus_setDeviceStatus hset).mp hs' with ⟨hhits, rfl⟩ | ⟨-, hs'⟩
    · rcases he env f oid hn haccepts hwrite htext id i hhits with hbefore | hbefore
      · exact ⟨hs.unique hbefore, rfl⟩
      · exact absurd (hbefore.unique hs) hne
    · exact absurd (hs'.unique hs) hne

omit [Fastotv] in
/-- And only a harmless login does. -/
theorem harmless_of_activates
    (h : ∀ b', b.finish n = some b' → ∀ id i status status',
      b.shared.db.subscribers.HasStatus id i status →
      b'.shared.db.subscribers.HasStatus id i status' → status' ≠ status →
      status = some deviceNotActive ∧ status' = some deviceActive) : Harmless b (.finish n) := by
  intro env f oid hn haccepts hwrite htext id i hhits
  -- The login goes on, and writes the device.
  obtain ⟨c', hset⟩ := hhits.exists_setDeviceStatus deviceActive
  have hgoes : ∃ b', b.finish n = some b' ∧ b'.shared.db.subscribers = c' := by
    unfold Bans.finish
    rw [hn]
    dsimp only
    rw [run_clientLoginImpl_of_accepts haccepts]
    refine ⟨_, rfl, ?_⟩
    have hrun : (activateDevice env f.uauth.login oid).run b.shared.db =
        (.ok (), b.shared.db.set .subscribers c') := by
      rw [activateDevice_of_text htext]
      exact writeBack_ok hwrite hset
    unfold State.activated
    rw [if_pos rfl, hrun]
    rfl
  obtain ⟨b', hb', rfl⟩ := hgoes
  have hplace := hhits
  obtain ⟨d, devices, hfind, hid, -⟩ := hplace
  have hbefore : b.shared.db.subscribers.HasStatus id i (d.deviceStatusAt i) :=
    ⟨d, Collection.mem_of_find? hfind, hid, rfl⟩
  have hafter : b'.shared.db.subscribers.HasStatus id i (some deviceActive) :=
    (Collection.hasStatus_setDeviceStatus hset).mpr (Or.inl ⟨hhits, rfl⟩)
  by_cases heq : d.deviceStatusAt i = some deviceActive
  · exact Or.inr (heq ▸ hbefore)
  · obtain ⟨hnot, -⟩ := h b' hb' id i _ _ hbefore hafter (Ne.symm heq)
    exact Or.inl (hnot ▸ hbefore)

/-- A ban outlasts every harmless step. -/
theorem banned_step (he : Harmless b e) (h : banStep (some b) e = some b')
    (hs : b.shared.db.subscribers.HasStatus id i (some deviceBanned)) :
    b'.shared.db.subscribers.HasStatus id i (some deviceBanned) := by
  cases e with
  | find n env c =>
    have hstep : banStep (some b) (.find n env c) = match lookUp env b.shared.db c with
      | .error _ => some b
      | .ok f => some { b with logins := Function.update b.logins n (some (env, f)) } := rfl
    rw [hstep] at h
    split at h
    · obtain rfl := Option.some.inj h
      exact hs
    · obtain rfl := Option.some.inj h
      exact hs
  | finish n =>
    rcases finish_cases h with hsame | ⟨env, f, oid, hn, haccepts, hwrite, htext, hset⟩
    · rwa [hsame]
    · by_cases hhits :
          b.shared.db.subscribers.Hits (activationQuery (cstr f.uauth.login) oid) oid id i
      · -- A harmless login does not hit it.
        rcases he env f oid hn haccepts hwrite htext id i hhits with hbefore | hbefore
        · exact absurd (hbefore.unique hs) (by decide)
        · exact absurd (hbefore.unique hs) (by decide)
      · exact (Collection.hasStatus_setDeviceStatus hset).mpr (Or.inr ⟨hhits, hs⟩)
  | ban user device =>
    have hstep : banStep (some b) (.ban user device) =
      match b.shared.db.subscribers.setDeviceStatus (banQuery user device) device deviceBanned with
      | none => some b
      | some c => some { b with
          shared := { b.shared with db := { b.shared.db with subscribers := c } } } := rfl
    rw [hstep] at h
    split at h
    · obtain rfl := Option.some.inj h
      exact hs
    · rename_i c hset
      obtain rfl := Option.some.inj h
      by_cases hhits : b.shared.db.subscribers.Hits (banQuery user device) device id i
      · exact (Collection.hasStatus_setDeviceStatus hset).mpr (Or.inl ⟨hhits, rfl⟩)
      · exact (Collection.hasStatus_setDeviceStatus hset).mpr (Or.inr ⟨hhits, hs⟩)
  | connections clients connections =>
    obtain rfl := Option.some.inj h
    exact hs

omit [Fastotv] in
/-- The first element that a function accepts stands at the place that is found with it. -/
theorem findSome?_of_findIdx? {α β : Type} {f : α → Option β} {l : List α} {i : ℕ} {x : β}
    (hi : (l.findIdx? fun a => (f a).isSome) = some i) (hx : l.findSome? f = some x) :
    ∃ a, l[i]? = some a ∧ f a = some x := by
  induction l generalizing i with
  | nil => cases hx
  | cons a l ih =>
    rw [List.findIdx?_cons] at hi
    rw [List.findSome?_cons] at hx
    cases hf : f a with
    | some y =>
      rw [hf] at hi hx
      obtain rfl := Option.some.inj hi
      obtain rfl := Option.some.inj hx
      exact ⟨a, rfl, hf⟩
    | none =>
      rw [hf] at hi hx
      obtain ⟨j, hj, rfl⟩ := Option.map_eq_some_iff.mp hi
      exact ih hj hx

omit [Fastotv] in
/-- A login that found its device banned does not succeed. -/
theorem not_ok_of_banned {f : Found} {env : Env} {s : State} (hplace : f.place = some i)
    (hbanned : f.doc.deviceStatusAt i = some deviceBanned) :
    ((clientLoginImpl env f.uid f.uauth f.doc.toDoc).run s).1 ≠ .ok () := by
  intro hok
  rcases clientLoginImpl_cases env f.uid f.uauth f.doc.toDoc s with
    ⟨oid, status, haccepts, -⟩ | ⟨o, hrun, hno⟩
  · obtain ⟨devices, hdevices, hmatch⟩ := haccepts.device
    unfold Found.place at hplace
    unfold StoredDoc.deviceStatusAt at hbanned
    rw [hdevices, Option.bind_some] at hplace hbanned
    obtain ⟨e, he, hmatch⟩ := findSome?_of_findIdx? hplace hmatch
    rw [he, Option.bind_some] at hbanned
    unfold matchDevice at hmatch
    rw [hbanned] at hmatch
    cases hoid : deviceOid? e with
    | none =>
      rw [hoid] at hmatch
      cases hmatch
    | some o =>
      rw [hoid] at hmatch
      simp only [Option.bind_eq_bind, Option.bind_some, Option.ite_none_right_eq_some,
        Option.some.injEq, Prod.mk.injEq] at hmatch
      exact haccepts.notBanned hmatch.2.2.symm
  · rw [hrun] at hok
    exact hno hok

/-- A document that was found is one of the subscribers. -/
theorem mem_of_lookUp {env : Env} {db : Database} {c : Credentials} {f : Found}
    (h : lookUp env db c = .ok f) : f.doc ∈ db.subscribers.docs := by
  cases c with
  | byEmail uauth =>
    obtain ⟨o, hfind, -⟩ := lookUp_byEmail h
    exact Collection.mem_of_find? hfind
  | byUid uid password dev =>
    obtain ⟨o, -, hfind, -⟩ := lookUp_byUid h
    exact Collection.mem_of_find? hfind

/-- Bans hold along a run if and only if every login of it that goes on is harmless. -/
theorem bans_hold_iff (s : State) (es : List BanEvent) :
    BansHold (Bans.initial s) es ↔
      Meets banStep (fun o e => ∀ b, o = some b → Harmless b e) (some (Bans.initial s)) es := by
  constructor
  · intro h
    rw [meets_iff_forall]
    rintro fs e gs rfl b hb
    cases e with
    | finish n => exact harmless_of_activates fun b' hb' => h.activates fs n gs rfl b b' hb hb'
    | _ => trivial
  · intro hmeets
    have hstays : ∀ fs gs hs, es = fs ++ gs ++ hs → ∀ b b',
        run banStep (some (Bans.initial s)) fs = some b →
        run banStep (some (Bans.initial s)) (fs ++ gs) = some b' → ∀ id i,
        b.shared.db.subscribers.HasStatus id i (some deviceBanned) →
        b'.shared.db.subscribers.HasStatus id i (some deviceBanned) := by
      rintro fs gs hs rfl b b' hb hb' id i hbanned
      have hgs := (meets_append.mp (meets_append.mp hmeets).1).2
      rw [run_append, hb] at hb'
      rw [hb] at hgs
      refine run_invariant (P := fun o : Option Bans => ∀ b', o = some b' →
        b'.shared.db.subscribers.HasStatus id i (some deviceBanned))
        (fun o e he ho b' hb' => ?_) hgs (fun b' hb' => ?_) b' hb'
      · cases o with
        | none => cases hb'
        | some b => exact banned_step (he b rfl) hb' (ho b rfl)
      · obtain rfl := Option.some.inj hb'
        exact hbanned
    refine ⟨hstays, ?_, ?_⟩
    · rintro fs n gs rfl b b' hb hb' id i status status' hs hs' hne
      have hharmless := meets_iff_forall.mp hmeets fs (.finish n) gs rfl b hb
      exact activates_of_harmless hharmless hb' hs hs' hne
    · intro fs gs hs hes b b' hb hb' env c f i hf hplace hbanned s'
      have hfound := hstays fs gs hs hes b b' hb hb' f.doc.id i hbanned
      exact not_ok_of_banned hplace (hfound.unique' (mem_of_lookUp hf) rfl)

end

/-! A ban between the two steps of a login. -/

namespace Sample

/-- The account, with a device that is not active. -/
def waiting : StoredDoc where
  id := .oid (oid 1)
  fields := [(emailField, .utf8 "a@b.c"), (passwordField, .utf8 "secret"),
    (statusField, .int32 userActive), (expDateField, .dateTime 2000),
    (devicesField, .array [.document [(deviceIdField, .oid (oid 5)), (deviceNameField, .utf8 "TV"),
      (deviceStatusField, .int32 deviceNotActive)]])]
  no_id := by simp only [Doc.keys, List.map_cons, List.map_nil]; decide

def waitingStart : State :=
  State.initial (Sample.database waiting [] List.nodup_nil) endpoint ⟨"http://epg", true⟩ "locked"

def bannedInBetween : List BanEvent :=
  [.find 0 env (.byEmail ⟨⟨"a@b.c", "secret"⟩, (oid 5).text⟩), .ban (oid 1) (oid 5), .finish 0]

end Sample

open Sample in
/-- The login succeeds, and the banned device is active. -/
theorem ban_undone :
    ¬BansHold (Bans.initial waitingStart) bannedInBetween ∧
      ∃ b b', run banStep (some (Bans.initial waitingStart)) (bannedInBetween.take 2) = some b ∧
        b.shared.db.subscribers.HasStatus (.oid (oid 1)) 0 (some deviceBanned) ∧
        banStep (some b) (.finish 0) = some b' ∧
        b'.shared.db.subscribers.HasStatus (.oid (oid 1)) 0 (some deviceActive) := by
  have hrun : ∃ b b', run banStep (some (Bans.initial waitingStart)) (bannedInBetween.take 2) =
      some b ∧ b.shared.db.subscribers.HasStatus (.oid (oid 1)) 0 (some deviceBanned) ∧
      banStep (some b) (.finish 0) = some b' ∧
      b'.shared.db.subscribers.HasStatus (.oid (oid 1)) 0 (some deviceActive) :=
    ⟨_, _, rfl, ⟨_, List.mem_singleton.mpr rfl, rfl, rfl⟩, rfl,
      ⟨_, List.mem_singleton.mpr rfl, rfl, rfl⟩⟩
  refine ⟨fun h => ?_, hrun⟩
  obtain ⟨b, b', hb, hbanned, hb', hactive⟩ := hrun
  have hboth := h.activates (bannedInBetween.take 2) 0 [] rfl b b' hb hb' _ _ _ _ hbanned hactive
    (by decide)
  exact absurd hboth.1 (by decide)

end LoadBalance
