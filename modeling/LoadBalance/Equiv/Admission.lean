import LoadBalance.Equiv.Connections
import LoadBalance.Equiv.Login
import LoadBalance.Mongo.Equiv.FailedWrites

/-!
# Who may log in

`ClientLoginImpl` accepts a login exactly when the document of the subscriber, the clock and the
connections of the user id admit it (`Admits`), but for a password with a NUL and an email that
`BCON_NEW` takes for structure (`login_admission_iff`), and a login that is not accepted leaves
everything as it was.  A device that `ClientActivate` offers is admitted, once: the login takes it
off what is offered, and nothing else (`offered_once_iff`). -/

namespace LoadBalance

open LoadBalance.Action

/-! ### What admits a login -/

/-- An element for a device, with a status. -/
def DeviceEntry (device : DeviceId) (e : Bson) (status : Int32) : Prop :=
  ∃ d o, e = .document d ∧ Doc.get? d deviceIdField = some (.oid o) ∧ o.text = device ∧
    Doc.get? d deviceStatusField = some (.int32 status)

/-- No registered connection of the user id is logged in with the device: the pointers lead to
objects without a login, or with one of another device. -/
def State.DeviceFree (s : State) (uid : UserId) (device : DeviceId) : Prop :=
  ∀ client ∈ s.connections.at' uid, ∃ c, s.clients client = some c ∧
    ∀ login, c.login = some login → login.deviceId ≠ device

/-- The document, the clock and the connections admit the login; `text` is how the password of the
document is read. -/
structure Admits (text : String → String) (env : Env) (s : State) (uid : UserId)
    (uauth : ServerAuthInfo) (doc : Doc) : Prop where
  status : ∃ status, doc.get? statusField = some (.int32 status) ∧ status ≠ userNotActive ∧
    status ≠ userDeleted
  password : ∃ password, doc.get? passwordField = some (.utf8 password) ∧
    text password = uauth.password
  notExpired : env.now ≤ uauth.expiredDate
  device : ∃ as e bs status, doc.get? devicesField = some (.array (as ++ e :: bs)) ∧
    (∀ a ∈ as, ∀ status, ¬DeviceEntry uauth.deviceId a status) ∧
    DeviceEntry uauth.deviceId e status ∧ status ≠ deviceBanned
  free : s.DeviceFree uid uauth.deviceId

/-- The device is looked for as `matchDevice` does. -/
theorem matchDevice_eq_some {device : DeviceId} {e : Bson} {o : Oid} {status : Int32} :
    matchDevice device e = some (o, status) ↔
      ∃ d, e = .document d ∧ Doc.get? d deviceIdField = some (.oid o) ∧ o.text = device ∧
        Doc.get? d deviceStatusField = some (.int32 status) := by
  unfold matchDevice
  simp only [Option.bind_eq_bind, Option.bind_eq_some_iff, Option.ite_none_right_eq_some,
    Option.some.injEq, Prod.mk.injEq]
  constructor
  · rintro ⟨o', ho, status', hstatus, htext, rfl, rfl⟩
    cases e with
    | document d =>
      obtain ⟨v, hv, hoid⟩ := Option.bind_eq_some_iff.mp ho
      rw [Bson.asOid?_eq_some] at hoid
      subst hoid
      unfold deviceStatus? at hstatus
      dsimp only at hstatus
      split at hstatus
      · rename_i i hi
        obtain rfl := Option.some.inj hstatus
        exact ⟨d, rfl, hv, htext, hi⟩
      · cases hstatus
    | _ => cases ho
  · rintro ⟨d, rfl, ho, htext, hstatus⟩
    refine ⟨o, ?_, status, ?_, htext, rfl, rfl⟩
    · unfold deviceOid?
      dsimp only
      rw [ho]
      rfl
    · unfold deviceStatus?
      dsimp only
      rw [hstatus]

theorem deviceEntry_iff {device : DeviceId} {e : Bson} {status : Int32} :
    DeviceEntry device e status ↔ ∃ o, matchDevice device e = some (o, status) := by
  constructor
  · rintro ⟨d, o, he, ho, htext, hstatus⟩
    exact ⟨o, matchDevice_eq_some.mpr ⟨d, he, ho, htext, hstatus⟩⟩
  · rintro ⟨o, hmatch⟩
    obtain ⟨d, he, ho, htext, hstatus⟩ := matchDevice_eq_some.mp hmatch
    exact ⟨d, o, he, ho, htext, hstatus⟩

/-- The first entry of the device, by its place. -/
theorem findSome?_matchDevice {device : DeviceId} {devices : List Bson} {status : Int32} :
    (∃ o, devices.findSome? (matchDevice device) = some (o, status)) ↔
      ∃ as e bs, devices = as ++ e :: bs ∧ (∀ a ∈ as, ∀ status, ¬DeviceEntry device a status) ∧
        DeviceEntry device e status := by
  constructor
  · rintro ⟨o, ho⟩
    obtain ⟨as, e, bs, rfl, he, has⟩ := List.findSome?_eq_some_iff.mp ho
    refine ⟨as, e, bs, rfl, fun a ha status' hentry => ?_, deviceEntry_iff.mpr ⟨o, he⟩⟩
    obtain ⟨o', hmatch⟩ := deviceEntry_iff.mp hentry
    rw [has a ha] at hmatch
    cases hmatch
  · rintro ⟨as, e, bs, rfl, has, he⟩
    obtain ⟨o, hmatch⟩ := deviceEntry_iff.mp he
    refine ⟨o, List.findSome?_eq_some_iff.mpr ⟨as, e, bs, rfl, hmatch, fun a ha => ?_⟩⟩
    rw [Option.eq_none_iff_forall_ne_some]
    rintro ⟨o', status'⟩ hmatch'
    exact has a ha status' (deviceEntry_iff.mpr ⟨o', hmatch'⟩)

/-- The search for another connection finds none. -/
theorem findDevice_eq_none {clients : ClientId → Option Client} {device : DeviceId}
    {l : List ClientId} : findDevice clients device l = .ok none ↔
      ∀ client ∈ l, ∃ c, clients client = some c ∧
        ∀ login, c.login = some login → login.deviceId ≠ device := by
  induction l with
  | nil => simp [findDevice]
  | cons client l ih =>
    rw [List.forall_mem_cons, ← ih]
    cases hc : clients client with
    | none => simp [findDevice_cons_of_none hc]
    | some c =>
      rw [findDevice_cons_of_some hc]
      simp only [Option.some.injEq, exists_eq_left']
      cases hlogin : c.login with
      | none => simp
      | some login =>
        by_cases hdevice : login.deviceId = device
        · simp [hdevice]
        · simp [hdevice]

/-- The account is checked by its status and its password. -/
theorem checkAccount_eq_ok {doc : Doc} {password : String} :
    checkAccount doc password = .ok () ↔
      (∃ status, doc.get? statusField = some (.int32 status) ∧ status ≠ userNotActive ∧
        status ≠ userDeleted) ∧
      ∃ stored, doc.get? passwordField = some (.utf8 stored) ∧ cstr stored = password := by
  unfold checkAccount
  split
  · rename_i status hstatus
    split_ifs with hnot hdeleted
    · simp [hstatus, hnot]
    · simp [hstatus, hdeleted]
    · split
      · rename_i stored hstored
        split_ifs with hpassword
        · simp [hstored, Ne.symm hpassword]
        · simp [hstatus, hnot, hdeleted, hstored, not_not.mp hpassword]
      · rename_i hno
        simp only [reduceCtorEq, false_iff, not_and, not_exists]
        intro _ stored hstored
        exact absurd hstored (hno stored)
  · rename_i hno
    simp only [reduceCtorEq, false_iff, not_and, not_exists]
    rintro ⟨status, hstatus, -⟩
    exact absurd hstatus (hno status)

/-- The first entry of the device waits for its first login, and the query of its activation ends
the process at the email. -/
def EndsActivating (env : Env) (uauth : ServerAuthInfo) (doc : Doc) : Prop :=
  env.bconAborts uauth.login = true ∧
    ∃ as e bs, doc.get? devicesField = some (.array (as ++ e :: bs)) ∧
    (∀ a ∈ as, ∀ status, ¬DeviceEntry uauth.deviceId a status) ∧
    DeviceEntry uauth.deviceId e deviceNotActive

theorem endsActivating_iff {env : Env} {uauth : ServerAuthInfo} {doc : Doc} {devices : List Bson}
    {o : Oid} {status : Int32} (hdevices : arrayField? doc devicesField = some devices)
    (hmatch : devices.findSome? (matchDevice uauth.deviceId) = some (o, status)) :
    EndsActivating env uauth doc ↔
      status = deviceNotActive ∧ env.bconAborts uauth.login = true := by
  have harray := arrayField?_eq_some.mp hdevices
  constructor
  · rintro ⟨haborts, as, e, bs, hsplit, has, he⟩
    rw [harray, Option.some.injEq, Bson.array.injEq] at hsplit
    obtain ⟨o', hmatch'⟩ := findSome?_matchDevice.mpr ⟨as, e, bs, hsplit, has, he⟩
    rw [hmatch, Option.some.injEq, Prod.mk.injEq] at hmatch'
    exact ⟨hmatch'.2, haborts⟩
  · rintro ⟨rfl, haborts⟩
    obtain ⟨as, e, bs, rfl, has, he⟩ := findSome?_matchDevice.mp ⟨o, hmatch⟩
    exact ⟨haborts, as, e, bs, harray, has, he⟩

/-- What a login that is accepted has met, in the words of the document. -/
theorem accepts_iff {env : Env} {s : State} {uid : UserId} {uauth : ServerAuthInfo} {doc : Doc} :
    (∃ o status, Accepts env s uid uauth doc o status) ↔
      Admits cstr env s uid uauth doc ∧ ¬EndsActivating env uauth doc := by
  constructor
  · rintro ⟨o, status, h⟩
    obtain ⟨hstatus, hpassword⟩ := checkAccount_eq_ok.mp h.account
    obtain ⟨devices, hdevices, hmatch⟩ := h.device
    have hgoes : ¬EndsActivating env uauth doc := by
      rw [endsActivating_iff hdevices hmatch, not_and, Bool.not_eq_true]
      exact h.activates
    obtain ⟨as, e, bs, rfl, has, he⟩ := findSome?_matchDevice.mp ⟨o, hmatch⟩
    exact ⟨⟨hstatus, hpassword, Int64.not_lt.mp h.notExpired,
      ⟨as, e, bs, status, arrayField?_eq_some.mp hdevices, has, he, h.notBanned⟩,
      findDevice_eq_none.mp h.noOther⟩, hgoes⟩
  · rintro ⟨h, hgoes⟩
    obtain ⟨as, e, bs, status, hdevices, has, he, hbanned⟩ := h.device
    obtain ⟨o, hmatch⟩ := findSome?_matchDevice.mpr ⟨as, e, bs, rfl, has, he⟩
    have harray := arrayField?_eq_some.mpr hdevices
    rw [endsActivating_iff harray hmatch, not_and, Bool.not_eq_true] at hgoes
    exact ⟨o, status, checkAccount_eq_ok.mpr ⟨h.status, h.password⟩,
      Int64.not_lt.mpr h.notExpired, ⟨_, harray, hmatch⟩, hbanned, findDevice_eq_none.mpr h.free,
      hgoes⟩

/-- The device of a login that is admitted, as the search through the array finds it. -/
theorem exists_device_of_admits {text : String → String} {env : Env} {s : State} {uid : UserId}
    {uauth : ServerAuthInfo} {doc : Doc} (h : Admits text env s uid uauth doc) :
    ∃ o status devices, arrayField? doc devicesField = some devices ∧
      devices.findSome? (matchDevice uauth.deviceId) = some (o, status) ∧ status ≠ deviceBanned := by
  obtain ⟨as, e, bs, status, hdevices, has, he, hbanned⟩ := h.device
  obtain ⟨o, hmatch⟩ := findSome?_matchDevice.mpr ⟨as, e, bs, rfl, has, he⟩
  exact ⟨o, status, _, arrayField?_eq_some.mpr hdevices, hmatch, hbanned⟩

/-- Everything but the password, which is some text, admits the login. -/
def AdmitsButPassword (env : Env) (s : State) (uid : UserId) (uauth : ServerAuthInfo) (doc : Doc) :
    Prop :=
  Admits (fun _ => uauth.password) env s uid uauth doc

theorem admits_iff {text : String → String} {env : Env} {s : State} {uid : UserId}
    {uauth : ServerAuthInfo} {doc : Doc} : Admits text env s uid uauth doc ↔
      AdmitsButPassword env s uid uauth doc ∧ ∃ stored,
        doc.get? passwordField = some (.utf8 stored) ∧ text stored = uauth.password := by
  constructor
  · intro h
    obtain ⟨stored, hstored, -⟩ := h.password
    exact ⟨⟨h.status, ⟨stored, hstored, rfl⟩, h.notExpired, h.device, h.free⟩, h.password⟩
  · rintro ⟨h, hpassword⟩
    exact ⟨h.status, hpassword, h.notExpired, h.device, h.free⟩

/-- Where the rest admits the login: the password that was given is the stored one, this has no NUL,
and the activation does not end the process; or it is what is read of the stored one before a NUL,
and the activation does. -/
def DecidedByText (env : Env) (s : State) (uid : UserId) (uauth : ServerAuthInfo) (doc : Doc) :
    Prop :=
  AdmitsButPassword env s uid uauth doc → ∀ stored, doc.get? passwordField = some (.utf8 stored) →
    (stored = uauth.password → NulFree stored ∧ ¬EndsActivating env uauth doc) ∧
    (stored ≠ uauth.password → cstr stored = uauth.password → EndsActivating env uauth doc)

/-- A login is accepted exactly when it is admitted, where the password of the document is read as a
C string, and the activation of its device does not end the process. -/
theorem run_clientLoginImpl_eq_ok_iff {env : Env} {s : State} {uid : UserId}
    {uauth : ServerAuthInfo}
    {doc : Doc} : ((clientLoginImpl env uid uauth doc).run s).1 = .ok () ↔
      Admits cstr env s uid uauth doc ∧ ¬EndsActivating env uauth doc := by
  rw [← accepts_iff]
  rcases clientLoginImpl_cases env uid uauth doc s with ⟨o, status, haccepts, hrun⟩ | ⟨o, hrun, hno⟩
  · rw [hrun]
    exact ⟨fun _ => ⟨o, status, haccepts⟩, fun _ => rfl⟩
  · rw [hrun]
    refine ⟨fun h => absurd h hno, ?_⟩
    rintro ⟨oid, status, haccepts⟩
    rw [run_clientLoginImpl_of_accepts haccepts, Prod.mk.injEq] at hrun
    exact hrun.1.symm

section

variable [Fastotv]

/-- An overload of `ClientLogin` that does not succeed leaves the database and the connections as
they were. -/
theorem run_login_of_ne_ok {env : Env} {c : Credentials} {s s' : State}
    {o : Outcome Error ServerDBAuthInfo} (hrun : (login env c).run s = (o, s'))
    (hno : ∀ info, o ≠ .ok info) : s' = s := by
  rcases login_cases env c s with ⟨info, oid, status, hok⟩ | ⟨o', hsame, -⟩
  · rw [hok, Prod.mk.injEq] at hrun
    exact absurd hrun.1.symm (hno info)
  · rw [hsame, Prod.mk.injEq] at hrun
    exact hrun.2.symm

/-- A login is accepted exactly when it is admitted, with the password that the document says, as
long as this and the activation of the device are no matter; and an overload of `ClientLogin` that
does not succeed leaves the database, the connections and its output as they were. -/
theorem login_admission_iff (env : Env) (s : State) :
    (∀ uid uauth doc,
      (((clientLoginImpl env uid uauth doc).run s).1 = .ok () ↔ Admits id env s uid uauth doc) ↔
        DecidedByText env s uid uauth doc) ∧
    ∀ c o s', (login env c).run s = (o, s') → (∀ info, o ≠ .ok info) →
      s' = s ∧ ∀ before, o.output before = before := by
  constructor
  · intro uid uauth doc
    rw [run_clientLoginImpl_eq_ok_iff, admits_iff, admits_iff, and_assoc, and_congr_right_iff]
    unfold DecidedByText
    refine imp_congr_right fun _ => ?_
    -- It is down to the stored password.
    by_cases hstored : ∃ stored, doc.get? passwordField = some (.utf8 stored)
    · obtain ⟨stored, hstored⟩ := hstored
      simp only [hstored, Option.some.injEq, Bson.utf8.injEq, exists_eq_left', forall_eq', id]
      by_cases hsame : stored = uauth.password
      · rw [← hsame, cstr_eq_self_iff]
        simp
      · simp [hsame]
    · refine iff_of_true ⟨?_, ?_⟩ fun stored h => absurd ⟨stored, h⟩ hstored
      · rintro ⟨⟨stored, h, -⟩, -⟩
        exact absurd ⟨stored, h⟩ hstored
      · rintro ⟨stored, h, -⟩
        exact absurd ⟨stored, h⟩ hstored
  · intro c o s' hrun hno
    refine ⟨run_login_of_ne_ok hrun hno, fun before => ?_⟩
    cases o with
    | ok info => exact absurd rfl (hno info)
    | error err => rfl
    | abort => rfl

end

/-! An account whose device waits under an email that begins with a brace, and a password with a
NUL, which ends it for the program. -/

namespace Sample

def waitingEntry (o : Oid) : Bson :=
  .document [(deviceIdField, .oid o), (deviceNameField, .utf8 "TV"),
    (deviceStatusField, .int32 deviceNotActive)]

/-- It is `}a@b.c`. -/
def braceEmail : String := "\x7da@b.c"

def braceAccount : Doc :=
  [(emailField, .utf8 braceEmail), (passwordField, .utf8 "secret"),
    (statusField, .int32 userActive), (expDateField, .dateTime 2000),
    (devicesField, .array [waitingEntry (oid 5)])]

def braceLogin : ServerAuthInfo := ⟨⟨⟨braceEmail, "secret"⟩, (oid 5).text⟩, 2000⟩

/-- The account, with a character behind the NUL of its password. -/
def nulAccount : Doc :=
  [(emailField, .utf8 "a@b.c"), (passwordField, .utf8 "secret\x00x"),
    (statusField, .int32 userActive), (expDateField, .dateTime 2000),
    (devicesField, .array [deviceEntry (oid 5)])]

def nulLogin : ServerAuthInfo := ⟨⟨⟨"a@b.c", "secret"⟩, (oid 5).text⟩, 2000⟩

end Sample

open Sample in
/-- The one login is admitted, and ends the process.  The other succeeds, although the stored text
is not the password that was given. -/
theorem admission_wrong :
    (Admits id env start (oid 1).text braceLogin braceAccount ∧
      ((clientLoginImpl env (oid 1).text braceLogin braceAccount).run start).1 = .abort) ∧
    ¬Admits id env start (oid 1).text nulLogin nulAccount ∧
      ((clientLoginImpl env (oid 1).text nulLogin nulAccount).run start).1 = .ok () := by
  refine ⟨⟨?_, by decide⟩, fun h => ?_, by decide⟩
  · refine ⟨⟨userActive, rfl, by decide, by decide⟩, ⟨"secret", rfl, rfl⟩, by decide,
      ⟨[], waitingEntry (oid 5), [], deviceNotActive, rfl, List.forall_mem_nil _, ?_, by decide⟩,
      fun client hclient => absurd hclient List.not_mem_nil⟩
    exact ⟨_, oid 5, rfl, rfl, rfl, rfl⟩
  · obtain ⟨password, hstored, htext⟩ := h.password
    have hpassword : nulAccount.get? passwordField = some (.utf8 "secret\x00x") := rfl
    rw [hpassword, Option.some.injEq, Bson.utf8.injEq] at hstored
    rw [← hstored] at htext
    exact absurd htext (by decide)

/-! ### Devices that wait for their first login -/

/-- No two elements are matched by one object id. -/
def DistinctDevices (devices : List Bson) : Prop :=
  devices.Pairwise fun e e' => ∀ o, e.subMatches deviceIdField o = true →
    e'.subMatches deviceIdField o = false

/-- The waiting device of an element is matched by its object id. -/
theorem waitingDevice?_eq_some {e : Bson} {device : DeviceInfo}
    (h : waitingDevice? e = some device) :
    ∃ o d, e = .document d ∧ Doc.get? d deviceIdField = some (.oid o) ∧ device.id = o.text ∧
      Doc.get? d deviceStatusField = some (.int32 deviceNotActive) := by
  unfold waitingDevice? at h
  obtain ⟨o, ho, h⟩ := Option.bind_eq_some_iff.mp h
  obtain ⟨status, hstatus, h⟩ := Option.bind_eq_some_iff.mp h
  cases e with
  | document d =>
    obtain ⟨v, hv, hoid⟩ := Option.bind_eq_some_iff.mp ho
    rw [Bson.asOid?_eq_some] at hoid
    subst hoid
    dsimp only at h
    split at h
    · split_ifs at h with hwaits
      obtain rfl := Option.some.inj h
      refine ⟨o, d, rfl, hv, rfl, ?_⟩
      unfold deviceStatus? at hstatus
      dsimp only at hstatus
      split at hstatus
      · rename_i i hi
        rw [hi, Option.some.inj hstatus, hwaits]
      · cases hstatus
    · cases h
  | _ => cases ho

theorem subMatches_of_oid {d : Doc} {k : String} {o : Oid} (h : d.get? k = some (.oid o)) :
    Bson.subMatches k o (.document d) = true := by
  unfold Bson.subMatches Doc.fieldMatches
  dsimp only
  rw [h]
  exact decide_eq_true rfl

/-- A device that has become active does not wait any more. -/
theorem waitingDevice?_active (d : Doc) :
    waitingDevice? (.document (Doc.set d deviceStatusField (.int32 deviceActive))) = none := by
  rw [Option.eq_none_iff_forall_ne_some]
  intro device hdevice
  obtain ⟨-, d', hd, -, -, hstatus⟩ := waitingDevice?_eq_some hdevice
  obtain rfl := Bson.document.inj hd
  rw [Doc.get?_set_self, Option.some.injEq, Bson.int32.injEq] at hstatus
  exact absurd hstatus (by decide)

/-- The others are what an element without this device offers. -/
theorem others_of_not_matches {l : List Bson} {o : Oid}
    (h : ∀ a ∈ l, a.subMatches deviceIdField o = false) :
    (l.filterMap waitingDevice?).filter (fun device => device.id ≠ o.text) =
      l.filterMap waitingDevice? := by
  refine List.filter_eq_self.mpr fun device hdevice => ?_
  obtain ⟨a, ha, hwaits⟩ := List.mem_filterMap.mp hdevice
  obtain ⟨o', d, rfl, hoid, htext, -⟩ := waitingDevice?_eq_some hwaits
  refine decide_eq_true fun heq => ?_
  rw [htext, Oid.text_inj] at heq
  have hno := h _ ha
  rw [← heq, subMatches_of_oid hoid] at hno
  cases hno

/-- Where a device waits, in an array of distinct ones. -/
theorem waiting_split {devices : List Bson} {device : DeviceInfo}
    (hdistinct : DistinctDevices devices)
    (h : device ∈ devices.filterMap waitingDevice?) :
    ∃ as d bs o, devices = as ++ .document d :: bs ∧ waitingDevice? (.document d) = some device ∧
      Doc.get? d deviceIdField = some (.oid o) ∧ device.id = o.text ∧
      Doc.get? d deviceStatusField = some (.int32 deviceNotActive) ∧
      (∀ a ∈ as, a.subMatches deviceIdField o = false) ∧
      ∀ b ∈ bs, b.subMatches deviceIdField o = false := by
  obtain ⟨e, he, hwaits⟩ := List.mem_filterMap.mp h
  obtain ⟨o, d, rfl, hoid, htext, hstatus⟩ := waitingDevice?_eq_some hwaits
  obtain ⟨as, bs, rfl⟩ := List.append_of_mem he
  obtain ⟨-, hright, hcross⟩ := List.pairwise_append.mp hdistinct
  have hmatches := subMatches_of_oid hoid
  refine ⟨as, d, bs, o, rfl, hwaits, hoid, htext, hstatus, fun a ha => ?_, fun b hb => ?_⟩
  · by_contra hmatch
    rw [Bool.not_eq_false] at hmatch
    have hno := hcross a ha _ List.mem_cons_self o hmatch
    rw [hmatches] at hno
    cases hno
  · exact (List.pairwise_cons.mp hright).1 b hb o hmatches

/-- The positional update reaches the device that waits. -/
theorem activate_split {as bs : List Bson} {d : Doc} {o : Oid}
    (has : ∀ a ∈ as, a.subMatches deviceIdField o = false)
    (hoid : d.get? deviceIdField = some (.oid o)) :
    setElementOp deviceIdField o deviceStatusField (.int32 deviceActive)
        (some (.array (as ++ .document d :: bs))) =
      some (.array (as ++ .document (Doc.set d deviceStatusField (.int32 deviceActive)) :: bs)) := by
  unfold setElementOp
  dsimp only
  rw [modifyFirst_append_cons has (subMatches_of_oid hoid)]
  rfl

/-- A document that an update changes in a field that the query for the email does not look at is
found as before. -/
theorem findByEmail_update {db : Database} {login : String} {sub : StoredDoc}
    {q : StoredDoc → Bool} {k : String} (hk : k ≠ idField) {g : Option Bson → Option Bson}
    {v : Bson} (hemail : k ≠ emailField) (hfind : findByEmail db login = some sub)
    (hq : ∀ d, q d = true → d.toDoc.fieldMatches emailField (Bson.matchesUtf8 (cstr login)) = true)
    (hsub : q sub = true) (hv : g (sub.fields.get? k) = some v) :
    ∃ c sub', db.subscribers.update q k hk g = some c ∧
      findByEmail { db with subscribers := c } login = some sub' ∧ sub'.id = sub.id ∧
      sub'.fields = sub.fields.set k v := by
  obtain ⟨hmatch, as, bs, hdocs, has⟩ := Collection.find?_eq_some_iff.mp hfind
  have hnot : ∀ a ∈ as, q a = false := by
    intro a ha
    by_contra hqa
    rw [Bool.not_eq_false] at hqa
    have hno := has a ha
    rw [hq a hqa] at hno
    cases hno
  obtain ⟨sub', hsub'⟩ : ∃ sub', StoredDoc.updateField k hk g sub = some sub' := by
    unfold StoredDoc.updateField
    rw [hv]
    exact ⟨_, rfl⟩
  obtain ⟨v', hv', hid, hfields⟩ := StoredDoc.updateField_eq_some.mp hsub'
  rw [hv, Option.some.injEq] at hv'
  subst hv'
  have hds : modifyFirst q (StoredDoc.updateField k hk g) db.subscribers.docs =
      some (as ++ sub' :: bs) := by
    rw [hdocs, modifyFirst_append_cons hnot hsub, hsub']
    rfl
  have hnodup : ((as ++ sub' :: bs).map StoredDoc.id).Nodup := by
    rw [map_modifyFirst StoredDoc.id (fun _ _ => StoredDoc.id_updateField) hds]
    exact db.subscribers.ids_nodup
  refine ⟨⟨as ++ sub' :: bs, hnodup⟩, sub', Collection.update_eq_some.mpr hds, ?_, hid, hfields⟩
  refine Collection.find?_eq_some_iff.mpr ⟨?_, as, bs, rfl, has⟩
  rw [← hmatch]
  unfold Doc.fieldMatches
  rw [StoredDoc.get?_toDoc (by decide), StoredDoc.get?_toDoc (by decide), hfields,
    Doc.get?_set_ne _ _ hemail.symm]

/-! ### Offered and logged in -/

section

variable [Fastotv]

/-- What `ClientActivate` says about an account. -/
def offer (offered : List DeviceInfo) : Outcome Error (List DeviceInfo) :=
  if offered.isEmpty then .error (.message "Please create device in your profile page")
  else .ok offered

theorem run_clientActivate {uauth : LoginInfo} {s : State} {sub : StoredDoc} {devices : List Bson}
    (hvalid : Fastotv.loginValid uauth = true) (hsub : findByEmail s.db uauth.login = some sub)
    (haccount : checkAccount sub.toDoc uauth.password = .ok ())
    (hdevices : arrayField? sub.toDoc devicesField = some devices) :
    (clientActivate uauth).run s = (offer (devices.filterMap waitingDevice?), s) := by
  have hread : (reads fun s => .ok (findByEmail s.db uauth.login) :
      Call (Option StoredDoc)).run s = (.ok (some sub), s) := by rw [← hsub]; rfl
  have hraise : (orRaise (checkAccount sub.toDoc uauth.password) : Call Unit).run s =
      (.ok (), s) := by rw [haccount]; rfl
  unfold clientActivate offer
  rw [hvalid, if_neg (by decide), run_bind_of_ok hread, run_bind_of_ok (run_orFail_some _ _ _),
    run_bind_of_ok hraise, hdevices, run_bind_of_ok (run_orFail_some _ _ _)]
  dsimp only
  split_ifs
  · rfl
  · rfl

/-- An account with devices that wait is valid, active, and asked for with its password. -/
theorem clientActivate_eq_ok {uauth : LoginInfo} {s s' : State} {offered : List DeviceInfo}
    (h : (clientActivate uauth).run s = (.ok offered, s')) :
    Fastotv.loginValid uauth = true ∧ ∃ sub devices, findByEmail s.db uauth.login = some sub ∧
      checkAccount sub.toDoc uauth.password = .ok () ∧
      arrayField? sub.toDoc devicesField = some devices ∧
      offered = devices.filterMap waitingDevice? := by
  cases hvalid : Fastotv.loginValid uauth with
  | false =>
    unfold clientActivate at h
    rw [hvalid, if_pos (by decide)] at h
    cases h
  | true =>
    refine ⟨rfl, ?_⟩
    have hread : (reads fun s => .ok (findByEmail s.db uauth.login) :
        Call (Option StoredDoc)).run s = (.ok (findByEmail s.db uauth.login), s) := rfl
    have hrest := h
    unfold clientActivate at hrest
    rw [hvalid, if_neg (by decide), run_bind_of_ok hread] at hrest
    cases hsub : findByEmail s.db uauth.login with
    | none =>
      rw [hsub] at hrest
      cases hrest
    | some sub =>
      rw [hsub, run_bind_of_ok (run_orFail_some _ _ _)] at hrest
      cases haccount : checkAccount sub.toDoc uauth.password with
      | error err =>
        rw [haccount] at hrest
        cases hrest
      | ok u =>
        cases hdevices : arrayField? sub.toDoc devicesField with
        | none =>
          have hraise : (orRaise (checkAccount sub.toDoc uauth.password) : Call Unit).run s =
              (.ok u, s) := by rw [haccount]; rfl
          rw [run_bind_of_ok hraise, hdevices] at hrest
          cases hrest
        | some devices =>
          refine ⟨sub, devices, rfl, haccount, hdevices, ?_⟩
          rw [run_clientActivate hvalid hsub haccount hdevices, Prod.mk.injEq] at h
          unfold offer at h
          split_ifs at h
          · exact absurd h.1 nofun
          · exact (Outcome.ok.inj h.1).symm

omit [Fastotv] in
/-- The field of the devices is none of those that the account is checked by. -/
theorem checkAccount_set {d d' : StoredDoc} {k : String} {v : Bson} {password : String}
    (hfields : d'.fields = d.fields.set k v) (hstatus : k ≠ statusField)
    (hpassword : k ≠ passwordField) :
    checkAccount d'.toDoc password = checkAccount d.toDoc password := by
  unfold checkAccount
  rw [StoredDoc.get?_toDoc (by decide), StoredDoc.get?_toDoc (by decide),
    StoredDoc.get?_toDoc (by decide), StoredDoc.get?_toDoc (by decide), hfields,
    Doc.get?_set_ne _ _ hstatus.symm, Doc.get?_set_ne _ _ hpassword.symm]

/-- Every device that `ClientActivate` offers can log in with the same email and password, and is
not offered any more after that, while the others are, exactly when the query of the activation does
not end the process at the email. -/
theorem offered_once_iff (env : Env) (s : State) (uauth : LoginInfo) (offered : List DeviceInfo)
    (sub : StoredDoc) (o : Oid) (expDate : Timestamp) (device : DeviceInfo)
    (hauth : ∀ info dev, Fastotv.loginValid info = true → dev ≠ "" →
      Fastotv.authValid ⟨info, dev⟩ = true)
    (hoffered : (clientActivate uauth).run s = (.ok offered, s))
    (hsub : findByEmail s.db uauth.login = some sub) (hid : sub.id = .oid o)
    (hexpDate : sub.fields.get? expDateField = some (.dateTime expDate))
    (hdistinct : ∀ devices, sub.fields.get? devicesField = some (.array devices) →
      DistinctDevices devices)
    (hnow : env.now ≤ expDate) (hdevice : device ∈ offered)
    (hfree : s.DeviceFree o.text device.id) :
    (∃ s', (clientLogin env ⟨uauth, device.id⟩).run s =
        (.ok ⟨⟨⟨uauth, device.id⟩, expDate⟩, o.text⟩, s') ∧
      ((∀ oid : Oid, oid.text = device.id →
          ((activateDevice env uauth.login oid).run s.db).1 = .ok ()) →
        (clientActivate uauth).run s' =
          (offer (offered.filter fun other => other.id ≠ device.id), s'))) ↔
      env.bconAborts uauth.login = false := by
  obtain ⟨hvalid, sub', devices, hsub', haccount, hdevices, rfl⟩ := clientActivate_eq_ok hoffered
  rw [hsub, Option.some.injEq] at hsub'
  subst hsub'
  have harray : sub.fields.get? devicesField = some (.array devices) := by
    rw [← StoredDoc.get?_toDoc (by decide)]
    exact arrayField?_eq_some.mp hdevices
  obtain ⟨as, d, bs, oid, rfl, hwaits, hoid, htext, hstatus, has, hbs⟩ :=
    waiting_split (hdistinct devices harray) hdevice
  -- The login finds the device, which waits.
  have hfound : lookUp env s.db (.byEmail ⟨uauth, device.id⟩) =
      .ok ⟨o.text, ⟨⟨uauth, device.id⟩, expDate⟩, sub⟩ := by
    unfold lookUp
    dsimp only
    rw [hauth _ _ hvalid (by rw [htext]; exact oid.text_ne_empty), if_neg (by decide), hsub]
    dsimp only
    rw [hid]
    dsimp only [Bson.asOid?]
    rw [StoredDoc.get?_toDoc (by decide), hexpDate]
  have hmatch : (as ++ .document d :: bs).findSome? (matchDevice device.id) =
      some (oid, deviceNotActive) := by
    refine List.findSome?_eq_some_iff.mpr ⟨as, _, bs, rfl,
      matchDevice_eq_some.mpr ⟨d, rfl, hoid, htext.symm, hstatus⟩, fun a ha => ?_⟩
    rw [Option.eq_none_iff_forall_ne_some]
    rintro ⟨o', status⟩ hmatch
    obtain ⟨d', rfl, ho', htext', -⟩ := matchDevice_eq_some.mp hmatch
    rw [htext, Oid.text_inj] at htext'
    subst htext'
    have hno := has _ ha
    rw [subMatches_of_oid ho'] at hno
    cases hno
  constructor
  · -- A login that succeeds has come past the query.
    rintro ⟨s', hrun, -⟩
    obtain ⟨f, oid', status, hf, haccepts, -, -⟩ :=
      login_eq_ok (c := .byEmail ⟨uauth, device.id⟩) hrun
    rw [hfound, Except.ok.injEq] at hf
    subst hf
    obtain ⟨devices, hsame, hmatch'⟩ := haccepts.device
    rw [hdevices, Option.some.injEq] at hsame
    subst hsame
    rw [hmatch, Option.some.injEq, Prod.mk.injEq] at hmatch'
    exact haccepts.activates hmatch'.2.symm
  · intro hgoes
    have haccepts : Accepts env s o.text ⟨⟨uauth, device.id⟩, expDate⟩ sub.toDoc oid
        deviceNotActive :=
      ⟨haccount, Int64.not_lt.mpr hnow, ⟨_, hdevices, hmatch⟩, by decide,
        findDevice_eq_none.mpr hfree, fun _ => hgoes⟩
    refine ⟨s.activated env uauth.login oid deviceNotActive, ?_, fun hwrites => ?_⟩
    · have hlogin := run_login env (.byEmail ⟨uauth, device.id⟩) s
      rw [hfound] at hlogin
      dsimp only at hlogin
      rw [run_bind_of_ok (run_clientLoginImpl_of_accepts haccepts), run_pure] at hlogin
      exact hlogin
    -- The update makes the device active.
    obtain ⟨c, sub', hupdate, hsub', -, hfields⟩ := findByEmail_update devices_ne_id
      (q := activationQuery (cstr uauth.login) oid)
      (g := setElementOp deviceIdField oid deviceStatusField (.int32 deviceActive))
      (by decide : devicesField ≠ emailField) hsub
      (fun x hx => (Bool.and_eq_true _ _ ▸ hx).1) (by
        unfold activationQuery
        rw [Bool.and_eq_true]
        refine ⟨(Collection.find?_eq_some_iff.mp hsub).1, ?_⟩
        unfold Doc.fieldMatches
        rw [StoredDoc.get?_toDoc (by decide), harray]
        exact List.any_eq_true.mpr ⟨_, by simp, subMatches_of_oid hoid⟩)
      (by rw [harray]; exact activate_split has hoid)
    have hactivated : s.activated env uauth.login oid deviceNotActive =
        { s with db := { s.db with subscribers := c } } := by
      unfold State.activated
      rw [if_pos rfl]
      have hok := hwrites oid htext.symm
      rcases hrun : (activateDevice env uauth.login oid).run s.db with ⟨out, db⟩
      rcases run_activateDevice_cases hrun with ⟨-, -, -, c', hc', rfl⟩ | ⟨hno, -⟩
      · rw [hupdate, Option.some.injEq] at hc'
        rw [hc']
        rfl
      · rw [hrun] at hok
        exact absurd hok hno
    rw [hactivated]
    have hdevices' : arrayField? sub'.toDoc devicesField =
        some (as ++ .document (Doc.set d deviceStatusField (.int32 deviceActive)) :: bs) := by
      rw [arrayField?_eq_some, StoredDoc.get?_toDoc (by decide), hfields, Doc.get?_set_self]
    have haccount' : checkAccount sub'.toDoc uauth.password = .ok () := by
      rw [checkAccount_set hfields (by decide) (by decide)]
      exact haccount
    rw [run_clientActivate hvalid hsub' haccount' hdevices']
    -- Only the element of the device makes a difference.
    have hbefore : (.document d :: bs : List Bson).filterMap waitingDevice? =
        device :: bs.filterMap waitingDevice? := by rw [List.filterMap_cons, hwaits]
    rw [List.filterMap_append, List.filterMap_append, List.filterMap_cons,
      waitingDevice?_active, hbefore, List.filter_append, List.filter_cons_of_neg (by simp), htext,
      others_of_not_matches has, others_of_not_matches hbs]

end

/-! An account with two devices that wait, and the one with the brace in its email. -/

namespace Sample

def newcomer : StoredDoc where
  id := .oid (oid 1)
  fields := [(emailField, .utf8 "a@b.c"), (passwordField, .utf8 "secret"),
    (statusField, .int32 userActive), (expDateField, .dateTime 2000),
    (devicesField, .array [waitingEntry (oid 5), waitingEntry (oid 6)])]
  no_id := by simp only [Doc.keys, List.map_cons, List.map_nil]; decide

def newcomerStart : State :=
  State.initial (database newcomer [] List.nodup_nil) endpoint ⟨"http://epg", true⟩ "locked"

theorem distinct_newcomer : DistinctDevices [waitingEntry (oid 5), waitingEntry (oid 6)] := by
  refine List.pairwise_pair.mpr fun o ho => ?_
  have ho' : oid 5 = o := of_decide_eq_true ho
  subst ho'
  decide

def braceSubscriber : StoredDoc where
  id := .oid (oid 1)
  fields := braceAccount
  no_id := by simp only [braceAccount, Doc.keys, List.map_cons, List.map_nil]; decide

def braceStart : State :=
  State.initial (database braceSubscriber [] List.nodup_nil) endpoint ⟨"http://epg", true⟩ "locked"

end Sample

open Sample in
theorem offered_once_iff_sample :
    ∃ s', (clientLogin env ⟨⟨"a@b.c", "secret"⟩, (oid 5).text⟩).run newcomerStart =
        (.ok ⟨⟨⟨⟨"a@b.c", "secret"⟩, (oid 5).text⟩, 2000⟩, (oid 1).text⟩, s') ∧
      (clientActivate ⟨"a@b.c", "secret"⟩).run s' = (.ok [⟨(oid 6).text, "TV"⟩], s') := by
  have hauth : ∀ (info : LoginInfo) (dev : DeviceId), Fastotv.loginValid info = true → dev ≠ "" →
      Fastotv.authValid ⟨info, dev⟩ = true := by
    intro info dev hinfo hdev
    have hboth : (info.login ≠ "" && info.password ≠ "") = true := hinfo
    change (info.login ≠ "" && info.password ≠ "" && dev ≠ "") = true
    rw [hboth, Bool.true_and]
    exact decide_eq_true hdev
  have hdistinct : ∀ devices, newcomer.fields.get? devicesField = some (.array devices) →
      DistinctDevices devices := by
    intro devices h
    obtain rfl := Bson.array.inj (Option.some.inj h)
    exact distinct_newcomer
  obtain ⟨s', hlogin, hoffers⟩ := (offered_once_iff env newcomerStart ⟨"a@b.c", "secret"⟩
    [⟨(oid 5).text, "TV"⟩, ⟨(oid 6).text, "TV"⟩] newcomer (oid 1) 2000 ⟨(oid 5).text, "TV"⟩ hauth
    (by rfl) rfl rfl rfl hdistinct (by decide) List.mem_cons_self
    (fun client hclient => absurd hclient (List.not_mem_nil))).mpr rfl
  refine ⟨s', hlogin, hoffers fun o ho => ?_⟩
  obtain rfl := Oid.text_inj.mp ho
  rfl

open Sample in
/-- The device is offered, nobody is registered, and the login ends the process. -/
theorem offered_ends_process :
    (clientActivate ⟨braceEmail, "secret"⟩).run braceStart =
        (.ok [⟨(oid 5).text, "TV"⟩], braceStart) ∧
      braceStart.connections = ∅ ∧
      ((clientLogin env ⟨⟨braceEmail, "secret"⟩, (oid 5).text⟩).run braceStart).1 = .abort :=
  ⟨rfl, rfl, by decide⟩

end LoadBalance
