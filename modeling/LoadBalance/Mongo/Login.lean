import LoadBalance.Mongo.Connections

/-!
# Logging in

A subscriber logs in by email over its own protocol and by the text of its id over HTTP; both
overloads of `ClientLogin` find the document and leave the rest to `ClientLoginImpl`.
`ClientActivate` only lists the devices that wait for their first login, which makes them active
(`activateDevice`), with a query that takes some emails for structure.
-/

namespace LoadBalance

open LoadBalance.Action

def statusField := "status"
def passwordField := "password"
def expDateField := "exp_date"
def devicesField := "devices"
def deviceIdField := "_id"
def deviceStatusField := "status"
def deviceNameField := "name"

theorem devices_ne_id : devicesField ≠ idField := by decide

def userNotActive : Int32 := 0
def userActive : Int32 := 1
def userDeleted : Int32 := 2
def deviceNotActive : Int32 := 0
def deviceActive : Int32 := 1
def deviceBanned : Int32 := 2

/-- An array field of a document; nothing when it is absent or no array. -/
def arrayField? (doc : Doc) (k : String) : Option (List Bson) := match doc.get? k with
  | some (.array a) => some a
  | _ => none

/-- The object id under which a device stands in the array of a subscriber. -/
def deviceOid? : Bson → Option Oid
  | .document d => (Doc.get? d deviceIdField).bind Bson.asOid?
  | _ => none

/-- The status of a device. -/
def deviceStatus? : Bson → Option Int32
  | .document d => match Doc.get? d deviceStatusField with
    | some (.int32 status) => some status
    | _ => none
  | _ => none

/-- An element for this device, with its object id and its status. -/
def matchDevice (device : DeviceId) (e : Bson) : Option (Oid × Int32) := do
  let oid ← deviceOid? e
  let status ← deviceStatus? e
  if oid.text = device then some (oid, status) else none

/-- The status and the password of the account are as they have to be: what `ClientLoginImpl` and
`ClientActivate` check first. -/
def checkAccount (doc : Doc) (password : String) : Except Error Unit :=
  match doc.get? statusField with
  | some (.int32 status) =>
    if status = userNotActive then .error (.message "User not active")
    else if status = userDeleted then .error (.message "User removed")
    else match doc.get? passwordField with
      | some (.utf8 passwordHash) =>
        if password ≠ cstr passwordHash then .error (.message "Invalid password") else .ok ()
      | _ => .error (.message "Not found password field")
  | _ => .error (.message "Not found status field")

/-- An error is raised. -/
def orRaise {α : Type} : Except Error α → Call α
  | .ok a => pure a
  | .error err => fail err

/-- `{"email": …, "devices._id": …}`. -/
def activationQuery (email : String) (oid : Oid) (d : StoredDoc) : Bool :=
  d.toDoc.fieldMatches emailField (Bson.matchesUtf8 email) &&
    d.toDoc.fieldMatches devicesField (Bson.pathMatches deviceIdField oid)

/-- `devices.$.status` of the subscriber with this email and this device.  The email is no more than
an argument of `BCON_NEW`: one that the library takes for structure leaves a query that the database
refuses, or ends the process. -/
def activateDevice (env : Env) (login : String) (oid : Oid) : Action Database Error Unit :=
  match bconTokenize login with
  | .utf8 email =>
    mongoUpdate env .activateDevice .subscribers (activationQuery email oid) devicesField
      devices_ne_id (setElementOp deviceIdField oid deviceStatusField (.int32 deviceActive))
  | .docEnd | .arrayEnd => lift .abort
  | token => if env.assertsUnclosed token then lift .abort else fail .driver

/-- The check of a login against the document of its subscriber and the connections that are
logged in under the same user id.  A device that was not active becomes active; when this does
not succeed it is only logged. -/
def clientLoginImpl (env : Env) (uid : UserId) (uauth : ServerAuthInfo) (doc : Doc) :
    Call Unit := do
  orRaise (checkAccount doc uauth.password)
  if env.now > uauth.expiredDate then
    fail (.message "Expired account")
  else
    let devices ← orFail (arrayField? doc devicesField)
      (.message "Please create device in your profile page")
    match devices.findSome? (matchDevice uauth.deviceId) with
    | none =>
      if devices.any fun e => (deviceOid? e).isSome then fail (.message "Device not found")
      else fail (.message "Please create device in your profile page")
    | some (oid, status) =>
      if status = deviceBanned then
        fail (.message "Device banned")
      else
        let other ← reads fun s =>
          findDevice s.clients uauth.deviceId (s.connections.at' uid)
        if other.isSome then
          fail (.message "Limit connection reject")
        else if status = deviceNotActive then
          attempt (database (activateDevice env uauth.login oid))
        else
          pure ()

section

variable [Fastotv]

/-- `ClientLogin` by email: the user id of the login is the text of the document's. -/
def clientLogin (env : Env) (uauth : AuthInfo) : Call ServerDBAuthInfo := do
  if !Fastotv.authValid uauth then
    fail .inval
  else
    let doc ← reads fun s => .ok (findByEmail s.db uauth.login)
    let doc ← orFail doc (.message "User not found")
    let uid ← orFail doc.id.asOid? (.message "Not found _id field")
    match doc.toDoc.get? expDateField with
    | some (.dateTime expDate) =>
      let suauth : ServerAuthInfo := ⟨uauth, expDate⟩
      clientLoginImpl env uid.text suauth doc.toDoc
      pure ⟨suauth, uid.text⟩
    | _ => fail (.message "Not exp_date field")

omit [Fastotv] in
/-- `ClientLogin` by user id: the login keeps the text that it was given. -/
def clientLoginByUid (env : Env) (uid : UserId) (password : String) (dev : DeviceId) :
    Call ServerDBAuthInfo := do
  if uid = "" || password = "" || dev = "" then
    fail .inval
  else
    let oid ← orFail (convertFromString env.beyond uid) (.message "Invalid user id")
    let doc ← reads fun s => .ok (s.db.subscribers.findId? oid)
    let doc ← orFail doc (.message "User not found")
    match doc.toDoc.get? emailField with
    | some (.utf8 blogin) => match doc.toDoc.get? expDateField with
      | some (.dateTime expDate) =>
        let uauth : ServerAuthInfo := ⟨⟨⟨cstr blogin, password⟩, dev⟩, expDate⟩
        clientLoginImpl env uid uauth doc.toDoc
        pure ⟨uauth, uid⟩
      | _ => fail (.message "Not exp_date field")
    | _ => fail (.message "Not found email field")

/-- A device that waits for its first login, if it has a name. -/
def waitingDevice? (e : Bson) : Option DeviceInfo := do
  let oid ← deviceOid? e
  let status ← deviceStatus? e
  match e with
  | .document d => match Doc.get? d deviceNameField with
    | some (.utf8 name) => if status = deviceNotActive then some ⟨oid.text, cstr name⟩ else none
    | _ => none
  | _ => none

def clientActivate (uauth : LoginInfo) : Call (List DeviceInfo) := do
  if !Fastotv.loginValid uauth then
    fail .inval
  else
    let doc ← reads fun s => .ok (findByEmail s.db uauth.login)
    let doc ← orFail doc (.message "User not found")
    orRaise (checkAccount doc.toDoc uauth.password)
    let devices ← orFail (arrayField? doc.toDoc devicesField)
      (.message "Please create device in your profile page")
    let devices := devices.filterMap waitingDevice?
    if devices.isEmpty then fail (.message "Please create device in your profile page")
    else pure devices

end

/-! ### The activation -/

section

variable {env : Env} {login : String} {oid : Oid} {db db' : Database} {o : Outcome Error Unit}

theorem bconTokenize_eq_utf8 {text email : String} (h : bconTokenize text = .utf8 email) :
    email = cstr text := by
  unfold bconTokenize at h
  split at h
  · cases h
  · cases h
  · cases h
  · cases h
  · exact (BconToken.utf8.inj h).symm

theorem activateDevice_of_text (h : bconTokenize login = .utf8 (cstr login)) :
    activateDevice env login oid = mongoUpdate env .activateDevice .subscribers
      (activationQuery (cstr login) oid) devicesField devices_ne_id
      (setElementOp deviceIdField oid deviceStatusField (.int32 deviceActive)) := by
  unfold activateDevice
  rw [h]

/-- The email is a text for the library, which then makes the query of it; or the activation ends
the process; or it fails. -/
theorem activateDevice_cases (env : Env) (login : String) (oid : Oid) :
    (bconTokenize login = .utf8 (cstr login) ∧ env.bconAborts login = false) ∨
      (env.bconAborts login = true ∧ activateDevice env login oid = lift .abort) ∨
      (bconTokenize login ≠ .utf8 (cstr login) ∧ env.bconAborts login = false ∧
        activateDevice env login oid = fail .driver) := by
  unfold Env.bconAborts activateDevice
  cases htoken : bconTokenize login with
  | utf8 email =>
    obtain rfl := bconTokenize_eq_utf8 htoken
    exact Or.inl ⟨rfl, rfl⟩
  | docEnd => exact Or.inr (Or.inl ⟨rfl, rfl⟩)
  | arrayEnd => exact Or.inr (Or.inl ⟨rfl, rfl⟩)
  | docStart =>
    cases hunclosed : env.assertsUnclosed .docStart with
    | true => exact Or.inr (Or.inl ⟨hunclosed, if_pos hunclosed⟩)
    | false => exact Or.inr (Or.inr ⟨nofun, hunclosed, if_neg (by simp [hunclosed])⟩)
  | arrayStart =>
    cases hunclosed : env.assertsUnclosed .arrayStart with
    | true => exact Or.inr (Or.inl ⟨hunclosed, if_pos hunclosed⟩)
    | false => exact Or.inr (Or.inr ⟨nofun, hunclosed, if_neg (by simp [hunclosed])⟩)

/-- What an activation writes, when it does. -/
theorem run_activateDevice_cases (h : (activateDevice env login oid).run db = (o, db')) :
    (o = .ok () ∧ bconTokenize login = .utf8 (cstr login) ∧ env.write .activateDevice = true ∧
      ∃ c, db.subscribers.update (activationQuery (cstr login) oid) devicesField devices_ne_id
          (setElementOp deviceIdField oid deviceStatusField (.int32 deviceActive)) = some c ∧
        db' = db.set .subscribers c) ∨
    (o ≠ .ok () ∧ db' = db) := by
  rcases activateDevice_cases env login oid with ⟨htext, -⟩ | ⟨-, heq⟩ | ⟨-, -, heq⟩
  · rw [activateDevice_of_text htext] at h
    rcases writeBack_cases h with ⟨hwrite, c, hc, rfl, rfl⟩ | ⟨-, rfl, rfl⟩
    · exact Or.inl ⟨rfl, htext, hwrite, c, hc, rfl⟩
    · exact Or.inr ⟨nofun, rfl⟩
  · rw [heq, run_lift, Prod.mk.injEq] at h
    exact Or.inr ⟨h.1 ▸ nofun, h.2.symm⟩
  · rw [heq, run_fail, Prod.mk.injEq] at h
    exact Or.inr ⟨h.1 ▸ nofun, h.2.symm⟩

/-- It is the end of the process only by its query. -/
theorem returns_activateDevice_iff :
    ((activateDevice env login oid).run db).1.Returns ↔ env.bconAborts login = false := by
  rcases activateDevice_cases env login oid with ⟨htext, hreturns⟩ | ⟨habort, heq⟩ |
    ⟨-, hreturns, heq⟩
  · rw [activateDevice_of_text htext]
    exact iff_of_true (alwaysReturns_writeBack db) hreturns
  · rw [heq]
    exact iff_of_false Outcome.not_returns_abort (by simp [habort])
  · rw [heq]
    exact iff_of_true trivial hreturns

theorem run_activateDevice_of_aborts (h : env.bconAborts login = true) :
    (activateDevice env login oid).run db = (.abort, db) := by
  rcases activateDevice_cases env login oid with ⟨-, hreturns⟩ | ⟨-, heq⟩ | ⟨-, hreturns, -⟩
  · rw [h] at hreturns
    cases hreturns
  · rw [heq, run_lift]
  · rw [h] at hreturns
    cases hreturns

/-- What its write is allowed to do, the activation is. -/
theorem within_activateDevice {R : Database → Database → Prop} [IsPreorder Database R]
    (h : ∀ db c, db.subscribers.update (activationQuery (cstr login) oid) devicesField
      devices_ne_id (setElementOp deviceIdField oid deviceStatusField (.int32 deviceActive)) =
        some c → R db (db.set .subscribers c)) : Within R (activateDevice env login oid) := by
  intro db
  rcases hrun : (activateDevice env login oid).run db with ⟨o, db'⟩
  rcases run_activateDevice_cases hrun with ⟨-, -, -, c, hc, rfl⟩ | ⟨-, rfl⟩
  · exact h db c hc
  · exact refl_of R db'

end

end LoadBalance
