import LoadBalance.Equiv.Credentials
import LoadBalance.Equiv.Login

/-!
# One user id for each subscriber

A login by email is registered under the text of the id of the document, and one over HTTP under the
text that stands in the path, which is read as an id in a way that many texts share.  So a
subscriber has one user id along a run exactly when every path that logs in spells the id as it is
stored (`one_identity_iff`). -/

namespace LoadBalance

open LoadBalance.Action

section

variable [Fastotv]

/-- The call of `ClientLogin` that the event makes for the connection finds this document, and
returns this login. -/
def Authenticates (s : State) (client : ClientId) (doc : StoredDoc) (info : ServerDBAuthInfo)
    (e : Event) : Prop :=
  ∃ call f, e.loginCall s = some call ∧ call.client = client ∧
    lookUp call.env s.db call.credentials = .ok f ∧ f.doc = doc ∧
    ((login call.env call.credentials).run s).1 = .ok info

/-- The connection stands under the user id since a login of the run, which was checked against the
document with this id. -/
def RegisteredFor (start : State) (es : List Event) (client : ClientId) (uid : UserId) (o : Oid) :
    Prop :=
  ∃ fs e gs s doc info, es = fs ++ e :: gs ∧ run step (some start) fs = some s ∧
    Joins s client info e ∧ Authenticates s client doc info e ∧ doc.id = .oid o ∧ info.uid = uid ∧
    ∀ hs, hs <+: gs → ∃ t, run step (some start) (fs ++ e :: hs) = some t ∧
      client ∈ t.connections.at' uid

/-- Logins have the text of the id of their document as user id, and connections whose logins were
checked against one document stand under one user id. -/
structure OneIdentity (start : State) (es : List Event) : Prop where
  login : ∀ fs e gs, es = fs ++ e :: gs → ∀ s, run step (some start) fs = some s →
    ∀ client doc info, Authenticates s client doc info e → ∃ o, doc.id = .oid o ∧ info.uid = o.text
  keys : ∀ fs, fs <+: es → ∀ client₁ uid₁ client₂ uid₂ o, RegisteredFor start fs client₁ uid₁ o →
    RegisteredFor start fs client₂ uid₂ o → uid₁ = uid₂

/-- A user id with which the event logs in over HTTP is the text of the id that is read from it. -/
def SpelledAsStored (s : State) (e : Event) : Prop :=
  ∀ call uid password dev o, e.loginCall s = some call →
    call.credentials = .byUid uid password dev → convertFromString call.env.beyond uid = some o →
    (∃ info, ((login call.env call.credentials).run s).1 = .ok info) → uid = o.text

/-! ### One login -/

/-- What a login returns is what was looked up. -/
theorem login_eq_found {env : Env} {c : Credentials} {s : State} {info : ServerDBAuthInfo}
    {f : Found}
    (h : ((login env c).run s).1 = .ok info) (hf : lookUp env s.db c = .ok f) :
    info = ⟨f.uauth, f.uid⟩ := by
  have hrun : (login env c).run s = (.ok info, ((login env c).run s).2) := by rw [← h]
  obtain ⟨f', _, _, hf', -, hinfo, -⟩ := login_eq_ok hrun
  rw [hf, Except.ok.injEq] at hf'
  rwa [hf']

/-- The login of an event has the text of the id of its document when the event spells it so. -/
theorem authenticates_uid {s : State} {client : ClientId} {doc : StoredDoc} {info : ServerDBAuthInfo}
    {e : Event} (he : SpelledAsStored s e) (h : Authenticates s client doc info e) :
    ∃ o, doc.id = .oid o ∧ info.uid = o.text := by
  obtain ⟨call, f, hcall, -, hf, rfl, hok⟩ := h
  have hinfo := login_eq_found hok hf
  cases hc : call.credentials with
  | byEmail uauth =>
    rw [hc] at hf
    obtain ⟨o, -, hid, huid, -⟩ := lookUp_byEmail hf
    exact ⟨o, hid, by rw [hinfo]; exact huid⟩
  | byUid uid password dev =>
    have hspelled := he call uid password dev
    rw [hc] at hf
    obtain ⟨o, ho, -, hid, huid, -⟩ := lookUp_byUid hf
    refine ⟨o, hid, ?_⟩
    rw [hinfo, ← hspelled o hcall hc ho ⟨info, hok⟩]
    exact huid

/-- And only then. -/
theorem spelledAsStored_of_uid {s : State} {e : Event}
    (h : ∀ client doc info, Authenticates s client doc info e →
      ∃ o, doc.id = .oid o ∧ info.uid = o.text) : SpelledAsStored s e := by
  rintro call uid password dev o hcall hc ho ⟨info, hok⟩
  have hrun : (login call.env call.credentials).run s =
      (.ok info, ((login call.env call.credentials).run s).2) := by rw [← hok]
  obtain ⟨f, _, _, hf, -, rfl, -⟩ := login_eq_ok hrun
  obtain ⟨o', hid', huid'⟩ := h call.client f.doc _ ⟨call, f, hcall, rfl, hf, rfl, hok⟩
  rw [hc] at hf
  obtain ⟨o'', ho'', -, hid, huid, -⟩ := lookUp_byUid hf
  rw [ho, Option.some.injEq] at ho''
  rw [hid, Bson.oid.injEq] at hid'
  rw [← huid, ho'', hid']
  exact huid'

/-- A login that is registered was checked against a document. -/
theorem Joins.authenticates {s : State} {client : ClientId} {info : ServerDBAuthInfo} {e : Event}
    (h : Joins s client info e) :
    ∃ doc o, Authenticates s client doc info e ∧ doc.id = .oid o := by
  obtain ⟨call, hcall, hclient, hok⟩ := h.loginCall
  have hrun : (LoadBalance.login call.env call.credentials).run s =
      (.ok info, ((LoadBalance.login call.env call.credentials).run s).2) := by rw [← hok]
  obtain ⟨f, _, _, hf, -, -, -⟩ := login_eq_ok hrun
  have hid : ∃ o, f.doc.id = .oid o := by
    cases hc : call.credentials with
    | byEmail uauth =>
      rw [hc] at hf
      obtain ⟨o, -, hid, -⟩ := lookUp_byEmail hf
      exact ⟨o, hid⟩
    | byUid uid password dev =>
      rw [hc] at hf
      obtain ⟨o, -, -, hid, -⟩ := lookUp_byUid hf
      exact ⟨o, hid⟩
  obtain ⟨o, hid⟩ := hid
  exact ⟨f.doc, o, ⟨call, f, hcall, hclient, hf, rfl, hok⟩, hid⟩

/-! ### Where an entry of the map comes from -/

/-- An entry of the map after a call was there before. -/
def NoEntry (client : ClientId) (uid : UserId) (s s' : State) : Prop :=
  client ∈ s'.connections.at' uid → client ∈ s.connections.at' uid

instance {client : ClientId} {uid : UserId} : IsPreorder State (NoEntry client uid) where
  refl _ h := h
  trans _ _ _ h h' hs := h (h' hs)

omit [Fastotv] in
theorem noEntry_of_quiet {client : ClientId} {uid : UserId} {P : Output → Prop} (s s' : State)
    (h : Quiet P s s') : NoEntry client uid s s' := by
  intro hs
  rwa [h.registry.connections] at hs

omit [Fastotv] in
theorem noEntry_remove {client other : ClientId} {uid : UserId} {s : State} {c : Client} :
    NoEntry client uid s (s.remove other c) := by
  intro hs
  unfold State.remove at hs
  cases hlogin : c.login with
  | none =>
    rw [hlogin] at hs
    exact hs
  | some login =>
    rw [hlogin] at hs
    dsimp only at hs
    rw [Multimap.at_eraseFirst] at hs
    split_ifs at hs with huid
    · rw [huid]
      exact List.mem_of_mem_erase hs
    · exact hs

omit [Fastotv] in
theorem noEntry_register {client other : ClientId} {uid : UserId} {s : State} {c : Client}
    {info : ServerDBAuthInfo} (h : ¬(client = other ∧ info.uid = uid)) :
    NoEntry client uid s (s.register other info c) := by
  intro hs
  unfold State.register at hs
  dsimp only at hs
  rw [Multimap.at_push] at hs
  split_ifs at hs with huid
  · rw [List.mem_append, List.mem_singleton] at hs
    rcases hs with hs | hs
    · rwa [huid]
    · exact absurd ⟨hs, huid.symm⟩ h
  · exact hs

/-- The only event that brings an entry into the map is a login with its user id. -/
theorem noEntry_or_joins (e : Event) (client : ClientId) (uid : UserId) (s : State) :
    NoEntry client uid s ((e.action).run s).2 ∨ ∃ info, Joins s client info e ∧ info.uid = uid := by
  by_cases hjoins : ∃ info, Joins s client info e ∧ info.uid = uid
  · exact Or.inr hjoins
  refine Or.inl (within_event (fun _ _ h => noEntry_of_quiet _ _ h) (fun _ _ _ _ hs => hs)
    (fun other info s₁ c h _ _ => ?_) (fun other s c _ => ?_) (fun other sur id params _ => ?_)
    (fun dclient sur id params _ => ?_) fun db _ hs => hs)
  · refine trans_of (NoEntry client uid) (noEntry_register ?_) (noEntry_of_quiet _ _ quiet_join)
    rintro ⟨rfl, huid⟩
    exact hjoins ⟨info, h, huid⟩
  · exact trans_of (NoEntry client uid) noEntry_remove (noEntry_of_quiet _ _ quiet_leave)
  · exact within_handleRequestGenerateCatchup (fun _ _ h => noEntry_of_quiet _ _ h)
      (within_closeAndDelete noEntry_of_quiet fun _ _ _ => noEntry_remove) fun _ _ hs => hs
  · exact noEntry_of_quiet _ _ (keeps_handleRequestClientSendMessageForSubscriber (P := Anything)
      (fun _ _ _ => trivial) (fun _ _ => trivial) s)

/-- Whatever stands in the map was registered with a login of the run. -/
theorem registeredFor {start : State} (hstart : start.connections = ∅) {es : List Event} {s : State}
    (hrun : run step (some start) es = some s) {client : ClientId} {uid : UserId}
    (hmem : client ∈ s.connections.at' uid) : ∃ o, RegisteredFor start es client uid o := by
  have hnot : ¬∃ s, some start = some s ∧ client ∈ s.connections.at' uid := by
    rintro ⟨s, hs, hmem⟩
    obtain rfl := Option.some.inj hs
    rw [hstart] at hmem
    cases hmem
  have hend : ∃ s, run step (some start) es = some s ∧ client ∈ s.connections.at' uid :=
    ⟨s, hrun, hmem⟩
  obtain ⟨fs, e, gs, rfl, hfs, hgs⟩ := exists_onset
    (P := fun o : Option State => ∃ s, o = some s ∧ client ∈ s.connections.at' uid) hnot hend
  -- The step in which the entry came about.
  obtain ⟨s₁, hs₁, hmem₁⟩ := hgs [] List.nil_prefix
  rw [run_concat] at hs₁
  cases hs₀ : run step (some start) fs with
  | none =>
    rw [hs₀] at hs₁
    cases hs₁
  | some s₀ =>
    rw [hs₀] at hs₁ hfs
    rw [step_eq_some hs₁] at hmem₁
    rcases noEntry_or_joins e client uid s₀ with hno | ⟨info, hjoins, huid⟩
    · exact absurd ⟨s₀, rfl, hno hmem₁⟩ hfs
    · obtain ⟨doc, o, hauth, hid⟩ := hjoins.authenticates
      exact ⟨o, fs, e, gs, s₀, doc, info, rfl, hs₀, hjoins, hauth, hid, huid, hgs⟩

/-- Every entry of the map was registered with a login of the run; and the subscribers have one user
id each along the run if and only if all its logins over HTTP spell the id as it is stored. -/
theorem one_identity_iff (db : Database) (endpoint : CatchupEndpointInfo) (epgUrl : Gurl)
    (lockedText : String) (es : List Event) :
    (∀ fs, fs <+: es → ∀ s,
      run step (some (State.initial db endpoint epgUrl lockedText)) fs = some s →
      ∀ uid, ∀ client ∈ s.connections.at' uid,
        ∃ o, RegisteredFor (State.initial db endpoint epgUrl lockedText) fs client uid o) ∧
    (OneIdentity (State.initial db endpoint epgUrl lockedText) es ↔
      ∀ fs e gs, es = fs ++ e :: gs → ∀ s,
        run step (some (State.initial db endpoint epgUrl lockedText)) fs = some s →
        SpelledAsStored s e) := by
  refine ⟨fun fs _ s hrun uid client hmem => registeredFor rfl hrun hmem, ?_, fun hspelled => ?_⟩
  · intro h fs e gs hes s hrun
    exact spelledAsStored_of_uid (h.login fs e gs hes s hrun)
  · have hlogin : ∀ fs e gs, es = fs ++ e :: gs → ∀ s,
        run step (some (State.initial db endpoint epgUrl lockedText)) fs = some s →
        ∀ client doc info, Authenticates s client doc info e →
          ∃ o, doc.id = .oid o ∧ info.uid = o.text :=
      fun fs e gs hes s hrun _ _ _ => authenticates_uid (hspelled fs e gs hes s hrun)
    -- A user id is determined by the document.
    have hkey : ∀ fs, fs <+: es → ∀ client uid o,
        RegisteredFor (State.initial db endpoint epgUrl lockedText) fs client uid o →
        uid = o.text := by
      rintro fs ⟨ts, rfl⟩ client uid o
        ⟨fs', e, gs, s, doc, info, rfl, hrun, -, hauth, hid, rfl, -⟩
      obtain ⟨o', hid', huid'⟩ := hlogin fs' e (gs ++ ts) (by simp) s hrun client doc info hauth
      rw [hid, Bson.oid.injEq] at hid'
      rw [hid', huid']
    refine ⟨hlogin, fun fs hfs client₁ uid₁ client₂ uid₂ o h₁ h₂ => ?_⟩
    rw [hkey fs hfs client₁ uid₁ o h₁, hkey fs hfs client₂ uid₂ o h₂]

end

/-! A subscriber that logs in by email, and over HTTP with an id in capitals. -/

namespace Sample

/-- The account, with digits in its id that have two cases. -/
def spelled : StoredDoc where
  id := .oid (oid 10)
  fields := account.fields
  no_id := account.no_id

def spelledStart : State :=
  State.initial (database spelled [] List.nodup_nil) endpoint ⟨"http://epg", true⟩ "locked"

def capitals : HttpRequest where
  method := .get
  path := some ("AAAAAAAAAAAAAAAAAAAAAAAA/secret/" ++ (oid 5).text ++ "/" ++ (oid 2).text ++
    "/1/news.m3u8")
  fileName := "news.m3u8"
  keepAlive := true

def twoSpellings : List Event :=
  [.accept 7 .subscriber, .request 7 sur (loginRequest (oid 5)), .accept 8 .http,
    .http 8 httpSur (.request capitals)]

end Sample

open Sample in
/-- The two connections stand under two user ids, and with the same device. -/
theorem two_identities :
    ¬OneIdentity spelledStart twoSpellings ∧
      ∃ s, run step (some spelledStart) twoSpellings = some s ∧
        s.connections.at' (oid 10).text = [7] ∧
        s.connections.at' "AAAAAAAAAAAAAAAAAAAAAAAA" = [8] ∧
        (s.loginOf 7).map (fun login => login.deviceId) =
          (s.loginOf 8).map (fun login => login.deviceId) := by
  refine ⟨fun h => ?_, _, rfl, by decide, by decide, rfl⟩
  obtain ⟨o, hid, huid⟩ := h.login (twoSpellings.take 3) (.http 8 httpSur (.request capitals)) [] rfl
    _ rfl 8 spelled _ ⟨_, _, rfl, rfl, rfl, rfl, rfl⟩
  obtain rfl := Bson.oid.inj hid
  exact absurd huid (by decide)

end LoadBalance
