import LoadBalance.Equiv.Events
import LoadBalance.Library.Transition
import LoadBalance.Mongo.Equiv.Catchup

/-!
# The registry of connections along a run

As long as no connection logs in a second time, each one that is logged in stands exactly once in
the map, under the user id of its login, and nothing else does (`Registered`).  A second login of
the same connection is not kept from happening: it appends the pointer again, and when the
connection is closed one of the two stays behind.  So the registry is in order in every state of a
run exactly when no step of it is such a login (`registry_ok_iff`).
-/

namespace LoadBalance

open LoadBalance.Action

/-- What the map is there for: it has the pointers to open connections, each once, under the user id
of its login. -/
structure RegistryOk (s : State) : Prop where
  logged : ∀ uid, ∀ client ∈ s.connections.at' uid,
    ∃ login, s.loginOf client = some login ∧ login.uid = uid
  nodup : ∀ uid, (s.connections.at' uid).Nodup
  once : ∀ uid uid' client, client ∈ s.connections.at' uid → client ∈ s.connections.at' uid' →
    uid = uid'
  noEmpty : s.connections.NoEmpty

/-- Nobody who goes through the map meets a deleted object. -/
structure SafeVisits (s : State) : Prop where
  online : getOnlineSubscribers s ≠ .abort
  watchers : ∀ sid, getAndUpdateOnlineUserByStreamID s sid ≠ .abort
  device : ∀ uid device, findDevice s.clients device (s.connections.at' uid) ≠ .abort

/-- The invariant: the number of times that a pointer stands under a user id. -/
structure Registered (s : State) : Prop where
  count : ∀ uid client, (s.connections.at' uid).count client =
    if (s.loginOf client).map ServerDBAuthInfo.uid = some uid then 1 else 0
  noEmpty : s.connections.NoEmpty

/-! ### Going through the map -/

theorem mem_allConnections {m : Multimap UserId ClientId} {client : ClientId} :
    client ∈ allConnections m ↔ ∃ uid, client ∈ m.at' uid := by
  unfold allConnections
  rw [List.mem_flatMap]
  constructor
  · rintro ⟨⟨uid, l⟩, he, hmem⟩
    refine ⟨uid, ?_⟩
    rw [Multimap.at', AList.mem_lookup_iff.mpr he]
    exact hmem
  · rintro ⟨uid, hmem⟩
    unfold Multimap.at' at hmem
    cases hl : m.lookup uid with
    | none => simp [hl] at hmem
    | some l => exact ⟨⟨uid, l⟩, AList.mem_lookup_iff.mp hl, by simpa [hl] using hmem⟩

/-- Pointers to objects that are there give these. -/
theorem derefAll_eq_ok {clients : ClientId → Option Client} {l : List ClientId}
    (h : ∀ client ∈ l, clients client ≠ none) : derefAll clients l = .ok (l.filterMap clients) := by
  unfold derefAll
  induction l with
  | nil => rfl
  | cons client l ih =>
    obtain ⟨hc, hl⟩ := List.forall_mem_cons.mp h
    obtain ⟨c, hc⟩ := Option.ne_none_iff_exists'.mp hc
    rw [List.mapM_cons, ih hl, List.filterMap_cons, hc]
    rfl

theorem derefAll_eq_abort {clients : ClientId → Option Client} {l : List ClientId}
    {client : ClientId} (hmem : client ∈ l) (hnone : clients client = none) :
    derefAll clients l = .abort := by
  unfold derefAll
  induction l with
  | nil => cases hmem
  | cons first l ih =>
    rw [List.mapM_cons]
    cases hc : clients first with
    | none => rfl
    | some c =>
      have hrest : client ∈ l := by
        refine (List.mem_cons.mp hmem).resolve_left ?_
        rintro rfl
        cases hnone.symm.trans hc
      rw [ih hrest]
      rfl

theorem derefAll_ne_abort {clients : ClientId → Option Client} {l : List ClientId}
    (h : ∀ client ∈ l, clients client ≠ none) : derefAll clients l ≠ .abort := by
  rw [derefAll_eq_ok h]
  exact nofun

section

variable {clients : ClientId → Option Client} {device : DeviceId} {l : List ClientId}
  {client : ClientId}

/-! The search for a device, by the object at the first address. -/

theorem findDevice_cons_of_none (hc : clients client = none) :
    findDevice clients device (client :: l) = .abort := by
  rw [findDevice, hc]

theorem findDevice_cons_of_some {c : Client} (hc : clients client = some c) :
    findDevice clients device (client :: l) =
      if c.login.any fun login => login.deviceId = device then .ok (some client)
      else findDevice clients device l := by
  rw [findDevice, hc]

theorem findDevice_ne_abort (h : ∀ client ∈ l, clients client ≠ none) :
    findDevice clients device l ≠ .abort := by
  induction l with
  | nil => exact nofun
  | cons client l ih =>
    obtain ⟨hc, hl⟩ := List.forall_mem_cons.mp h
    obtain ⟨c, hc⟩ := Option.ne_none_iff_exists'.mp hc
    rw [findDevice_cons_of_some hc]
    split_ifs
    · exact nofun
    · exact ih hl

/-- What the search finds is a connection of the list that is logged in with the device. -/
theorem of_findDevice {connection : ClientId}
    (h : findDevice clients device l = .ok (some connection)) :
    connection ∈ l ∧ ∃ c login, clients connection = some c ∧ c.login = some login ∧
      login.deviceId = device := by
  induction l with
  | nil => cases h
  | cons client l ih =>
    cases hc : clients client with
    | none =>
      rw [findDevice_cons_of_none hc] at h
      cases h
    | some c =>
      rw [findDevice_cons_of_some hc] at h
      split_ifs at h with hlogin
      · obtain rfl := Option.some.inj (Outcome.ok.inj h)
        obtain ⟨login, hsome, hdevice⟩ := (Option.any_eq_true _ _).mp hlogin
        exact ⟨List.mem_cons_self, c, login, hc, hsome, of_decide_eq_true hdevice⟩
      · obtain ⟨hmem, hfound⟩ := ih h
        exact ⟨List.mem_cons_of_mem _ hmem, hfound⟩

end

/-- Where the registry is in order, all visits are safe. -/
theorem RegistryOk.safeVisits {s : State} (h : RegistryOk s) : SafeVisits s := by
  have hopen : ∀ uid, ∀ client ∈ s.connections.at' uid, s.clients client ≠ none := by
    intro uid client hmem hnone
    obtain ⟨login, hlogin, -⟩ := h.logged uid client hmem
    rw [State.loginOf, hnone] at hlogin
    cases hlogin
  have hall : derefAll s.clients (allConnections s.connections) ≠ .abort := by
    refine derefAll_ne_abort fun client hmem => ?_
    obtain ⟨uid, hmem⟩ := mem_allConnections.mp hmem
    exact hopen uid client hmem
  refine ⟨?_, fun sid => ?_, fun uid device => findDevice_ne_abort (hopen uid)⟩
  · unfold getOnlineSubscribers
    rw [ne_eq, Outcome.bind_eq_abort]
    rintro (h | ⟨l, -, h⟩)
    · exact hall h
    · cases h
  · unfold getAndUpdateOnlineUserByStreamID
    rw [ne_eq, Outcome.bind_eq_abort]
    rintro (h | ⟨l, -, h⟩)
    · exact hall h
    · cases h

/-! ### The invariant -/

namespace Registered

variable {s : State} (h : Registered s) {client : ClientId} {uid : UserId}

include h

theorem mem_iff : client ∈ s.connections.at' uid ↔
    (s.loginOf client).map ServerDBAuthInfo.uid = some uid := by
  rw [← List.count_pos_iff, h.count]
  split_ifs with hc
  · simp [hc]
  · simp [hc]

theorem registryOk : RegistryOk s where
  logged uid client hmem := Option.map_eq_some_iff.mp (h.mem_iff.mp hmem)
  nodup uid := by
    rw [List.nodup_iff_count_le_one]
    intro client
    rw [h.count]
    split_ifs <;> omega
  once uid uid' client hmem hmem' := by
    have heq := (h.mem_iff.mp hmem).symm.trans (h.mem_iff.mp hmem')
    rwa [Option.some.injEq] at heq
  noEmpty := h.noEmpty

theorem congr {s' : State} (hconnections : s'.connections = s.connections)
    (hlogin : ∀ client, s'.loginOf client = s.loginOf client) : Registered s' where
  count uid client := by rw [hconnections, hlogin]; exact h.count uid client
  noEmpty := by rw [hconnections]; exact h.noEmpty

theorem of_quiet {P : Output → Prop} {s' : State} (hquiet : Quiet P s s') : Registered s' :=
  h.congr hquiet.registry.connections hquiet.registry.loginOf

/-- The end of a connection takes the only occurrence of its pointer out. -/
theorem remove {c : Client} (hc : s.clients client = some c) :
    Registered (s.remove client c) := by
  have hlogin : s.loginOf client = c.login := by rw [State.loginOf, hc]; rfl
  have hnone : (s.remove client c).loginOf client = none := by simp [State.remove, State.loginOf]
  have hother : ∀ other, other ≠ client →
      (s.remove client c).loginOf other = s.loginOf other := by
    intro other hne
    simp [State.remove, State.loginOf, hne]
  constructor
  · intro uid other
    have hcount := h.count uid other
    by_cases hne : other = client
    · subst hne
      rw [hnone]
      rw [hlogin] at hcount
      unfold State.remove
      cases hcl : c.login with
      | none => simpa [hcl] using hcount
      | some login =>
        rw [hcl] at hcount
        dsimp only
        rw [Multimap.count_at_eraseFirst, hcount]
        by_cases huid : uid = login.uid
        · simp [huid]
        · simp [huid, Ne.symm huid]
    · rw [hother other hne, ← hcount]
      unfold State.remove
      cases c.login with
      | none => rfl
      | some login =>
        dsimp only
        rw [Multimap.count_at_eraseFirst]
        simp [hne]
  · unfold State.remove
    cases c.login with
    | none => exact h.noEmpty
    | some login => exact h.noEmpty.eraseFirst _ _

/-- A connection that is not logged in has no occurrence yet. -/
theorem register {c : Client} {info : ServerDBAuthInfo} (hc : s.clients client = some c)
    (hlogin : c.login = none) : Registered (s.register client info c) := by
  have hnone : s.loginOf client = none := by rw [State.loginOf, hc]; exact hlogin
  have hself : (s.register client info c).loginOf client = some info := by
    simp [State.register, State.loginOf]
  have hother : ∀ other, other ≠ client →
      (s.register client info c).loginOf other = s.loginOf other := by
    intro other hne
    simp [State.register, State.loginOf, hne]
  constructor
  · intro uid other
    have hcount := h.count uid other
    show ((s.connections.push info.uid client).at' uid).count other = _
    rw [Multimap.count_at_push]
    by_cases hne : other = client
    · subst hne
      rw [hself, hcount, hnone]
      by_cases huid : uid = info.uid
      · simp [huid]
      · simp [huid, Ne.symm huid]
    · rw [hother other hne, ← hcount]
      simp [hne]
  · exact h.noEmpty.push _ _

end Registered

/-- A registration of a connection that is logged in already leaves the pointer twice. -/
theorem not_registryOk_of_register {P : Output → Prop} {s s' : State} {client : ClientId}
    {c : Client} {info : ServerDBAuthInfo} (h : Registered s) (hlogin : s.loginOf client ≠ none)
    (hquiet : Quiet P (s.register client info c) s') : ¬RegistryOk s' := by
  intro hok
  obtain ⟨login, hlogin⟩ := Option.ne_none_iff_exists'.mp hlogin
  have hmem : client ∈ s.connections.at' login.uid := h.mem_iff.mpr (by rw [hlogin]; rfl)
  have hat : ∀ uid, s'.connections.at' uid = (s.connections.push info.uid client).at' uid := by
    intro uid
    rw [hquiet.registry.connections]
    rfl
  by_cases huid : login.uid = info.uid
  · -- Twice under one user id.
    have hnodup := hok.nodup info.uid
    rw [hat, Multimap.at_push, if_pos rfl, List.nodup_append] at hnodup
    rw [huid] at hmem
    exact hnodup.2.2 client hmem client (by simp) rfl
  · -- Under the old user id and the new one.
    refine huid (hok.once _ _ client ?_ ?_)
    · rw [hat, Multimap.at_push, if_neg huid]
      exact hmem
    · rw [hat, Multimap.at_push, if_pos rfl]
      simp

/-! ### One event -/

section

variable [Fastotv] {s : State} {sur : Surroundings} {client : ClientId} {id : RequestId} {c : Client}

/-- What the calls of the handlers do to the invariant. -/
def KeepsRegistered (s s' : State) : Prop := Registered s → Registered s'

instance : IsPreorder State KeepsRegistered where
  refl _ h := h
  trans _ _ _ h h' hs := h' (h hs)

/-- A login request that gets as far as the registration, on a connection that has a login. -/
def RepeatsLogin (s : State) : Event → Prop
  | .request client sur ⟨_, .login params⟩ =>
    (s.clients client).any (fun c => c.kind = .subscriber) ∧ s.loginOf client ≠ none ∧
      ∃ info, LogsIn s sur client params info
  | _ => False

/-- Any other login is one of a connection that has none. -/
theorem Joins.notLogged {e : Event} {info : ServerDBAuthInfo} (h : Joins s client info e)
    (he : ¬RepeatsLogin s e) : s.loginOf client = none := by
  cases e with
  | request client' sur req =>
    obtain ⟨id, command⟩ := req
    cases command with
    | login params =>
      obtain ⟨rfl, hopen, hlogs⟩ := h
      by_contra hlogin
      exact he ⟨hopen, hlogin, info, hlogs⟩
    | _ => exact h.elim
  | http client' sur input =>
    cases input with
    | request request =>
      obtain ⟨rfl, -, hlogs⟩ := h
      exact hlogs.notLogged
    | _ => exact h.elim
  | _ => exact h.elim

/-- Every event but a repeated login keeps the invariant. -/
theorem registered_action {e : Event} (hs : Registered s) (he : ¬RepeatsLogin s e) :
    Registered ((e.action).run s).2 := by
  have hquiet : ∀ s s', Quiet FromHandler s s' → KeepsRegistered s s' :=
    fun _ _ h hs => hs.of_quiet h
  have hclose : ∀ client, Within KeepsRegistered (closeAndDelete client) := fun _ =>
    within_closeAndDelete (fun _ _ h hs => hs.of_quiet h) fun _ _ hc hs => hs.remove hc
  refine within_event hquiet (fun client kind _ hc hs => ?_)
    (fun client info s₁ c hjoins hquiet₁ hc hs₁ => ?_) (fun client s c hc hs => ?_)
    (fun client sur id params _ => ?_) (fun dclient sur id params _ hs => ?_) (fun db _ hs => ?_) hs
  · -- The new object has no login, as little as the place where it comes to.
    refine hs.congr rfl fun other => ?_
    show (Function.update s.clients client (some (newClient kind)) other).bind Client.login = _
    unfold State.loginOf
    by_cases hne : other = client
    · subst hne
      rw [Function.update_self, hc]
      rfl
    · rw [Function.update_of_ne hne]
  · have hlogin := hquiet₁.registry.loginOf client
    rw [hjoins.notLogged he, State.loginOf, hc] at hlogin
    exact (hs₁.register hc hlogin).of_quiet quiet_join
  · exact (hs.remove hc).of_quiet quiet_leave
  · exact within_handleRequestGenerateCatchup hquiet (hclose client)
      fun _ _ hs => hs.congr rfl fun _ => rfl
  · exact hs.of_quiet (keeps_handleRequestClientSendMessageForSubscriber (P := Anything)
      (fun _ _ _ => trivial) (fun _ _ => trivial) s)
  · exact ⟨hs.count, hs.noEmpty⟩

/-- A repeated login leaves a registry that is not in order. -/
theorem not_registryOk_action {e : Event} (hs : Registered s) (he : RepeatsLogin s e) :
    ∃ s', step (some s) e = some s' ∧ ¬RegistryOk s' := by
  cases e with
  | request client sur req =>
    obtain ⟨id, command⟩ := req
    cases command with
    | login params =>
      obtain ⟨hc, hlogin, info, hlogs⟩ := he
      obtain ⟨s₁, c₁, hrun, hquiet, -⟩ := run_action_of_logsIn id hc hlogs
      have hlogin₁ : s₁.loginOf client ≠ none := by
        rwa [hquiet.registry.loginOf]
      refine ⟨_, step_of_returns (by rw [hrun]; trivial), ?_⟩
      rw [hrun]
      exact not_registryOk_of_register (hs.of_quiet hquiet) hlogin₁ quiet_join
    | _ => exact he.elim
  | _ => exact he.elim

omit [Fastotv] in
theorem registered_initial (db : Database) (endpoint : CatchupEndpointInfo) (epgUrl : Gurl)
    (lockedText : String) : Registered (State.initial db endpoint epgUrl lockedText) where
  count uid client := by
    show (Multimap.at' (∅ : Multimap UserId ClientId) uid).count client = 0
    rw [Multimap.at_empty, List.count_nil]
  noEmpty := Multimap.noEmpty_empty

/-- In a run without a repeated login the invariant holds throughout. -/
theorem registered_run {start : State} (hstart : Registered start) {es : List Event}
    (hmeets : Meets step (fun o e => ∀ s, o = some s → ¬RepeatsLogin s e) (some start) es)
    (hrun : run step (some start) es = some s) : Registered s := by
  refine run_invariant_some (fun _ => rfl) (fun s e s' he hs' hs => ?_) hmeets hrun hstart
  rw [step_eq_some hs']
  exact registered_action hs he

/-- The registry is in order, and visits to it are safe, in every state of a run if and only if no
event of the run is a repeated login. -/
theorem registry_ok_iff (db : Database) (endpoint : CatchupEndpointInfo) (epgUrl : Gurl)
    (lockedText : String) (es : List Event) :
    (∀ fs, fs <+: es → ∀ s,
      run step (some (State.initial db endpoint epgUrl lockedText)) fs = some s →
        RegistryOk s ∧ SafeVisits s) ↔
      Meets step (fun o e => ∀ s, o = some s → ¬RepeatsLogin s e)
        (some (State.initial db endpoint epgUrl lockedText)) es := by
  refine forall_prefix_iff_meets (P := fun o => ∀ s, o = some s → Registered s)
    (Q := fun o => ∀ s, o = some s → RegistryOk s ∧ SafeVisits s) ?_ ?_ ?_ ?_ es
  · intro o ho s hs
    have hok := (ho s hs).registryOk
    exact ⟨hok, hok.safeVisits⟩
  · intro o e ho he s' hs'
    cases o with
    | none => cases hs'
    | some s =>
      rw [step_eq_some hs']
      exact registered_action (ho s rfl) (he s rfl)
  · rintro o e ho hq s rfl he
    obtain ⟨s', hs', hnot⟩ := not_registryOk_action (ho s rfl) he
    exact hnot (hq s' hs').1
  · rintro s hs
    obtain rfl := Option.some.inj hs
    exact registered_initial ..

end

/-! A connection that logs in with one device and then with another. -/

namespace Sample

def deviceEntry (o : Oid) : Bson :=
  .document [(deviceIdField, .oid o), (deviceNameField, .utf8 "TV"),
    (deviceStatusField, .int32 deviceActive)]

/-- A subscriber with two devices. -/
def account : StoredDoc where
  id := .oid (oid 1)
  fields := [(emailField, .utf8 "a@b.c"), (passwordField, .utf8 "secret"),
    (statusField, .int32 userActive), (expDateField, .dateTime 2000),
    (devicesField, .array [deviceEntry (oid 5), deviceEntry (oid 6)])]
  no_id := by simp only [Doc.keys, List.map_cons, List.map_nil]; decide

def start : State :=
  State.initial (database account [] List.nodup_nil) endpoint ⟨"http://epg", true⟩ "locked"

def sur : Surroundings := { env with sends := fun _ => true }

def loginRequest (o : Oid) : SubscriberRequest :=
  ⟨some "1", .login (.decoded ⟨⟨"a@b.c", "secret"⟩, o.text⟩)⟩

def twoLogins : List Event :=
  [.accept 7 .subscriber, .request 7 sur (loginRequest (oid 5)),
    .request 7 sur (loginRequest (oid 6)), .close 7]

end Sample

open Sample in
/-- After the connection is closed its pointer is still in the map, and a visit ends the process. -/
theorem registry_not_ok :
    ∃ s, run step (some start) twoLogins = some s ∧ ¬RegistryOk s ∧ ¬SafeVisits s ∧
      s.clients 7 = none ∧ s.connections.at' (oid 1).text = [7] ∧
      getOnlineSubscribers s = .abort := by
  refine ⟨_, rfl, fun h => ?_, fun h => h.online rfl, rfl, rfl, rfl⟩
  obtain ⟨login, hlogin, -⟩ := h.logged (oid 1).text 7 (by decide)
  cases hlogin

end LoadBalance
