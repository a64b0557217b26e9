import LoadBalance.Equiv.Connections
import Mathlib.Data.Finset.Erase
import Mathlib.Data.Finset.Insert
import Mathlib.Data.Multiset.Filter

/-!
# The daemon's view of who is online

The daemon is told of every login and of every end of a connection that was logged in, and can ask
for a snapshot.  Both ways say the same, namely who the open connections are logged in as, as long
as no connection logs in a second time and every login serializes (`online_view_exact`).  A second
login is told without the end of the first one.
-/

namespace LoadBalance

open LoadBalance.Action

/-- What is told of an open connection. -/
def State.frontOf (s : State) (client : ClientId) : Option FrontSubscriberInfo :=
  (s.loginOf client).map ServerDBAuthInfo.front

/-- What something that is sent does to the view of who keeps to the notifications. -/
def replayOutput (view : Multiset FrontSubscriberInfo) : Output → Multiset FrontSubscriberInfo
  | .broadcast (.subscriberConnected info) => info ::ₘ view
  | .broadcast (.subscriberDisConnected info) => view.erase info
  | _ => view

/-- The view of who kept to the notifications from the beginning on. -/
def replay (outs : List Output) : Multiset FrontSubscriberInfo := outs.foldl replayOutput 0

/-- The notifications, the snapshot and its text say who the open connections are logged in as, one
info for each. -/
structure OnlineExact (s : State) : Prop where
  exact : ∃ logged : Finset ClientId, (∀ client, client ∈ logged ↔ s.loginOf client ≠ none) ∧
    replay s.sent = logged.val.filterMap s.frontOf ∧
    ∃ online, getOnlineSubscribers s = .ok online ∧
      (online : Multiset FrontSubscriberInfo) = logged.val.filterMap s.frontOf ∧
      (∀ (sur : Surroundings) (dclient : ClientId) (id : RequestId) (info : PrepareInfo),
        sur.sends dclient = true →
        ((handleRequestClientPrepareService sur ⟨dclient, true⟩ id (.decoded info)).run s).2.sent =
          s.sent ++ [.daemonReply dclient id (.prepareServiceSuccess ⟨online⟩)]) ∧
      ∃ entries, List.Forall₂
          (fun info entry => info.serialize.map Json.object = some entry) online entries ∧
        StateInfo.serialize ⟨online⟩ = [(clientsField, .array entries)]

/-! ### The notifications -/

/-- Something of which the view does not change. -/
def Neutral (o : Output) : Prop := ∀ view, replayOutput view o = view

theorem FromHandler.neutral {o : Output} (h : FromHandler o) : Neutral o := by
  intro view
  cases o with
  | broadcast b => cases b <;> first | rfl | exact h.elim
  | _ => rfl

theorem replay_append (outs outs' : List Output) :
    replay (outs ++ outs') = outs'.foldl replayOutput (replay outs) := List.foldl_append

theorem replay_of_neutral {s s' : State} (h : Appends Neutral s s') :
    replay s'.sent = replay s.sent := by
  obtain ⟨outs, hsent, houts⟩ := h
  rw [hsent, replay_append]
  clear hsent
  generalize replay s.sent = view
  induction outs with
  | nil => rfl
  | cons o outs ih =>
    obtain ⟨ho, houts⟩ := List.forall_mem_cons.mp houts
    rw [List.foldl_cons, ho view]
    exact ih houts

/-! ### The invariant -/

theorem filterMap_congr {α β : Type} {f g : α → Option β} {m : Multiset α}
    (h : ∀ a ∈ m, f a = g a) : m.filterMap f = m.filterMap g := by
  induction m using Quotient.inductionOn with
  | h l => exact congrArg _ (List.filterMap_congr h)

/-- The invariant: the registry is in order, what is told of a login is, and the notifications say
who is logged in. -/
structure Told (s : State) : Prop where
  registered : Registered s
  valid : ∀ client login, s.loginOf client = some login → login.front.isValid = true
  replayed : ∀ logged : Finset ClientId, (∀ client, client ∈ logged ↔ s.loginOf client ≠ none) →
    replay s.sent = logged.val.filterMap s.frontOf

namespace Told

variable {s : State} (h : Told s) {client : ClientId} {c : Client} {info : ServerDBAuthInfo}

include h

theorem congr {s' : State} (hconnections : s'.connections = s.connections)
    (hlogin : ∀ client, s'.loginOf client = s.loginOf client)
    (hsent : replay s'.sent = replay s.sent) : Told s' where
  registered := h.registered.congr hconnections hlogin
  valid client login hlogged := h.valid client login (by rw [← hlogin, hlogged])
  replayed logged hmem := by
    rw [hsent, h.replayed logged fun client => by rw [hmem, hlogin]]
    exact filterMap_congr fun client _ => by rw [State.frontOf, State.frontOf, hlogin]

theorem of_quiet {P : Output → Prop} {s' : State} (hP : ∀ o, P o → Neutral o)
    (hquiet : Quiet P s s') : Told s' :=
  h.congr hquiet.registry.connections hquiet.registry.loginOf
    (replay_of_neutral (hquiet.sent.mono hP))

/-- A first login is one more connection, and is told. -/
theorem join (hc : s.clients client = some c) (hlogin : c.login = none)
    (hvalid : info.front.isValid = true) : Told (s.join client info c) := by
  have hnone : s.loginOf client = none := by rw [State.loginOf, hc]; exact hlogin
  have hself : (s.join client info c).loginOf client = some info := by
    simp [State.join, State.register, State.loginOf]
  have hother : ∀ other, other ≠ client →
      (s.join client info c).loginOf other = s.loginOf other := by
    intro other hne
    simp [State.join, State.register, State.loginOf, hne]
  refine ⟨(h.registered.register hc hlogin).of_quiet quiet_join, ?_, ?_⟩
  · intro other login hlogged
    by_cases hne : other = client
    · subst hne
      rw [hself] at hlogged
      rwa [← Option.some.inj hlogged]
    · rw [hother other hne] at hlogged
      exact h.valid other login hlogged
  · intro logged hmem
    have hclient : client ∈ logged := (hmem client).mpr (by
      rw [hself]
      exact Option.some_ne_none info)
    have hbefore : ∀ other, other ∈ logged.erase client ↔ s.loginOf other ≠ none := by
      intro other
      rw [Finset.mem_erase, hmem]
      by_cases hne : other = client
      · subst hne
        simp [hnone]
      · rw [hother other hne]
        exact and_iff_right hne
    have hsent : replay (s.join client info c).sent = info.front ::ₘ replay s.sent := by
      show replay (s.sent ++ notice .subscriberConnected info) = _
      rw [notice, if_pos hvalid, replay_append]
      rfl
    have hval : logged.val = client ::ₘ (logged.erase client).val := by
      rw [Finset.erase_val, Multiset.cons_erase hclient]
    rw [hsent, h.replayed _ hbefore, hval,
      Multiset.filterMap_cons_some (b := info.front) _ _ _ (by rw [State.frontOf, hself]; rfl)]
    congr 1
    refine filterMap_congr fun other hother' => ?_
    rw [State.frontOf, State.frontOf, hother other (Finset.ne_of_mem_erase hother')]

/-- The end of a connection is one less, and is told. -/
theorem leave (hc : s.clients client = some c) : Told (s.leave client c) := by
  have hlogin : s.loginOf client = c.login := by rw [State.loginOf, hc]; rfl
  have hself : (s.leave client c).loginOf client = none := by
    simp [State.leave, State.remove, State.loginOf]
  have hother : ∀ other, other ≠ client →
      (s.leave client c).loginOf other = s.loginOf other := by
    intro other hne
    simp [State.leave, State.remove, State.loginOf, hne]
  refine ⟨(h.registered.remove hc).of_quiet quiet_leave, ?_, ?_⟩
  · intro other login hlogged
    by_cases hne : other = client
    · subst hne
      rw [hself] at hlogged
      cases hlogged
    · rw [hother other hne] at hlogged
      exact h.valid other login hlogged
  · intro logged hmem
    have hclient : client ∉ logged := fun hin => (hmem client).mp hin hself
    have hrest : logged.val.filterMap (s.leave client c).frontOf =
        logged.val.filterMap s.frontOf := by
      refine filterMap_congr fun other hin => ?_
      have hne : other ≠ client := fun heq => hclient (heq ▸ hin)
      rw [State.frontOf, State.frontOf, hother other hne]
    rw [hrest]
    cases hcl : c.login with
    | none =>
      -- A connection without a login ends unnoticed.
      have hsent : (s.leave client c).sent = s.sent := by simp [State.leave, State.remove, hcl]
      rw [hsent]
      refine h.replayed logged fun other => ?_
      by_cases hne : other = client
      · subst hne
        simp [hclient, hlogin, hcl]
      · rw [hmem, hother other hne]
    | some login =>
      have hvalid := h.valid client login (hlogin.trans hcl)
      have hsent : replay (s.leave client c).sent = (replay s.sent).erase login.front := by
        have happend : (s.leave client c).sent =
            s.sent ++ notice .subscriberDisConnected login := by simp [State.leave, State.remove, hcl]
        rw [happend, notice, if_pos hvalid, replay_append]
        rfl
      have hbefore : ∀ other, other ∈ insert client logged ↔ s.loginOf other ≠ none := by
        intro other
        rw [Finset.mem_insert, hmem]
        by_cases hne : other = client
        · subst hne
          simp [hlogin, hcl]
        · rw [hother other hne]
          exact or_iff_right hne
      rw [hsent, h.replayed _ hbefore, Finset.insert_val_of_notMem hclient,
        Multiset.filterMap_cons_some (b := login.front) _ _ _
          (by rw [State.frontOf, hlogin, hcl]; rfl),
        Multiset.erase_cons_head]

end Told

/-- The snapshot goes through the map. -/
theorem Registered.getOnlineSubscribers_eq {s : State} (h : Registered s) :
    getOnlineSubscribers s = .ok ((allConnections s.connections).filterMap s.frontOf) := by
  have hopen : ∀ client ∈ allConnections s.connections, s.clients client ≠ none := by
    intro client hmem hnone
    obtain ⟨uid, hmem⟩ := mem_allConnections.mp hmem
    obtain ⟨login, hlogin, -⟩ := h.registryOk.logged uid client hmem
    rw [State.loginOf, hnone] at hlogin
    cases hlogin
  unfold getOnlineSubscribers
  rw [derefAll_eq_ok hopen, Outcome.ok_bind, List.filterMap_filterMap, Outcome.pure_eq_ok]
  congr 1
  refine List.filterMap_congr fun client _ => ?_
  rw [State.frontOf, State.loginOf]
  cases s.clients client <;> rfl

theorem Registered.mem_allConnections_iff {s : State} (h : Registered s) {client : ClientId} :
    client ∈ allConnections s.connections ↔ s.loginOf client ≠ none := by
  rw [mem_allConnections]
  constructor
  · rintro ⟨uid, hmem⟩ hnone
    rw [h.mem_iff, hnone] at hmem
    cases hmem
  · intro hlogin
    obtain ⟨login, hlogin⟩ := Option.ne_none_iff_exists'.mp hlogin
    exact ⟨login.uid, h.mem_iff.mpr (by rw [hlogin]; rfl)⟩

theorem Registered.nodup_allConnections {s : State} (h : Registered s) :
    (allConnections s.connections).Nodup := by
  have hat : ∀ e ∈ s.connections.entries, e.2 = s.connections.at' e.1 := by
    intro e he
    rw [Multimap.at', AList.mem_lookup_iff.mpr he]
    rfl
  unfold allConnections
  refine List.nodup_flatMap.mpr ⟨fun e he => ?_, ?_⟩
  · rw [hat e he]
    exact h.registryOk.nodup e.1
  · have hkeys : s.connections.entries.Pairwise fun e e' => e.1 ≠ e'.1 :=
      s.connections.nodupKeys.pairwise_ne
    refine hkeys.imp_of_mem fun he he' hne client hmem hmem' => hne ?_
    dsimp only at hmem hmem'
    rw [hat _ he] at hmem
    rw [hat _ he'] at hmem'
    exact h.registryOk.once _ _ client hmem hmem'

/-- Infos that all serialize are all in the text. -/
theorem forall₂_filterMap_serialize {online : List FrontSubscriberInfo}
    (h : ∀ info ∈ online, ∃ entry, info.serialize.map Json.object = some entry) :
    List.Forall₂ (fun info entry => info.serialize.map Json.object = some entry) online
      (online.filterMap fun info => info.serialize.map Json.object) := by
  induction online with
  | nil => exact List.Forall₂.nil
  | cons info online ih =>
    obtain ⟨⟨entry, hentry⟩, honline⟩ := List.forall_mem_cons.mp h
    rw [List.filterMap_cons, hentry]
    exact List.Forall₂.cons hentry (ih honline)

/-- Where all is told, the three views are the same. -/
theorem Told.onlineExact {s : State} (h : Told s) : OnlineExact s := by
  have hregistered := h.registered
  have hserialize : ∀ info ∈ (allConnections s.connections).filterMap s.frontOf,
      ∃ entry, info.serialize.map Json.object = some entry := by
    intro info hinfo
    obtain ⟨client, -, hfront⟩ := List.mem_filterMap.mp hinfo
    obtain ⟨login, hlogin, rfl⟩ := Option.map_eq_some_iff.mp hfront
    rw [← Option.isSome_iff_exists, Option.isSome_map, FrontSubscriberInfo.isSome_serialize]
    exact h.valid client login hlogin
  refine ⟨⟨⟨↑(allConnections s.connections),
      Multiset.coe_nodup.mpr hregistered.nodup_allConnections⟩,
    fun client => hregistered.mem_allConnections_iff,
    h.replayed _ fun client => hregistered.mem_allConnections_iff, _,
    hregistered.getOnlineSubscribers_eq, rfl, fun sur dclient id info hsends => ?_,
    _, forall₂_filterMap_serialize hserialize, rfl⟩⟩
  -- The snapshot does not look at the place of the catchups.
  have hread : (reads getOnlineSubscribers).run
      { s with catchupEndpoint := ⟨info.catchupsHost, info.catchupsHttpRoot⟩ } =
      (.ok ((allConnections s.connections).filterMap s.frontOf),
        { s with catchupEndpoint := ⟨info.catchupsHost, info.catchupsHttpRoot⟩ }) := by
    rw [run_reads, ← hregistered.getOnlineSubscribers_eq]
    rfl
  unfold handleRequestClientPrepareService withParams setupCatchupsEndpoint
  rw [Bool.not_true, if_neg Bool.false_ne_true]
  dsimp only
  rw [run_bind_of_ok (run_modify _ _), run_bind_of_ok hread]
  unfold daemonReply write
  rw [if_pos hsends]
  rfl

/-! ### Runs -/

section

variable [Fastotv] {s : State}

/-- A login that the registry and the view stay exact with: the first one of its connection, with an
info that serializes. -/
def KeepsExact (s : State) (e : Event) : Prop :=
  ¬RepeatsLogin s e ∧ ∀ client info, Joins s client info e → info.front.isValid = true

/-- What the calls of the handlers do to the invariant. -/
def KeepsTold (s s' : State) : Prop := Told s → Told s'

instance : IsPreorder State KeepsTold where
  refl _ h := h
  trans _ _ _ h h' hs := h' (h hs)

theorem told_action {e : Event} (hs : Told s) (he : KeepsExact s e) :
    Told ((e.action).run s).2 := by
  have hhandler : ∀ s s', Quiet FromHandler s s' → KeepsTold s s' :=
    fun _ _ h hs => hs.of_quiet (fun _ => FromHandler.neutral) h
  have hclose : ∀ client, Within KeepsTold (closeAndDelete client) := by
    intro client s hs
    cases hc : s.clients client with
    | none =>
      rw [run_closeAndDelete_none hc]
      exact hs
    | some c =>
      rw [run_closeAndDelete hc]
      exact hs.leave hc
  refine within_event hhandler (fun client kind _ hc hs => ?_)
    (fun client info s₁ c hjoins hquiet hc hs₁ => ?_)
    (fun client s c hc hs => hs.leave hc) (fun client sur id params _ => ?_)
    (fun dclient sur id params _ hs => ?_) (fun db _ hs => ?_) hs
  · -- The new object has no login, as little as the place where it comes to.
    refine hs.congr rfl (fun other => ?_) rfl
    show (Function.update s.clients client (some (newClient kind)) other).bind Client.login = _
    unfold State.loginOf
    by_cases hne : other = client
    · subst hne
      rw [Function.update_self, hc]
      rfl
    · rw [Function.update_of_ne hne]
  · have hlogin := hquiet.registry.loginOf client
    rw [hjoins.notLogged he.1, State.loginOf, hc] at hlogin
    exact hs₁.join hc hlogin (he.2 client info hjoins)
  · exact within_handleRequestGenerateCatchup hhandler (hclose client)
      fun _ _ hs => hs.congr rfl (fun _ => rfl) rfl
  · refine hs.of_quiet (fun _ h => h) (keeps_handleRequestClientSendMessageForSubscriber
      (P := Neutral) (fun _ _ _ _ => rfl) (fun _ _ _ => rfl) s)
  · exact hs.congr rfl (fun _ => rfl) rfl

omit [Fastotv] in
theorem told_initial (db : Database) (endpoint : CatchupEndpointInfo) (epgUrl : Gurl)
    (lockedText : String) : Told (State.initial db endpoint epgUrl lockedText) where
  registered := registered_initial ..
  valid _ _ h := by cases h
  replayed logged hmem := by
    have hempty : logged = ∅ := Finset.eq_empty_of_forall_notMem fun client h =>
      (hmem client).mp h rfl
    rw [hempty]
    rfl

/-- In a run whose logins are first ones and serialize, the notifications, the snapshot and its text
say in every state who is logged in. -/
theorem online_view_exact (db : Database) (endpoint : CatchupEndpointInfo) (epgUrl : Gurl)
    (lockedText : String) (es : List Event)
    (hmeets : Meets step (fun o e => ∀ s, o = some s → KeepsExact s e)
      (some (State.initial db endpoint epgUrl lockedText)) es) (s : State)
    (hrun : run step (some (State.initial db endpoint epgUrl lockedText)) es = some s) :
    OnlineExact s := by
  have htold : ∀ s, run step (some (State.initial db endpoint epgUrl lockedText)) es = some s →
      Told s := by
    refine run_invariant (P := fun o => ∀ s, o = some s → Told s) (fun o e he ho s' hs' => ?_)
      hmeets ?_
    · cases o with
      | none => cases hs'
      | some s =>
        rw [step_eq_some hs']
        exact told_action (ho s rfl) (he s rfl)
    · intro s hs
      obtain rfl := Option.some.inj hs
      exact told_initial ..
  exact (htold s hrun).onlineExact

end

/-! Two connections of one subscriber, of which one is closed. -/

namespace Sample

/-- Two connections log in with two devices, and the first one is closed. -/
def twoConnections : List Event :=
  [.accept 7 .subscriber, .request 7 sur (loginRequest (oid 5)), .accept 8 .subscriber,
    .request 8 sur (loginRequest (oid 6)), .close 7]

/-- The first login of a connection. -/
theorem keepsExact_loginRequest {s : State} {client : ClientId} {o : Oid}
    (hlogin : s.loginOf client = none)
    (hvalid : ∀ info, ((clientLogin sur.toEnv ⟨⟨"a@b.c", "secret"⟩, o.text⟩).run s).1 = .ok info →
      info.front.isValid = true) : KeepsExact s (.request client sur (loginRequest o)) := by
  refine ⟨fun h => h.2.1 hlogin, fun other info h => ?_⟩
  obtain ⟨uauth, huauth, haccepted⟩ := h.2.2.accepted
  obtain rfl := Params.decoded.inj huauth
  exact hvalid info haccepted

end Sample

open Sample in
theorem online_view_exact_sample :
    ∃ s, run step (some start) twoConnections = some s ∧ OnlineExact s ∧
      replay s.sent = {⟨(oid 1).text, "a@b.c", (oid 6).text, 2000⟩} ∧
      ∃ s₄, run step (some start) (twoConnections.take 4) = some s₄ ∧
        replay s₄.sent = {⟨(oid 1).text, "a@b.c", (oid 5).text, 2000⟩,
          ⟨(oid 1).text, "a@b.c", (oid 6).text, 2000⟩} := by
  refine ⟨_, rfl, online_view_exact (Sample.database account [] List.nodup_nil) endpoint
    ⟨"http://epg", true⟩ "locked" twoConnections ?_ _ rfl, by decide, _, rfl, by decide⟩
  refine ⟨fun s _ => ⟨fun h => h.elim, fun _ _ h => h.elim⟩, fun s hs => ?_,
    fun s _ => ⟨fun h => h.elim, fun _ _ h => h.elim⟩, fun s hs => ?_,
    fun s _ => ⟨fun h => h.elim, fun _ _ h => h.elim⟩, trivial⟩
  · obtain rfl := Option.some.inj hs
    refine keepsExact_loginRequest rfl fun info hinfo => ?_
    obtain rfl := Outcome.ok.inj hinfo
    rfl
  · obtain rfl := Option.some.inj hs
    refine keepsExact_loginRequest rfl fun info hinfo => ?_
    obtain rfl := Outcome.ok.inj hinfo
    rfl

/-- Where nobody is logged in, nobody is online. -/
theorem OnlineExact.replay_eq_zero {s : State} (h : OnlineExact s)
    (hnone : ∀ client, s.loginOf client = none) : replay s.sent = 0 := by
  obtain ⟨logged, hmem, hreplay, -⟩ := h.exact
  have hempty : logged = ∅ := Finset.eq_empty_of_forall_notMem fun client h =>
    (hmem client).mp h (hnone client)
  rw [hreplay, hempty]
  rfl

open Sample in
/-- Two logins of one connection are told, and one end of it. -/
theorem online_view_not_exact :
    ∃ s, run step (some start) twoLogins = some s ∧ ¬OnlineExact s ∧
      (∀ client, s.loginOf client = none) ∧
      replay s.sent = {⟨(oid 1).text, "a@b.c", (oid 5).text, 2000⟩} := by
  obtain ⟨s, hrun, hnone, hreplay⟩ : ∃ s, run step (some start) twoLogins = some s ∧
      (∀ client, s.loginOf client = none) ∧
      replay s.sent = {⟨(oid 1).text, "a@b.c", (oid 5).text, 2000⟩} := by
    refine ⟨_, rfl, fun client => ?_, rfl⟩
    by_cases h : client = 7
    · subst h
      rfl
    · simp only [State.loginOf, Function.update_of_ne h]
      rfl
  refine ⟨s, hrun, fun h => ?_, hnone, hreplay⟩
  rw [h.replay_eq_zero hnone] at hreplay
  exact Multiset.singleton_ne_zero _ hreplay.symm

end LoadBalance
