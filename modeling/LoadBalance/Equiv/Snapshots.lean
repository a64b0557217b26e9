import LoadBalance.Equiv.Delivery
import Mathlib.Algebra.BigOperators.Group.List.Basic
import Mathlib.Algebra.Order.Ring.Int
import Mathlib.Data.Finset.Card

/-!
# Snapshots and the broadcasts after them

A client of the daemon that asks for the snapshot of who is online, and from then on keeps to the
broadcasts that it gets, counts twice what was posted before the snapshot and is run after it.  With
`net` for what a list of broadcasts adds to the number of times that an info is online, its count is
off by the `net` of what was waiting at the snapshot, and by nothing else but what is waiting now
(`snapshot_drift`).
-/

namespace LoadBalance

open LoadBalance.Action

/-! ### What broadcasts add up to -/

/-- What a broadcast does to the number of times that an info is online. -/
def Broadcast.change (info : FrontSubscriberInfo) : Broadcast → ℤ
  | .subscriberConnected i => if i = info then 1 else 0
  | .subscriberDisConnected i => if i = info then -1 else 0
  | _ => 0

/-- What a list of broadcasts does to it. -/
def net (info : FrontSubscriberInfo) (bs : List Broadcast) : ℤ :=
  (bs.map (Broadcast.change info)).sum

theorem net_append (info : FrontSubscriberInfo) (bs bs' : List Broadcast) :
    net info (bs ++ bs') = net info bs + net info bs' := by
  unfold net
  rw [List.map_append, List.sum_append]

/-- The broadcasts that wait to be run. -/
def Service.waiting (s : Service) : List Broadcast := s.broadcasts.drop s.delivered

/-- A broadcast of which the view does not change does not count. -/
theorem change_of_neutral {b : Broadcast} (hb : Neutral (.broadcast b))
    (info : FrontSubscriberInfo) : b.change info = 0 := by
  cases b with
  | subscriberConnected i =>
    have hcons : i ::ₘ (0 : Multiset FrontSubscriberInfo) = 0 := hb 0
    exact absurd hcons Multiset.cons_ne_zero
  | subscriberDisConnected i =>
    have herase : ({i} : Multiset FrontSubscriberInfo).erase i = {i} := hb {i}
    rw [← Multiset.cons_zero, Multiset.erase_cons_head] at herase
    exact absurd herase Multiset.zero_ne_cons
  | catchupCreated serverid cat => rfl
  | contentRequestCreated request => rfl

theorem net_of_neutral {s s' : State} (h : Appends Neutral s s') (info : FrontSubscriberInfo) :
    net info s'.broadcasts = net info s.broadcasts := by
  obtain ⟨more, hmore, hall⟩ := h.broadcasts
  have hzero : net info more = 0 := by
    refine List.sum_eq_zero fun x hx => ?_
    obtain ⟨b, hb, rfl⟩ := List.mem_map.mp hx
    exact change_of_neutral (hall b hb) info
  rw [hmore, net_append, hzero, add_zero]

/-! ### The invariant -/

/-- What was posted adds up to the view, so no end of a connection was posted that had not been
logged in. -/
structure Tallied (s : State) : Prop where
  told : Told s
  tally : ∀ info, ((replay s.sent).count info : ℤ) = net info s.broadcasts

namespace Tallied

variable {s : State} (h : Tallied s) {client : ClientId} {c : Client} {info : ServerDBAuthInfo}

include h

theorem of_neutral {s' : State} (htold : Told s') (hsent : Appends Neutral s s') : Tallied s' where
  told := htold
  tally info := by rw [replay_of_neutral hsent, net_of_neutral hsent, h.tally]

theorem of_quiet {P : Output → Prop} {s' : State} (hP : ∀ o, P o → Neutral o)
    (hquiet : Quiet P s s') : Tallied s' :=
  h.of_neutral (h.told.of_quiet hP hquiet) (hquiet.sent.mono hP)

theorem join (hc : s.clients client = some c) (hlogin : c.login = none)
    (hvalid : info.front.isValid = true) : Tallied (s.join client info c) := by
  refine ⟨h.told.join hc hlogin hvalid, fun i => ?_⟩
  have hsent : (s.join client info c).sent =
      s.sent ++ [.broadcast (.subscriberConnected info.front)] := by
    show s.sent ++ notice .subscriberConnected info = _
    rw [notice, if_pos hvalid]
  have hreplay : replay (s.join client info c).sent = info.front ::ₘ replay s.sent := by
    rw [hsent, replay_append]
    rfl
  have hbroadcasts : (s.join client info c).broadcasts =
      s.broadcasts ++ [.subscriberConnected info.front] := by
    unfold State.broadcasts
    rw [hsent, List.filterMap_append]
    rfl
  have hone : net i [.subscriberConnected info.front] = if info.front = i then 1 else 0 :=
    add_zero _
  rw [hreplay, hbroadcasts, net_append, hone, ← h.tally, Multiset.count_cons]
  by_cases hi : i = info.front
  · rw [if_pos hi, if_pos hi.symm]
    push_cast
    rfl
  · rw [if_neg hi, if_neg (Ne.symm hi)]
    push_cast
    rfl

/-- Whoever is logged in is in the view. -/
theorem mem_replay (hlogin : s.loginOf client = some info) : info.front ∈ replay s.sent := by
  obtain ⟨logged, hmem, hreplay, -⟩ := h.told.onlineExact.exact
  rw [hreplay, Multiset.mem_filterMap]
  refine ⟨client, (hmem client).mpr ?_, ?_⟩
  · rw [hlogin]
    exact Option.some_ne_none info
  · rw [State.frontOf, hlogin]
    rfl

theorem leave (hc : s.clients client = some c) : Tallied (s.leave client c) := by
  have htold := h.told.leave hc
  cases hcl : c.login with
  | none =>
    -- A connection without a login ends unnoticed.
    have hsent : (s.leave client c).sent = s.sent := by simp [State.leave, State.remove, hcl]
    exact h.of_neutral htold ⟨[], by rw [hsent, List.append_nil], by simp⟩
  | some login =>
    have hlogin : s.loginOf client = some login := by
      rw [State.loginOf, hc]
      exact hcl
    have hvalid := h.told.valid client login hlogin
    have hsent : (s.leave client c).sent =
        s.sent ++ [.broadcast (.subscriberDisConnected login.front)] := by
      have happend : (s.leave client c).sent =
          s.sent ++ notice .subscriberDisConnected login := by
        simp [State.leave, State.remove, hcl]
      rw [happend, notice, if_pos hvalid]
    have hreplay : replay (s.leave client c).sent = (replay s.sent).erase login.front := by
      rw [hsent, replay_append]
      rfl
    have hbroadcasts : (s.leave client c).broadcasts =
        s.broadcasts ++ [.subscriberDisConnected login.front] := by
      unfold State.broadcasts
      rw [hsent, List.filterMap_append]
      rfl
    refine ⟨htold, fun i => ?_⟩
    have hone : net i [.subscriberDisConnected login.front] =
        if login.front = i then -1 else 0 := add_zero _
    rw [hreplay, hbroadcasts, net_append, hone, ← h.tally]
    by_cases hi : i = login.front
    · subst hi
      have hpos : 0 < (replay s.sent).count login.front :=
        Multiset.count_pos.mpr (h.mem_replay hlogin)
      rw [Multiset.count_erase_self, if_pos rfl]
      omega
    · rw [Multiset.count_erase_of_ne hi, if_neg (Ne.symm hi), add_zero]

/-- The snapshot has each info as many times as was posted. -/
theorem getOnlineSubscribers : ∃ online, LoadBalance.getOnlineSubscribers s = .ok online ∧
    ∀ info, (online.count info : ℤ) = net info s.broadcasts := by
  obtain ⟨logged, -, hreplay, online, honline, heq, -⟩ := h.told.onlineExact.exact
  refine ⟨online, honline, fun info => ?_⟩
  rw [← h.tally, hreplay, ← heq, Multiset.coe_count]

end Tallied

/-! ### Runs -/

section

variable [Fastotv]

/-- What the calls of the handlers do to the invariant. -/
def KeepsTallied (s s' : State) : Prop := Tallied s → Tallied s'

instance : IsPreorder State KeepsTallied where
  refl _ h := h
  trans _ _ _ h h' hs := h' (h hs)

theorem tallied_action {s : State} {e : Event} (hs : Tallied s) (he : KeepsExact s e) :
    Tallied ((e.action).run s).2 := by
  have hhandler : ∀ s s', Quiet FromHandler s s' → KeepsTallied s s' :=
    fun _ _ h hs => hs.of_quiet (fun _ => FromHandler.neutral) h
  have hclose : ∀ client, Within KeepsTallied (closeAndDelete client) := by
    intro client s hs
    cases hc : s.clients client with
    | none =>
      rw [run_closeAndDelete_none hc]
      exact hs
    | some c =>
      rw [run_closeAndDelete hc]
      exact hs.leave hc
  have htold := told_action hs.told he
  refine within_event (R := KeepsTallied) hhandler (fun client kind heq hc hs => ?_)
    (fun client info s₁ c hjoins hquiet hc hs₁ => ?_) (fun client s c hc hs => hs.leave hc)
    (fun client sur id params _ => ?_) (fun dclient sur id params _ hs => ?_)
    (fun db heq hs => ?_) hs
  · -- Nothing is posted when a connection is accepted.
    subst heq
    refine hs.of_neutral ?_ ⟨[], (List.append_nil _).symm, by simp⟩
    rwa [run_action_accept hc] at htold
  · have hlogin := hquiet.registry.loginOf client
    rw [hjoins.notLogged he.1, State.loginOf, hc] at hlogin
    exact hs₁.join hc hlogin (he.2 client info hjoins)
  · refine within_handleRequestGenerateCatchup hhandler (hclose client) fun s streams hs => ?_
    exact hs.of_neutral (hs.told.congr rfl (fun _ => rfl) rfl)
      ⟨[], (List.append_nil _).symm, by simp⟩
  · exact hs.of_quiet (fun _ h => h) (keeps_handleRequestClientSendMessageForSubscriber
      (P := Neutral) (fun _ _ _ _ => rfl) (fun _ _ _ => rfl) _)
  · subst heq
    exact hs.of_neutral htold ⟨[], (List.append_nil _).symm, by simp⟩

end

section

variable [Fastotv] [License] {s s' : Service} {e : ServiceEvent}

/-- Logins in the other loops are first ones, and serialize. -/
def ServiceEvent.KeepsExact (s : Service) : ServiceEvent → Prop
  | .other e _ => LoadBalance.KeepsExact s.toState e
  | _ => True

theorem tallied_serviceEvent (hs : Tallied s.toState) (he : e.KeepsExact s) :
    Tallied ((e.action).run s).2.toState := by
  by_cases hother : ∃ e' he', e = .other e' he'
  · obtain ⟨e', he', rfl⟩ := hother
    exact tallied_action hs he
  · have htells := onlyTells_serviceEvent (fun e' he' heq => hother ⟨e', he', heq⟩) s
    have hneutral : Appends Neutral s.toState ((e.action).run s).2.toState := by
      refine htells.sent.mono fun o ho => ?_
      cases o <;> first | exact fun _ => rfl | exact ho.elim
    refine hs.of_neutral (hs.told.congr htells.connections (fun client => ?_)
      (replay_of_neutral hneutral)) hneutral
    rw [State.loginOf, State.loginOf, htells.clients]

theorem tallied_run {start : Service} (hstart : Tallied start.toState) {es : List ServiceEvent}
    (hmeets : Meets serviceStep (fun o e => ∀ s, o = some s → e.KeepsExact s) (some start) es)
    (hrun : run serviceStep (some start) es = some s) : Tallied s.toState := by
  refine run_invariant_some (P := fun s => Tallied s.toState) (fun _ => rfl)
    (fun s e s' he hs' hs => ?_) hmeets hrun hstart
  rw [(serviceStep_eq_some_iff.mp hs').2]
  exact tallied_serviceEvent hs he

/-- The client asks for the snapshot. -/
def snapshotRequest (dclient : ClientId) (sur : DaemonSurroundings) (id : RequestId)
    (info : PrepareInfo) : ServiceEvent :=
  .received dclient sur (.request ⟨id, .prepareService (.decoded info)⟩)

/-- A client that was verified gets it. -/
theorem sent_snapshotRequest {dclient : ClientId} {sur : DaemonSurroundings} {id : RequestId}
    {info : PrepareInfo} (hs : Told s.toState) (hverified : s.Verified dclient)
    (hsends : sur.sends dclient = true) {online : List FrontSubscriberInfo}
    (honline : getOnlineSubscribers s.toState = .ok online) :
    (((snapshotRequest dclient sur id info).action.run s).2).sent =
      s.sent ++ [.daemonReply dclient id (.prepareServiceSuccess ⟨online⟩)] := by
  obtain ⟨conn, hlookup, hconn⟩ := hverified
  obtain ⟨-, -, -, online', honline', -, hreply, -⟩ := hs.onlineExact.exact
  obtain rfl := Outcome.ok.inj (honline.symm.trans honline')
  have hrun : ((snapshotRequest dclient sur id info).action.run s).2.toState =
      ((handleRequestClientPrepareService sur.toSurroundings ⟨dclient, conn.verified⟩ id
        (.decoded info)).run s.toState).2 := by
    unfold snapshotRequest ServiceEvent.action
    rw [run_bind_of_ok (run_reads _ _)]
    dsimp only
    rw [hlookup]
    exact rel_attempt (R := fun _ t : Service => t.toState = ((handleRequestClientPrepareService
      sur.toSurroundings ⟨dclient, conn.verified⟩ id (.decoded info)).run s.toState).2) rfl
  rw [hrun, hconn]
  exact hreply sur.toSurroundings dclient id info hsends

omit [Fastotv] [License] in
/-- What was run since a time and what still waits is what waited at that time and was posted
since. -/
theorem runSince_append_waiting {n : ℕ} (hn : n ≤ s.delivered) :
    s.runSince n ++ s.waiting = s.broadcasts.drop n := by
  have hdrop : s.waiting = (s.broadcasts.drop n).drop (s.delivered - n) := by
    unfold Service.waiting
    rw [List.drop_drop, Nat.add_sub_cancel' hn]
  unfold Service.runSince
  rw [hdrop, List.drop_take, List.take_append_drop]

omit [Fastotv] [License] in
/-- The snapshot of a registry that is in order has an info once for each connection that is logged
in with it. -/
theorem count_getOnlineSubscribers {s : State} (h : Registered s)
    {online : List FrontSubscriberInfo} (honline : getOnlineSubscribers s = .ok online)
    (info : FrontSubscriberInfo) :
    ∃ logged : Finset ClientId, (∀ client, client ∈ logged ↔ s.frontOf client = some info) ∧
      online.count info = logged.card := by
  rw [h.getOnlineSubscribers_eq] at honline
  obtain rfl := Outcome.ok.inj honline
  refine ⟨((allConnections s.connections).filter fun client =>
    s.frontOf client == some info).toFinset, fun client => ?_, ?_⟩
  · rw [List.mem_toFinset, List.mem_filter, beq_iff_eq, h.mem_allConnections_iff]
    refine and_iff_right_of_imp fun hfront hnone => ?_
    rw [State.frontOf, hnone] at hfront
    cases hfront
  · rw [List.count_filterMap, List.countP_eq_length_filter,
      List.toFinset_card_of_nodup (h.nodup_allConnections.filter _)]

/-- A client that was verified gets the snapshot `online`, and from then on hears each broadcast
that is run.  At any later time, its count of an info is the number of connections that are logged
in with it, off by what was waiting at the snapshot and what is waiting now. -/
theorem snapshot_drift (db : Database) (endpoint : CatchupEndpointInfo) (epgUrl : Gurl)
    (lockedText : String) (licenseKey : Option String) (es fs : List ServiceEvent) (s s' : Service)
    (dclient : ClientId) (sur : DaemonSurroundings) (id : RequestId) (prepare : PrepareInfo)
    (hrun : run serviceStep (some (Service.initial
      (State.initial db endpoint epgUrl lockedText) licenseKey)) es = some s)
    (hrun' : run serviceStep (some s) (snapshotRequest dclient sur id prepare :: fs) = some s')
    (hexact : Meets serviceStep (fun o e => ∀ s, o = some s → e.KeepsExact s)
      (some (Service.initial (State.initial db endpoint epgUrl lockedText) licenseKey))
      (es ++ snapshotRequest dclient sur id prepare :: fs))
    (hverified : s.Verified dclient) (hsends : sur.sends dclient = true)
    (hheard : Meets serviceStep (fun o e => ∀ t, o = some t → e.HeardBy dclient t) (some s)
      (snapshotRequest dclient sur id prepare :: fs)) :
    ∃ online got online', (((snapshotRequest dclient sur id prepare).action.run s).2).sent =
        s.sent ++ [.daemonReply dclient id (.prepareServiceSuccess ⟨online⟩)] ∧
      s'.receivedBy dclient = s.receivedBy dclient ++ got ∧
      getOnlineSubscribers s'.toState = .ok online' ∧
      ∀ info, ∃ logged : Finset ClientId,
        (∀ client, client ∈ logged ↔ s'.frontOf client = some info) ∧
        online'.count info = logged.card ∧
        (online.count info : ℤ) + net info got =
          logged.card + net info s.waiting - net info s'.waiting := by
  have hinitial : Tallied (Service.initial
      (State.initial db endpoint epgUrl lockedText) licenseKey).toState :=
    ⟨told_initial db endpoint epgUrl lockedText, fun info => rfl⟩
  obtain ⟨hbefore, hafter⟩ := meets_append.mp hexact
  rw [hrun] at hafter
  have hs := tallied_run hinitial hbefore hrun
  have hs' := tallied_run hs hafter hrun'
  obtain ⟨online, honline, hcount⟩ := hs.getOnlineSubscribers
  obtain ⟨online', honline', hcount'⟩ := hs'.getOnlineSubscribers
  have hrefines := exists_refines_run _ licenseKey hrun
  obtain ⟨got, hgot, -, hall⟩ := exists_got hrefines hrun' dclient
  obtain ⟨⟨more, hmore⟩, hdelivered⟩ := broadcasts_prefix_run hrefines hrun'
  refine ⟨online, got, online', sent_snapshotRequest hs.told hverified hsends honline, hgot,
    honline', fun info => ?_⟩
  have hgotten : net info got + net info s'.waiting = net info s.waiting + net info more := by
    rw [hall.mpr hheard, ← net_append, runSince_append_waiting hdelivered, ← hmore,
      List.drop_append_of_le_length (delivered_le hrefines), net_append]
    rfl
  have hposted : net info s'.broadcasts = net info s.broadcasts + net info more := by
    rw [← hmore, net_append]
  obtain ⟨logged, hlogged, hcard⟩ :=
    count_getOnlineSubscribers hs'.told.registered honline' info
  refine ⟨logged, hlogged, hcard, ?_⟩
  rw [← hcard, hcount, hcount', hposted]
  omega

end

namespace Sample

/-- A client of the daemon is verified, and a subscriber logs in. -/
def loginWaiting : List ServiceEvent :=
  activation ++ [.other (.accept 7 .subscriber) trivial,
    .other (.request 7 sur (loginRequest (oid 5))) trivial]

def snapshot : ServiceEvent := snapshotRequest 9 daemonSur (some "3") ⟨⟨"cdn", 80⟩, ⟨"/cdn"⟩⟩

def ann : FrontSubscriberInfo := ⟨(oid 1).text, "a@b.c", (oid 5).text, 2000⟩

theorem keepsExact_loginWaiting :
    Meets serviceStep (fun o e => ∀ s, o = some s → e.KeepsExact s) (some service)
      (loginWaiting ++ [snapshot, .posted sur]) := by
  refine And.intro ?_ (And.intro ?_ (And.intro ?_ (And.intro ?_ (And.intro ?_ (And.intro ?_
    (And.intro ?_ trivial))))))
  · exact fun _ _ => trivial
  · exact fun _ _ => trivial
  · exact fun _ _ => trivial
  · exact fun _ _ => ⟨fun h => h.elim, fun _ _ h => h.elim⟩
  · intro s hs
    obtain rfl := Option.some.inj hs
    refine ⟨fun h => h.2.1 rfl, fun client info h => ?_⟩
    obtain ⟨uauth, huauth, haccepted⟩ := h.2.2.accepted
    obtain rfl := Params.decoded.inj huauth
    obtain rfl := Outcome.ok.inj haccepted
    rfl
  · exact fun _ _ => trivial
  · exact fun _ _ => trivial

end Sample

open Sample in
/-- The login was posted before the snapshot and is run after it: one connection is counted
twice. -/
theorem snapshot_drift_sample :
    ∃ s s', run serviceStep (some service) loginWaiting = some s ∧
      run serviceStep (some s) [snapshot, .posted sur] = some s' ∧
      getOnlineSubscribers s'.toState = .ok [ann] ∧
      ∃ online got, ((snapshot.action.run s).2).sent =
          s.sent ++ [.daemonReply 9 (some "3") (.prepareServiceSuccess ⟨online⟩)] ∧
        s'.receivedBy 9 = s.receivedBy 9 ++ got ∧
        (online.count ann : ℤ) + net ann got = 2 ∧
        ∃ logged : Finset ClientId,
          (∀ client, client ∈ logged ↔ s'.frontOf client = some ann) ∧ logged.card = 1 := by
  refine ⟨_, _, rfl, rfl, rfl, ?_⟩
  obtain ⟨online, got, online', hsent, hgot, honline', hdrift⟩ := snapshot_drift
    (Sample.database account [] List.nodup_nil) endpoint ⟨"http://epg", true⟩ "locked" (some "key")
    loginWaiting [.posted sur] _ _ 9 daemonSur (some "3") ⟨⟨"cdn", 80⟩, ⟨"/cdn"⟩⟩ rfl rfl
    keepsExact_loginWaiting ⟨_, rfl, rfl⟩ rfl
    (And.intro (fun _ _ => trivial) (And.intro
      (fun s hs => Option.some.inj hs ▸ fun _ => ⟨⟨_, rfl, rfl⟩, rfl⟩) trivial))
  refine ⟨online, got, hsent, hgot, ?_⟩
  obtain rfl : [ann] = online' := Outcome.ok.inj honline'
  obtain ⟨logged, hlogged, hcard, hcount⟩ := hdrift ann
  have hone : logged.card = 1 := hcard.symm
  rw [hone] at hcount
  exact ⟨hcount.trans rfl, logged, hlogged, hone⟩

end LoadBalance
