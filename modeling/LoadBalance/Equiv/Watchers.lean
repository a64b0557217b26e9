import LoadBalance.Equiv.Online
import LoadBalance.Equiv.RequestEffects
import Mathlib.Data.Finset.Card

/-!
# The watchers of a stream

Who asks for the info of a channel is told how many watch it, and becomes one of them.  The number
is taken from the map of the connections before that, and without a look at who asks: so it is the
number of the others exactly when the connection does not watch the stream already, and the map has
the connections that do, each once (`watchers_right_iff`).  The latter holds as long as no
connection logs in a second time.
-/

namespace LoadBalance

open LoadBalance.Action

/-! ### Watchers -/

/-- The connection is open and logged in, and the stream is current on it. -/
def State.Watches (s : State) (sid : StreamId) (client : ClientId) : Prop :=
  s.loginOf client ≠ none ∧ s.positionOf client = some sid

/-- The number of the connections that watch a stream, other than one. -/
def WatchedByOthers (s : State) (sid : StreamId) (client : ClientId) (n : ℕ) : Prop :=
  ∃ others : Finset ClientId,
    (∀ other, other ∈ others ↔ other ≠ client ∧ s.Watches sid other) ∧ n = others.card

/-- Whoever goes through the map for the watchers of a stream meets objects only, and those on which
the stream is current once each, logged in. -/
structure WatchersListed (s : State) (sid : StreamId) : Prop where
  objects : ∀ client ∈ allConnections s.connections, s.clients client ≠ none
  logged : ∀ client ∈ allConnections s.connections, s.positionOf client = some sid →
    s.loginOf client ≠ none
  once : ((allConnections s.connections).filter fun client =>
    s.positionOf client = some sid).Nodup

/-- Without a repeated login it is so. -/
theorem Registered.watchersListed {s : State} (h : Registered s) (sid : StreamId) :
    WatchersListed s sid where
  objects client hmem hnone := by
    refine h.mem_allConnections_iff.mp hmem ?_
    rw [State.loginOf, hnone]
    rfl
  logged _ hmem _ := h.mem_allConnections_iff.mp hmem
  once := h.nodup_allConnections.filter _

/-! ### Whoever is logged in is in the map -/

/-- The invariant, which also repeated logins keep. -/
def LoginsListed (s : State) : Prop :=
  ∀ client login, s.loginOf client = some login → client ∈ s.connections.at' login.uid

theorem LoginsListed.congr {s s' : State} (h : LoginsListed s)
    (hconnections : s'.connections = s.connections)
    (hlogin : ∀ client, s'.loginOf client = s.loginOf client) : LoginsListed s' := by
  intro client login hlogged
  rw [hconnections]
  rw [hlogin] at hlogged
  exact h client login hlogged

theorem LoginsListed.of_quiet {P : Output → Prop} {s s' : State} (h : LoginsListed s)
    (hquiet : Quiet P s s') : LoginsListed s' :=
  h.congr hquiet.registry.connections hquiet.registry.loginOf

/-- A login appends its pointer, and takes none away. -/
theorem LoginsListed.register {s : State} (h : LoginsListed s) (client : ClientId)
    (info : ServerDBAuthInfo) (c : Client) : LoginsListed (s.register client info c) := by
  intro other login hlogged
  show other ∈ (s.connections.push info.uid client).at' login.uid
  rw [Multimap.at_push]
  by_cases hne : other = client
  · subst hne
    have hself : (s.register other info c).loginOf other = some info := by
      simp [State.register, State.loginOf]
    obtain rfl := Option.some.inj (hself.symm.trans hlogged)
    rw [if_pos rfl]
    simp
  · have hsame : (s.register client info c).loginOf other = s.loginOf other := by
      simp [State.register, State.loginOf, hne]
    have hmem := h other login (hsame.symm.trans hlogged)
    split_ifs with huid
    · rw [huid] at hmem
      exact List.mem_append_left _ hmem
    · exact hmem

/-- The end of a connection takes a pointer to it out, and none to another one. -/
theorem LoginsListed.remove {s : State} (h : LoginsListed s) (client : ClientId) (c : Client) :
    LoginsListed (s.remove client c) := by
  intro other login hlogged
  have hne : other ≠ client := by
    rintro rfl
    simp [State.remove, State.loginOf] at hlogged
  have hsame : (s.remove client c).loginOf other = s.loginOf other := by
    simp [State.remove, State.loginOf, hne]
  have hmem := h other login (hsame.symm.trans hlogged)
  unfold State.remove
  cases c.login with
  | none => exact hmem
  | some sinf =>
    dsimp only
    rw [Multimap.at_eraseFirst]
    split_ifs with huid
    · rw [huid] at hmem
      exact (List.mem_erase_of_ne hne).mpr hmem
    · exact hmem

section

variable [Fastotv] {s : State}

/-- What the calls of the handlers do to the invariant. -/
def KeepsListed (s s' : State) : Prop := LoginsListed s → LoginsListed s'

instance : IsPreorder State KeepsListed where
  refl _ h := h
  trans _ _ _ h h' hs := h' (h hs)

/-- Every event keeps the invariant. -/
theorem loginsListed_action {e : Event} (hs : LoginsListed s) :
    LoginsListed ((e.action).run s).2 := by
  have hquiet : ∀ s s', Quiet FromHandler s s' → KeepsListed s s' :=
    fun _ _ h hs => hs.of_quiet h
  have hclose : ∀ client, Within KeepsListed (closeAndDelete client) := fun _ =>
    within_closeAndDelete (fun _ _ h hs => hs.of_quiet h) fun _ _ _ hs => hs.remove _ _
  refine within_event hquiet (fun client kind _ hc hs => ?_)
    (fun client info s₁ c _ _ _ hs₁ => ?_) (fun client s c _ hs => ?_)
    (fun client sur id params _ => ?_) (fun dclient sur id params _ hs => ?_) (fun db _ hs => ?_) hs
  · -- The new object has no login, as little as the place where it comes to.
    refine hs.congr rfl fun other => ?_
    show (Function.update s.clients client (some (newClient kind)) other).bind Client.login = _
    unfold State.loginOf
    by_cases hne : other = client
    · subst hne
      rw [Function.update_self, hc]
      rfl
    · rw [Function.update_of_ne hne]
  · exact (hs₁.register client info c).of_quiet quiet_join
  · exact (hs.remove client c).of_quiet quiet_leave
  · exact within_handleRequestGenerateCatchup hquiet (hclose client)
      fun _ _ hs => hs.congr rfl fun _ => rfl
  · exact hs.of_quiet (keeps_handleRequestClientSendMessageForSubscriber (P := Anything)
      (fun _ _ _ => trivial) (fun _ _ => trivial) s)
  · exact hs.congr rfl fun _ => rfl

theorem loginsListed_run (db : Database) (endpoint : CatchupEndpointInfo) (epgUrl : Gurl)
    (lockedText : String) (es : List Event)
    (hrun : run step (some (State.initial db endpoint epgUrl lockedText)) es = some s) :
    LoginsListed s := by
  refine run_invariant_some' (fun _ => rfl) (fun s e s' hs' hs => ?_) hrun fun _ _ h => nomatch h
  rw [step_eq_some hs']
  exact loginsListed_action hs

/-! ### The number -/

/-- The pointers to objects on which a stream is current. -/
def watchersInMap (s : State) (sid : StreamId) : List ClientId :=
  (allConnections s.connections).filter fun client => s.positionOf client = some sid

omit [Fastotv] in
theorem mem_watchersInMap {sid : StreamId} {client : ClientId} :
    client ∈ watchersInMap s sid ↔
      client ∈ allConnections s.connections ∧ s.positionOf client = some sid := by
  unfold watchersInMap
  rw [List.mem_filter, decide_eq_true_iff]

omit [Fastotv] in
/-- Where all pointers are to objects, the loop counts those to watchers. -/
theorem getAndUpdateOnlineUserByStreamID_eq_ok (sid : StreamId)
    (h : ∀ client ∈ allConnections s.connections, s.clients client ≠ none) :
    getAndUpdateOnlineUserByStreamID s sid = .ok (watchersInMap s sid).length := by
  unfold getAndUpdateOnlineUserByStreamID watchersInMap
  rw [derefAll_eq_ok h, Outcome.ok_bind, Outcome.pure_eq_ok, List.countP_filterMap,
    List.countP_eq_length_filter]
  congr 2
  refine List.filter_congr fun client hmem => ?_
  obtain ⟨c, hc⟩ := Option.ne_none_iff_exists'.mp (h client hmem)
  unfold State.positionOf
  rw [hc]
  simp

omit [Fastotv] in
/-- A list with the elements of a set has at least as many as the set, and no more exactly when it
has no others, and each once. -/
theorem card_eq_length_iff {others : Finset ClientId} {l : List ClientId}
    (hsub : ∀ client ∈ others, client ∈ l) :
    l.length = others.card ↔ (∀ client ∈ l, client ∈ others) ∧ l.Nodup := by
  have hsubset : others ⊆ l.toFinset := fun client hmem => List.mem_toFinset.mpr (hsub client hmem)
  have hle := Finset.card_le_card hsubset
  have hlength := List.toFinset_card_le l
  constructor
  · intro heq
    have hsame : others = l.toFinset := Finset.eq_of_subset_of_card_le hsubset (by omega)
    refine ⟨fun client hmem => hsame ▸ List.mem_toFinset.mpr hmem, ?_⟩
    rw [← Multiset.coe_nodup, ← Multiset.toFinset_card_eq_card_iff_nodup, Multiset.coe_card]
    show l.toFinset.card = l.length
    omega
  · rintro ⟨hall, hnodup⟩
    have hsame : l.toFinset ⊆ others := fun client hmem => hall client (List.mem_toFinset.mp hmem)
    have hge := Finset.card_le_card hsame
    rw [List.toFinset_card_of_nodup hnodup] at hge hle
    omega

omit [Fastotv] in
/-- The pointers are as many as the other watchers exactly when they are to these, and each once. -/
theorem watchedByOthers_length_iff (hlisted : LoginsListed s) {sid : StreamId} {client : ClientId}
    (hlogin : s.loginOf client ≠ none)
    (hobjects : ∀ client ∈ allConnections s.connections, s.clients client ≠ none) :
    WatchedByOthers s sid client (watchersInMap s sid).length ↔
      WatchersListed s sid ∧ s.positionOf client ≠ some sid := by
  have hmem : ∀ other, s.Watches sid other → other ∈ watchersInMap s sid := by
    rintro other ⟨hlogged, hposition⟩
    obtain ⟨login, hlogged⟩ := Option.ne_none_iff_exists'.mp hlogged
    exact mem_watchersInMap.mpr ⟨mem_allConnections.mpr ⟨_, hlisted other login hlogged⟩, hposition⟩
  constructor
  · rintro ⟨others, hothers, hlength⟩
    obtain ⟨hall, hnodup⟩ := (card_eq_length_iff fun other h =>
      hmem other ((hothers other).mp h).2).mp hlength
    refine ⟨⟨hobjects, fun other hother hposition => ?_, hnodup⟩, fun hposition => ?_⟩
    · exact ((hothers other).mp (hall other (mem_watchersInMap.mpr ⟨hother, hposition⟩))).2.1
    · exact ((hothers client).mp (hall client (hmem client ⟨hlogin, hposition⟩))).1 rfl
  · rintro ⟨hmap, hposition⟩
    refine ⟨(watchersInMap s sid).toFinset, fun other => ?_,
      (List.toFinset_card_of_nodup hmap.once).symm⟩
    rw [List.mem_toFinset]
    constructor
    · intro hother
      obtain ⟨hpointer, hcurrent⟩ := mem_watchersInMap.mp hother
      refine ⟨?_, hmap.logged other hpointer hcurrent, hcurrent⟩
      rintro rfl
      exact hposition hcurrent
    · exact fun h => hmem other h.2

/-! ### The request -/

variable {sur : Surroundings} {client : ClientId}

/-- The request for the info of a channel is answered with the number of the other watchers. -/
def AnswersWatchers (s : State) (sur : Surroundings) (client : ClientId) (id : RequestId)
    (sid : StreamId) : Prop :=
  ∃ s' n, step (some s) (.request client sur ⟨id, .getRuntimeChannelInfo (.decoded sid)⟩) =
      some s' ∧
    s'.sent = s.sent ++ [.reply client id (.getRuntimeChannelInfoSuccess sid n)] ∧
    WatchedByOthers s sid client n

/-- What the request does, by what the loop gives. -/
theorem step_getRuntimeChannelInfo {c : Client} (id : RequestId) (sid : StreamId)
    (hc : s.clients client = some c) (hkind : c.kind = .subscriber) (hlogin : c.login ≠ none)
    (hsends : sur.sends client = true) :
    step (some s) (.request client sur ⟨id, .getRuntimeChannelInfo (.decoded sid)⟩) =
      match getAndUpdateOnlineUserByStreamID s sid with
      | .ok n => some { s with
          clients := Function.update s.clients client (some { c with currentStreamId := sid })
          sent := s.sent ++ [.reply client id (.getRuntimeChannelInfoSuccess sid n)] }
      | .error _ => some s
      | .abort => none := by
  obtain ⟨auth, hauth⟩ := Option.ne_none_iff_exists'.mp hlogin
  have hopen : (s.clients client).any (fun c => c.kind = .subscriber) = true := by
    rw [hc]
    exact decide_eq_true hkind
  have hrun : ((Event.request client sur
      ⟨id, .getRuntimeChannelInfo (.decoded sid)⟩).action).run s =
        ((reads fun s => getAndUpdateOnlineUserByStreamID s sid : Call ℕ) >>= fun n => do
          assign client fun c => { c with currentStreamId := sid }
          reply sur client id (.getRuntimeChannelInfoSuccess sid n)).run s :=
    (run_action_request hopen).trans (run_withLogin_of_some hc hauth)
  rw [run_bind, run_reads] at hrun
  cases hn : getAndUpdateOnlineUserByStreamID s sid with
  | ok n =>
    rw [hn] at hrun
    dsimp only at hrun
    rw [run_bind_of_ok (run_assign hc _), reply, write, if_pos hsends] at hrun
    rw [step_of_returns (by rw [hrun]; trivial), hrun]
    rfl
  | error _ =>
    rw [hn] at hrun
    rw [step_of_returns (by rw [hrun]; trivial), hrun]
  | abort =>
    rw [hn] at hrun
    exact step_of_abort (by rw [hrun])

/-- In every reachable state the number that is told is that of the other watchers exactly when the
connection is none itself and the map has each of them once, which it does in a run without a
repeated login. -/
theorem watchers_right_iff (db : Database) (endpoint : CatchupEndpointInfo) (epgUrl : Gurl)
    (lockedText : String) (es : List Event) (s : State)
    (hrun : run step (some (State.initial db endpoint epgUrl lockedText)) es = some s)
    (sur : Surroundings) (client : ClientId) (id : RequestId) (sid : StreamId)
    (hopen : (s.clients client).any (fun c => c.kind = .subscriber) = true)
    (hlogin : s.loginOf client ≠ none) (hsends : sur.sends client = true) :
    (AnswersWatchers s sur client id sid ↔
      WatchersListed s sid ∧ s.positionOf client ≠ some sid) ∧
    (Meets step (fun o e => ∀ s, o = some s → ¬RepeatsLogin s e)
        (some (State.initial db endpoint epgUrl lockedText)) es → WatchersListed s sid) := by
  have hlisted := loginsListed_run db endpoint epgUrl lockedText es hrun
  obtain ⟨c, hc, hkind⟩ := (Option.any_eq_true _ _).mp hopen
  have hclogin : c.login ≠ none := by
    rwa [State.loginOf, hc] at hlogin
  have hstep := step_getRuntimeChannelInfo id sid hc (of_decide_eq_true hkind) hclogin hsends
  refine ⟨?_, fun hmeets => (registered_run (registered_initial ..) hmeets hrun).watchersListed sid⟩
  unfold AnswersWatchers
  rw [hstep]
  by_cases hobjects : ∀ client ∈ allConnections s.connections, s.clients client ≠ none
  · rw [getAndUpdateOnlineUserByStreamID_eq_ok sid hobjects,
      ← watchedByOthers_length_iff hlisted hlogin hobjects]
    constructor
    · rintro ⟨s', n, hs', hsent, hn⟩
      obtain rfl := Option.some.inj hs'
      obtain rfl : (watchersInMap s sid).length = n := by simpa using hsent
      exact hn
    · exact fun hn => ⟨_, _, rfl, rfl, hn⟩
  · -- A pointer to nothing is the end of the process.
    refine iff_of_false ?_ fun h => hobjects h.1.objects
    push Not at hobjects
    obtain ⟨other, hmem, hnone⟩ := hobjects
    have habort : getAndUpdateOnlineUserByStreamID s sid = .abort := by
      unfold getAndUpdateOnlineUserByStreamID
      rw [derefAll_eq_abort hmem hnone]
      rfl
    rw [habort]
    rintro ⟨s', n, hs', -⟩
    cases hs'

end

/-! Two connections that ask for the info of one stream, and one that asks twice. -/

namespace Sample

/-- The one is a watcher before the other asks. -/
def askedBefore : List Event :=
  twoConnections.take 4 ++ [.request 8 sur ⟨some "2", .getRuntimeChannelInfo (.decoded "news")⟩]

/-- The first time it becomes a watcher. -/
def askingTwice : List Event :=
  twoLogins.take 2 ++ [.request 7 sur ⟨some "2", .getRuntimeChannelInfo (.decoded "news")⟩]

end Sample

open Sample in
theorem watchers_right_iff_sample :
    ∃ s, run step (some start) askedBefore = some s ∧
      ((AnswersWatchers s Sample.sur 7 (some "3") "news" ↔
          WatchersListed s "news" ∧ s.positionOf 7 ≠ some "news") ∧
        (Meets step (fun o e => ∀ s, o = some s → ¬RepeatsLogin s e) (some start)
          askedBefore → WatchersListed s "news")) ∧
      ∃ s', step (some s) (.request 7 Sample.sur
          ⟨some "3", .getRuntimeChannelInfo (.decoded "news")⟩) = some s' ∧
        s'.sent = s.sent ++ [.reply 7 (some "3") (.getRuntimeChannelInfoSuccess "news" 1)] :=
  ⟨_, rfl, watchers_right_iff (Sample.database account [] List.nodup_nil) endpoint
    ⟨"http://epg", true⟩ "locked" askedBefore _ rfl Sample.sur 7 (some "3") "news" (by decide)
    (by decide) rfl, _, rfl, rfl⟩

open Sample in
/-- The second time it is told of itself. -/
theorem own_watch_counted :
    ¬ ∀ (db : Database) (endpoint : CatchupEndpointInfo) (epgUrl : Gurl) (lockedText : String)
      (es : List Event) (s : State),
      run step (some (State.initial db endpoint epgUrl lockedText)) es = some s →
      ∀ (sur : Surroundings) (client : ClientId) (id : RequestId) (sid : StreamId),
        (s.clients client).any (fun c => c.kind = .subscriber) = true → s.loginOf client ≠ none →
        sur.sends client = true → AnswersWatchers s sur client id sid := by
  intro h
  obtain ⟨s', n, hs', hsent, others, hothers, hn⟩ :=
    h (Sample.database account [] List.nodup_nil) endpoint ⟨"http://epg", true⟩ "locked"
      askingTwice _ rfl Sample.sur 7 (some "3") "news" (by decide) (by decide) rfl
  obtain rfl : 1 = n := by
    obtain rfl := Option.some.inj hs'
    simpa using hsent
  -- Nobody else is there.
  have hempty : others = ∅ := by
    refine Finset.eq_empty_of_forall_notMem fun other hother => ?_
    obtain ⟨hne, hlogged, -⟩ := (hothers other).mp hother
    refine hlogged ?_
    simp only [State.loginOf, Function.update_of_ne hne]
    rfl
  rw [hempty] at hn
  exact absurd hn (by decide)

end LoadBalance
