import LoadBalance.Daemon.Service
import LoadBalance.Equiv.Connections

/-!
# The gate of the daemon

What an event of the service may do depends on whose event it is (`allowed`): only clients that were
verified set up the catchups, have texts shown and logs uploaded, and only they are told anything
but that a request of theirs failed or succeeded.  Every event keeps to what it is allowed, and
whoever is verified sent the configured key before (`daemon_gated`).
-/

namespace LoadBalance

open LoadBalance.Action

/-- The client is connected, and was verified. -/
def Service.Verified (s : Service) (dclient : ClientId) : Prop :=
  ∃ conn, s.dclients.lookup dclient = some conn ∧ conn.verified = true

/-- The replies that only a client gets that was verified. -/
def DaemonReply.IsGated : DaemonReply → Prop
  | .pong => True
  | .prepareServiceSuccess _ => True
  | .syncServiceSuccess => True
  | .getLogServiceSuccess => True
  | .getLogServiceFail _ => True
  | .sendSubscriberMessageSuccess => True
  | .sendSubscriberMessageFail _ => True
  | .stopSuccess => False
  | .activateSuccess _ => False
  | .activateFail _ => False

/-- What something may do to the service. -/
structure Permits where
  /-- Clients that may become verified. -/
  verifies : ClientId → Prop
  /-- The place of the catchups may change. -/
  prepares : Prop
  sends : Output → Prop
  writes : DaemonOutput → Prop
  /-- The service may be stopped. -/
  stops : Prop

/-- What is done to the service keeps to the permits. -/
structure Does (p : Permits) (s s' : Service) : Prop where
  licenseKey : s'.licenseKey = s.licenseKey
  verified : ∀ dclient, s'.Verified dclient → s.Verified dclient ∨ p.verifies dclient
  prepared : s'.catchupEndpoint = s.catchupEndpoint ∨ p.prepares
  sent : Appends p.sends s.toState s'.toState
  written : ∃ outs, s'.written = s.written ++ outs ∧ ∀ o ∈ outs, p.writes o
  stopped : s'.stopped = s.stopped ∨ p.stops

instance {p : Permits} : IsPreorder Service (Does p) where
  refl s := ⟨rfl, fun _ h => Or.inl h, Or.inl rfl, refl_of _ s.toState, ⟨[], by simp, by simp⟩,
    Or.inl rfl⟩
  trans s s' s'' h h' := by
    refine ⟨h'.licenseKey.trans h.licenseKey, fun dclient hd => ?_, ?_, trans_of _ h.sent h'.sent,
      ?_, ?_⟩
    · exact (h'.verified dclient hd).elim (h.verified dclient) Or.inr
    · exact h'.prepared.elim (fun he' => h.prepared.imp_left he'.trans) Or.inr
    · obtain ⟨outs, hwritten, houts⟩ := h.written
      obtain ⟨outs', hwritten', houts'⟩ := h'.written
      refine ⟨outs ++ outs', ?_, List.forall_mem_append.mpr ⟨houts, houts'⟩⟩
      rw [hwritten', hwritten, List.append_assoc]
    · exact h'.stopped.elim (fun he' => h.stopped.imp_left he'.trans) Or.inr

/-! ### The calls of the loop -/

section

variable {p : Permits} {dclient : ClientId} {conn : DaemonConnection} {sur : DaemonSurroundings}
  {id : RequestId}

/-- What is done to the state that the loops share keeps to the permits. -/
def Shares (p : Permits) (s s' : State) : Prop :=
  (s'.catchupEndpoint = s.catchupEndpoint ∨ p.prepares) ∧ Appends p.sends s s'

instance : IsPreorder State (Shares p) where
  refl s := ⟨Or.inl rfl, refl_of _ s⟩
  trans _ _ _ h h' :=
    ⟨h'.1.elim (fun he' => h.1.imp_left he'.trans) Or.inr, trans_of _ h.2 h'.2⟩

theorem Quiet.shares {s s' : State} (h : Quiet p.sends s s') : Shares p s s' :=
  ⟨Or.inl h.endpoint, h.sent⟩

theorem does_shared {α : Type} {x : Call α} (hx : Within (Shares p) x) :
    Within (Does p) (shared x) := fun s =>
  ⟨rfl, fun _ h => Or.inl h, (hx s.toState).1, (hx s.toState).2, ⟨[], by simp [shared, run_zoom],
    by simp⟩, Or.inl rfl⟩

theorem does_daemonReply {r : DaemonReply} (hr : p.sends (.daemonReply dclient id r)) :
    Within (Does p) (shared (daemonReply sur.toSurroundings dclient id r)) :=
  does_shared fun s => (keeps_write hr s).shares

theorem does_emit {o : DaemonOutput} (ho : p.writes o) : Within (Does p) (emit o) := fun s =>
  ⟨rfl, fun _ h => Or.inl h, Or.inl rfl, refl_of _ s.toState, ⟨[o], rfl, by simpa using ho⟩,
    Or.inl rfl⟩

theorem does_stopImpl (hstop : p.stops) : Within (Does p) stopImpl := fun s =>
  ⟨rfl, fun _ h => Or.inl h, Or.inl rfl, refl_of _ s.toState, ⟨[], by simp [stopImpl], by simp⟩,
    Or.inr hstop⟩

/-- A change of the connections, where those that are verified then were before, or may be. -/
theorem does_dclients {f : Service → AList fun _ : ClientId => DaemonConnection}
    (hf : ∀ (s : Service) (d : ClientId) (conn : DaemonConnection), (f s).lookup d = some conn →
      conn.verified = true → s.Verified d ∨ p.verifies d) :
    Within (Does p) (modify fun s => { s with dclients := f s } : ServiceCall Unit) := by
  intro s
  refine ⟨rfl, ?_, Or.inl rfl, refl_of _ s.toState, ⟨[], by simp, by simp⟩, Or.inl rfl⟩
  rintro d ⟨conn, hlookup, hverified⟩
  exact hf s d conn hlookup hverified

theorem does_closeDaemon : Within (Does p) (closeDaemon dclient) := by
  refine does_dclients fun s d conn hlookup hverified => Or.inl ?_
  by_cases hd : d = dclient
  · rw [hd, AList.lookup_erase] at hlookup
    cases hlookup
  · rw [AList.lookup_erase_ne hd] at hlookup
    exact ⟨conn, hlookup, hverified⟩

theorem does_assignDaemon {f : DaemonConnection → DaemonConnection}
    (hf : ∀ conn, (f conn).verified = true → conn.verified = true ∨ p.verifies dclient) :
    Within (Does p) (assignDaemon dclient f) := by
  intro s
  unfold assignDaemon
  rw [run_modify]
  cases hlookup : s.dclients.lookup dclient with
  | none => exact refl_of (Does p) s
  | some conn =>
    refine ⟨rfl, ?_, Or.inl rfl, refl_of _ s.toState, ⟨[], by simp, by simp⟩, Or.inl rfl⟩
    rintro d ⟨conn', hlookup', hverified⟩
    dsimp only at hlookup'
    rw [lookup_replace] at hlookup'
    split_ifs at hlookup' with hd
    · rw [hlookup, Option.map_some, Option.some.injEq] at hlookup'
      subst hlookup' hd
      exact (hf conn hverified).imp_left fun h => ⟨conn, hlookup, h⟩
    · exact Or.inl ⟨conn', hlookup', hverified⟩

end

/-! ### The dispatchers -/

section

variable [License] {p : Permits} {dclient : ClientId} {conn : DaemonConnection}
  {sur : DaemonSurroundings} {id : RequestId}

/-- The permits are those of a client whose request is handled: most of them it has only when it
was verified. -/
structure Serves (p : Permits) (dclient : ClientId) (conn : DaemonConnection) : Prop where
  replies : ∀ id r, ¬DaemonReply.IsGated r → p.sends (.daemonReply dclient id r)
  stopsLocal : License.isLocalHost conn.host = true → p.stops
  stops : conn.verified = true → p.stops
  gated : conn.verified = true → ∀ id r, p.sends (.daemonReply dclient id r)
  prepares : conn.verified = true → p.prepares
  notifies : conn.verified = true → ∀ connection notify, p.sends (.notification connection notify)
  uploads : conn.verified = true → ∀ url, p.writes (.upload url)

variable (hp : Serves p dclient conn)

include hp

theorem does_handleRequestClientStopService {params : Params Unit} :
    Within (Does p) (handleRequestClientStopService sur dclient conn id params) := by
  unfold handleRequestClientStopService
  split_ifs with hcheck
  · exact within_fail _
  have hstop : p.stops := by
    rw [Bool.and_eq_true, Bool.not_eq_true', Bool.not_eq_true', not_and_or, Bool.not_eq_false,
      Bool.not_eq_false] at hcheck
    exact hcheck.elim hp.stops hp.stopsLocal
  cases params with
  | absent => exact within_fail _
  | refused err => exact within_fail _
  | decoded _ =>
    refine within_bind (within_result (does_daemonReply (hp.replies _ _ fun h => h))) fun err => ?_
    refine within_bind (does_stopImpl hstop) fun _ => ?_
    split
    · exact within_fail _
    · exact within_pure _

theorem does_handleRequestClientPingService {params : Params Unit} : Within (Does p) (shared
    (handleRequestClientPingService sur.toSurroundings ⟨dclient, conn.verified⟩ id params)) := by
  refine does_shared ?_
  unfold handleRequestClientPingService
  cases hverified : conn.verified with
  | false => exact within_fail _
  | true =>
    exact within_withParams fun _ s => (keeps_write (hp.gated hverified _ _) s).shares

theorem does_handleRequestClientPrepareService {params : Params PrepareInfo} :
    Within (Does p) (shared
      (handleRequestClientPrepareService sur.toSurroundings ⟨dclient, conn.verified⟩ id
        params)) := by
  refine does_shared ?_
  unfold handleRequestClientPrepareService
  cases hverified : conn.verified with
  | false => exact within_fail _
  | true =>
    refine within_withParams fun stateInfo => within_bind (fun s => ?_) fun _ =>
      within_bind (within_reads _) fun clients => ?_
    · exact ⟨Or.inr (hp.prepares hverified), refl_of (Appends p.sends) s⟩
    · exact fun s => (keeps_write (hp.gated hverified _ _) s).shares

theorem does_handleRequestClientSyncService {params : Params Unit} : Within (Does p) (shared
    (handleRequestClientSyncService sur.toSurroundings ⟨dclient, conn.verified⟩ id params)) := by
  refine does_shared ?_
  unfold handleRequestClientSyncService
  cases hverified : conn.verified with
  | false => exact within_fail _
  | true =>
    exact within_withParams fun _ s => (keeps_write (hp.gated hverified _ _) s).shares

theorem does_handleRequestClientGetLogService {params : Params Gurl} :
    Within (Does p) (handleRequestClientGetLogService sur dclient conn id params) := by
  unfold handleRequestClientGetLogService
  cases hverified : conn.verified with
  | false => exact within_fail _
  | true =>
    have hfail : ∀ err, Within (Does p) (do
        attempt (shared (daemonReply sur.toSurroundings dclient id (.getLogServiceFail err)))
        fail err : ServiceCall Unit) := fun err =>
      within_bind (within_attempt (does_daemonReply (hp.gated hverified _ _))) fun _ =>
        within_fail _
    cases params with
    | absent => exact within_fail _
    | refused err => exact hfail err
    | decoded remoteLogPath =>
      dsimp only
      rw [Bool.not_true, if_neg Bool.false_ne_true]
      split_ifs
      · exact hfail _
      refine within_bind (does_emit (hp.uploads hverified _)) fun _ => ?_
      split
      · exact hfail _
      · exact does_daemonReply (hp.gated hverified _ _)

/-- The client becomes verified only with the configured key, when an expiry time is in it. -/
theorem does_handleRequestClientActivate {params : Params (Option String)} {s : Service}
    (hverifies : ∀ key tm, params = .decoded (some key) → s.licenseKey = some key →
      License.expireTimeFromKey key = some tm → p.verifies dclient) :
    Does p s ((Service.handleRequestClientActivate sur dclient id params).run s).2 := by
  have hfail : ∀ err, Within (Does p) (do
      attempt (shared (daemonReply sur.toSurroundings dclient id (.activateFail err)))
      fail err : ServiceCall Unit) := fun err =>
    within_bind (within_attempt (does_daemonReply (hp.replies _ _ fun h => h))) fun _ =>
      within_fail _
  unfold Service.handleRequestClientActivate
  cases params with
  | absent => exact within_fail _ s
  | refused err => exact hfail err s
  | decoded expireKey =>
    have hread : (reads fun s => .ok s.licenseKey : ServiceCall (Option String)).run s =
        (.ok s.licenseKey, s) := rfl
    dsimp only
    rw [run_bind_of_ok hread]
    split_ifs with hkey
    · exact hfail _ s
    rw [not_not] at hkey
    cases expireKey with
    | none => exact within_lift _ s
    | some key =>
      cases htm : License.expireTimeFromKey key with
      | none =>
        dsimp only
        rw [htm]
        exact hfail _ s
      | some tm =>
        dsimp only
        rw [htm]
        refine within_bind (does_daemonReply (hp.replies id (.activateSuccess _) fun h => h))
          (fun _ => ?_) s
        exact does_assignDaemon fun _ _ => Or.inr (hverifies key tm rfl hkey.symm htm)

variable [Fastotv]

theorem does_handleRequestServiceCommand {req : DaemonRequest} {s : Service}
    (hverifies : ∀ key tm, req.command = .activate (.decoded (some key)) →
      s.licenseKey = some key → License.expireTimeFromKey key = some tm → p.verifies dclient) :
    Does p s ((handleRequestServiceCommand sur dclient conn req).run s).2 := by
  obtain ⟨id, command⟩ := req
  unfold handleRequestServiceCommand
  cases command with
  | stopService params => exact does_handleRequestClientStopService hp s
  | pingService params => exact does_handleRequestClientPingService hp s
  | activate params =>
    exact does_handleRequestClientActivate hp fun key tm h => hverifies key tm (by rw [h])
  | prepareService params => exact does_handleRequestClientPrepareService hp s
  | syncService params => exact does_handleRequestClientSyncService hp s
  | getLogService params => exact does_handleRequestClientGetLogService hp s
  | sendMessage params =>
    refine does_shared (fun s => ?_) s
    exact (keeps_handleRequestClientSendMessageForSubscriber hp.notifies
      (fun h => hp.gated h id) s).shares
  | unknown => exact within_pure _ s

end

/-! ### One event -/

section

variable [Fastotv] [License] {s : Service}

/-- Something comes in from a client that was verified. -/
def FromVerified (s : Service) (e : ServiceEvent) : Prop :=
  ∃ dclient sur input, e = .received dclient sur input ∧ s.Verified dclient

/-- Something comes in from a client on this host. -/
def FromLocalHost (s : Service) (e : ServiceEvent) : Prop :=
  ∃ dclient sur input conn, e = .received dclient sur input ∧
    s.dclients.lookup dclient = some conn ∧ License.isLocalHost conn.host = true

/-- The client sends the configured key, in which an expiry time is. -/
def Activates (licenseKey : Option String) (dclient : ClientId) (e : ServiceEvent) : Prop :=
  ∃ sur id key tm, e = .received dclient sur (.request ⟨id, .activate (.decoded (some key))⟩) ∧
    licenseKey = some key ∧ License.expireTimeFromKey key = some tm

/-- What an event may do in a state: clients become verified by activation; the catchups are set up,
texts shown and logs uploaded for clients that were verified; they get the pongs, the snapshots and
whatever else is not an answer to an activation or a stop, and all the requests of the service; and
the service is stopped by them, from this host, or because of the license. -/
def allowed (s : Service) (e : ServiceEvent) : Permits where
  verifies dclient := Activates s.licenseKey dclient e
  prepares := FromVerified s e
  sends
    | .notification _ _ => FromVerified s e
    | .daemonReply dclient _ r => r.IsGated → s.Verified dclient
    | _ => True
  writes
    | .request dclient _ => s.Verified dclient
    | .upload _ => FromVerified s e
  stops := FromVerified s e ∨ FromLocalHost s e ∨ ∃ now, e = .licenseTimer now

/-- The other loops have nothing to do with the clients of the daemon, nor show texts. -/
theorem does_other {e : Event} (he : e.OfOtherLoop) :
    Does (allowed s (.other e he)) s ((shared e.action).run s).2 := by
  have hhandler : ∀ s₁ s₂, Quiet FromHandler s₁ s₂ → Shares (allowed s (.other e he)) s₁ s₂ := by
    refine fun s₁ s₂ h => (h.mono fun o ho => ?_).shares
    cases o <;> trivial
  have hnotice : ∀ s₁ s₂, Quiet Notice s₁ s₂ → Shares (allowed s (.other e he)) s₁ s₂ := by
    refine fun s₁ s₂ h => (h.mono fun o ho => ?_).shares
    cases o <;> trivial
  have hunsent : ∀ s₁ s₂ : State, s₂.catchupEndpoint = s₁.catchupEndpoint → s₂.sent = s₁.sent →
      Shares (allowed s (.other e he)) s₁ s₂ :=
    fun s₁ s₂ hendpoint hsent => ⟨Or.inl hendpoint, [], by simpa using hsent, by simp⟩
  have hevent : Shares (allowed s (.other e he)) s.toState ((e.action).run s.toState).2 := by
    refine within_event hhandler (fun client kind _ _ => hunsent _ _ rfl rfl)
      (fun client info s₁ c _ _ _ => ?_) (fun client s₁ c _ => ?_)
      (fun client sur id params _ => ?_) (fun dclient sur id params h => ?_)
      fun db _ => hunsent _ _ rfl rfl
    · exact trans_of (Shares _) (hunsent s₁ (s₁.register client info c) rfl rfl)
        (hnotice _ _ quiet_join)
    · exact trans_of (Shares _) (hunsent s₁ (s₁.remove client c) rfl rfl) (hnotice _ _ quiet_leave)
    · refine within_handleRequestGenerateCatchup hhandler
        (within_closeAndDelete hnotice fun s₁ c _ => hunsent _ _ rfl rfl) fun _ s₁ =>
          hunsent _ _ rfl rfl
    · subst h
      exact he.elim
  exact ⟨rfl, fun _ h => Or.inl h, hevent.1, hevent.2, ⟨[], by simp [shared, run_zoom], by simp⟩,
    Or.inl rfl⟩

omit [Fastotv] in
/-- What comes in from a client is served as far as the client was verified. -/
theorem serves_allowed {dclient : ClientId} {conn : DaemonConnection} {sur : DaemonSurroundings}
    {input : DaemonInput} (hlookup : s.dclients.lookup dclient = some conn) :
    Serves (allowed s (.received dclient sur input)) dclient conn := by
  have hfrom : conn.verified = true → FromVerified s (.received dclient sur input) :=
    fun h => ⟨dclient, sur, input, rfl, conn, hlookup, h⟩
  exact {
    replies := fun _ _ hr h => absurd h hr
    stopsLocal := fun h => Or.inr (Or.inl ⟨dclient, sur, input, conn, rfl, hlookup, h⟩)
    stops := fun h => Or.inl (hfrom h)
    gated := fun h _ _ _ => ⟨conn, hlookup, h⟩
    prepares := hfrom
    notifies := fun h _ _ => hfrom h
    uploads := fun h _ => hfrom h }

theorem does_received {dclient : ClientId} {conn : DaemonConnection} {sur : DaemonSurroundings}
    {input : DaemonInput} (hlookup : s.dclients.lookup dclient = some conn) :
    Does (allowed s (.received dclient sur input)) s
      ((daemonDataReceived sur dclient conn input).run s).2 := by
  cases input with
  | readError => exact does_closeDaemon s
  | unparsed => exact does_closeDaemon s
  | request req =>
    refine rel_attempt ?_
    refine does_handleRequestServiceCommand (serves_allowed hlookup)
      fun key tm hkey hlicense htm => ?_
    obtain ⟨id, command⟩ := req
    obtain rfl : command = .activate (.decoded (some key)) := hkey
    exact ⟨sur, id, key, tm, rfl, hlicense, htm⟩
  | response id =>
    refine within_attempt ?_ s
    unfold handleResponceServiceCommand
    split_ifs
    · exact within_fail _
    cases id with
    | none => exact within_lift _
    | some sid => exact does_assignDaemon fun _ h => Or.inl h

omit [Fastotv] in
/-- Broadcasts go to the clients that were verified. -/
theorem does_broadcastClients {e : ServiceEvent} {sur : Surroundings} {notice : DaemonNotice} :
    Does (allowed s e) s ((broadcastClients sur notice).run s).2 := by
  refine ⟨rfl, fun _ h => Or.inl h, Or.inl rfl, refl_of _ s.toState, ⟨_, rfl, fun o ho => ?_⟩,
    Or.inl rfl⟩
  obtain ⟨⟨dclient, conn⟩, hmem, rfl⟩ := List.mem_map.mp ho
  obtain ⟨hentry, hverified⟩ := List.mem_filter.mp hmem
  rw [Bool.and_eq_true] at hverified
  exact ⟨conn, AList.mem_lookup_iff.mpr hentry, hverified.1⟩

omit [Fastotv] [License] in
theorem does_pingClient {p : Permits} {sur : Surroundings} {ids : ClientId → String}
    {dclient : ClientId}
    (hwrites : s.Verified dclient → ∀ notice, p.writes (.request dclient notice)) :
    Does p s ((pingClient sur ids dclient).run s).2 := by
  unfold pingClient
  have hread : (reads fun s => .ok (s.dclients.lookup dclient) :
      ServiceCall (Option DaemonConnection)).run s = (.ok (s.dclients.lookup dclient), s) := rfl
  rw [run_bind_of_ok hread]
  cases hlookup : s.dclients.lookup dclient with
  | none => exact refl_of (Does p) s
  | some conn =>
    dsimp only
    split_ifs with hverified
    · refine within_bind (does_emit (hwrites ⟨conn, hlookup, hverified⟩ _)) (fun _ => ?_) s
      exact does_assignDaemon fun _ h => Or.inl h
    · exact does_closeDaemon s
    · exact refl_of (Does p) s

omit [Fastotv] [License] in
/-- The pings go to clients that were verified: on the way some are closed, but none becomes
verified. -/
theorem does_pingClients {p : Permits} {sur : Surroundings} {ids : ClientId → String}
    (hverifies : ∀ dclient, ¬p.verifies dclient) (l : List ClientId)
    (hwrites : ∀ dclient, s.Verified dclient → ∀ notice, p.writes (.request dclient notice)) :
    Does p s ((pingClients sur ids l).run s).2 := by
  induction l generalizing s with
  | nil => exact refl_of (Does p) s
  | cons dclient rest ih =>
    have hfirst : Does p s ((pingClient sur ids dclient).run s).2 :=
      does_pingClient (hwrites dclient)
    refine rel_bind hfirst fun _ s' hrun => ih fun d hd => hwrites d ?_
    rw [hrun] at hfirst
    exact (hfirst.verified d hd).resolve_right (hverifies d)

omit [Fastotv] in
theorem does_checkLicenseExpired {now : Timestamp} :
    Does (allowed s (.licenseTimer now)) s ((checkLicenseExpired now).run s).2 := by
  have hstop : Within (Does (allowed s (.licenseTimer now))) stopImpl :=
    does_stopImpl (Or.inr (Or.inr ⟨now, rfl⟩))
  unfold checkLicenseExpired
  refine within_bind (within_reads _) (fun licenseKey => ?_) s
  split
  · exact hstop
  · split
    · exact hstop
    · split_ifs
      · exact hstop
      · exact within_pure _

/-- Every event keeps to what it is allowed. -/
theorem does_allowed (e : ServiceEvent) : Does (allowed s e) s ((e.action).run s).2 := by
  unfold ServiceEvent.action
  rw [run_bind_of_ok (run_reads _ _)]
  cases e with
  | other e he => exact does_other he
  | accept dclient host =>
    dsimp only
    split_ifs with hnone
    · refine does_dclients (fun s d conn hlookup hverified => Or.inl ?_) s
      -- A new client was not verified.
      by_cases hd : d = dclient
      · rw [hd, AList.lookup_insert, Option.some.injEq] at hlookup
        rw [← hlookup] at hverified
        cases hverified
      · rw [AList.lookup_insert_ne hd] at hlookup
        exact ⟨conn, hlookup, hverified⟩
    · exact refl_of (Does _) s
  | received dclient sur input =>
    dsimp only
    split
    · exact does_received ‹_›
    · exact refl_of (Does _) s
  | close dclient => exact does_closeDaemon s
  | pingTimer sur ids =>
    refine does_pingClients (fun dclient h => ?_) _ fun dclient h _ => h
    obtain ⟨_, _, _, _, he, -⟩ := h
    cases he
  | statsTimer sur stats => exact does_broadcastClients
  | licenseTimer now => exact does_checkLicenseExpired
  | posted sur =>
    dsimp only
    split
    · refine rel_bind does_broadcastClients fun _ s' _ => ?_
      exact ⟨rfl, fun _ h => Or.inl h, Or.inl rfl, refl_of _ s'.toState, ⟨[], by simp, by simp⟩,
        Or.inl rfl⟩
    · exact refl_of (Does _) s

end

/-! ### Runs -/

section

variable [Fastotv] [License]

theorem serviceStep_eq_some_iff {s s' : Service} {e : ServiceEvent} :
    serviceStep (some s) e = some s' ↔
      ((e.action).run s).1.Returns ∧ s' = ((e.action).run s).2 := by
  unfold serviceStep
  rw [Option.bind_eq_bind, Option.bind_some]
  refine next_eq_some_iff (fun a s h => ?_) (fun err s h => ?_) fun s h => ?_
  · rw [h]
  · rw [h]
  · rw [h]

theorem licenseKey_run {start s : Service} {es : List ServiceEvent}
    (hrun : run serviceStep (some start) es = some s) : s.licenseKey = start.licenseKey := by
  refine run_invariant_some' (P := fun s => s.licenseKey = start.licenseKey) (fun _ => rfl)
    (fun s e s' hs' hs => ?_) hrun rfl
  rw [(serviceStep_eq_some_iff.mp hs').2, (does_allowed e).licenseKey]
  exact hs

/-- An earlier event of the run is the activation of the client, which has been verified since. -/
def ActivatedEarlier (start : Service) (es : List ServiceEvent) (dclient : ClientId) : Prop :=
  ∃ fs e gs, es = fs ++ e :: gs ∧ Activates start.licenseKey dclient e ∧
    ∀ hs, hs <+: gs → ∃ s, run serviceStep (some start) (fs ++ e :: hs) = some s ∧
      s.Verified dclient

/-- Whoever is verified was activated. -/
theorem activatedEarlier {start s : Service} {es : List ServiceEvent} {dclient : ClientId}
    (hstart : ¬start.Verified dclient) (hrun : run serviceStep (some start) es = some s)
    (hs : s.Verified dclient) : ActivatedEarlier start es dclient := by
  have hnot : ¬∃ s : Service, some start = some s ∧ s.Verified dclient := by
    rintro ⟨s, hs, hverified⟩
    obtain rfl := Option.some.inj hs
    exact hstart hverified
  have hend : ∃ s, run serviceStep (some start) es = some s ∧ s.Verified dclient := ⟨s, hrun, hs⟩
  obtain ⟨fs, e, gs, rfl, hfs, hgs⟩ := exists_onset
    (P := fun o => ∃ s : Service, o = some s ∧ s.Verified dclient) hnot hend
  refine ⟨fs, e, gs, rfl, ?_, hgs⟩
  -- The step in which the client became verified.
  obtain ⟨s₁, hs₁, hverified⟩ := hgs [] List.nil_prefix
  rw [run_concat] at hs₁
  cases hs₀ : run serviceStep (some start) fs with
  | none =>
    rw [hs₀] at hs₁
    cases hs₁
  | some s₀ =>
    rw [hs₀] at hs₁ hfs
    rw [(serviceStep_eq_some_iff.mp hs₁).2] at hverified
    rcases (does_allowed e).verified dclient hverified with hbefore | hactivates
    · exact absurd ⟨s₀, rfl, hbefore⟩ hfs
    · rw [← licenseKey_run hs₀]
      exact hactivates

/-- In every run, whoever is verified sent the configured key earlier, and whatever comes next
keeps to what it is allowed. -/
theorem daemon_gated (state : State) (licenseKey : Option String) (es : List ServiceEvent)
    (s : Service)
    (hrun : run serviceStep (some (Service.initial state licenseKey)) es = some s) :
    (∀ dclient, s.Verified dclient →
      ActivatedEarlier (Service.initial state licenseKey) es dclient) ∧
    ∀ e : ServiceEvent, Does (allowed s e) s ((e.action).run s).2 := by
  refine ⟨fun dclient hs => activatedEarlier ?_ hrun hs, does_allowed⟩
  rintro ⟨conn, hlookup, -⟩
  cases hlookup

end

/-! A client that asks for the snapshot before and after it sent the key. -/

namespace Sample

scoped instance license : License where
  expireTimeFromKey key := if key = "key" then some 2000 else none
  isLocalHost host := host.host = "localhost"
  schemeIsHttpOrHttps url := url.isValid

def service : Service := Service.initial start (some "key")

def daemonSur : DaemonSurroundings := { sur with stats := fun _ => "{}", upload := .ok () }

def prepareRequest : DaemonInput :=
  .request ⟨some "1", .prepareService (.decoded ⟨⟨"cdn", 80⟩, ⟨"/cdn"⟩⟩)⟩

def activation : List ServiceEvent :=
  [.accept 9 ⟨"example", 1⟩, .received 9 daemonSur prepareRequest,
    .received 9 daemonSur (.request ⟨some "2", .activate (.decoded (some "key"))⟩)]

end Sample

open Sample in
theorem daemon_gated_sample :
    ∃ s, run serviceStep (some service) activation = some s ∧
      ActivatedEarlier service activation 9 ∧
      Does (allowed s (.received 9 daemonSur prepareRequest)) s
        ((ServiceEvent.action (.received 9 daemonSur prepareRequest)).run s).2 ∧
      s.catchupEndpoint = endpoint ∧
      (((ServiceEvent.action (.received 9 daemonSur prepareRequest)).run s).2).catchupEndpoint =
        ⟨⟨"cdn", 80⟩, ⟨"/cdn"⟩⟩ := by
  have hgated := daemon_gated start (some "key") activation _ rfl
  exact ⟨_, rfl, hgated.1 9 ⟨_, rfl, rfl⟩, hgated.2 _, rfl, rfl⟩

end LoadBalance
