import LoadBalance.Daemon.Equiv.Config
import LoadBalance.Equiv.Activation
import LoadBalance.Equiv.DaemonLoop

/-!
# What stops the daemon

Only two things stop the service: a tick of the timer at which its license does not hold, and a
request of a client that was verified or is on this host (`Stops`).  Whatever else happens in a
run, it is stopped exactly when one of them happened (`stopped_iff`).  A daemon whose file has no
valid license key verifies no client and is stopped by the first tick (`unlicensed_run`).
-/

namespace LoadBalance

open LoadBalance.Action

section

variable [License]

/-- The license lets the service run at that time. -/
def LicenseHolds (licenseKey : Option String) (now : Timestamp) : Prop :=
  ∃ key tm, licenseKey = some key ∧ License.expireTimeFromKey key = some tm ∧ now ≤ tm

/-- A client that was verified, or is on this host. -/
def Service.MayStop (s : Service) (dclient : ClientId) : Prop :=
  ∃ conn, s.dclients.lookup dclient = some conn ∧
    (conn.verified = true ∨ License.isLocalHost conn.host = true)

/-- The request of a client to stop the service. -/
def stopRequest (dclient : ClientId) (sur : DaemonSurroundings) (id : RequestId) : ServiceEvent :=
  .received dclient sur (.request ⟨id, .stopService (.decoded ())⟩)

/-- What is a reason to stop in a state. -/
def Stops (s : Service) (e : ServiceEvent) : Prop :=
  (∃ now, e = .licenseTimer now ∧ ¬LicenseHolds s.licenseKey now) ∨
    ∃ dclient sur id, e = stopRequest dclient sur id ∧ s.MayStop dclient

end

/-! ### What does not stop it -/

/-- The service is stopped iff it was. -/
def KeepsRunning (s s' : Service) : Prop := s'.stopped = s.stopped

instance : IsPreorder Service KeepsRunning where
  refl _ := rfl
  trans _ _ _ h h' := h'.trans h

section

variable {sur : DaemonSurroundings} {dclient : ClientId} {conn : DaemonConnection} {id : RequestId}

theorem keepsRunning_shared {α : Type} {x : Call α} : Within KeepsRunning (shared x) := fun _ => rfl

theorem keepsRunning_closeDaemon : Within KeepsRunning (closeDaemon dclient) := fun _ => rfl

theorem keepsRunning_emit {o : DaemonOutput} : Within KeepsRunning (emit o) := fun _ => rfl

theorem keepsRunning_assignDaemon {f : DaemonConnection → DaemonConnection} :
    Within KeepsRunning (assignDaemon dclient f) := by
  intro s
  unfold assignDaemon
  rw [run_modify]
  cases s.dclients.lookup dclient <;> rfl

theorem keepsRunning_pingClients {sur : Surroundings} {ids : ClientId → String}
    (l : List ClientId) : Within KeepsRunning (pingClients sur ids l) := by
  induction l with
  | nil => exact within_pure _
  | cons dclient rest ih =>
    refine within_bind ?_ fun _ => ih
    unfold pingClient
    refine within_bind (within_reads _) fun conn => ?_
    split
    · split_ifs
      · exact within_bind keepsRunning_emit fun _ => keepsRunning_assignDaemon
      · exact keepsRunning_closeDaemon
      · exact within_pure _
    · exact within_pure _

/-- A refusal with a reply. -/
theorem keepsRunning_refuse (r : DaemonReply) (err : Error) :
    Within KeepsRunning (do
      attempt (shared (daemonReply sur.toSurroundings dclient id r))
      fail err : ServiceCall Unit) :=
  within_bind (within_attempt keepsRunning_shared) fun _ => within_fail _

variable [License]

theorem keepsRunning_handleRequestClientActivate {params : Params (Option String)} :
    Within KeepsRunning (Service.handleRequestClientActivate sur dclient id params) := by
  unfold Service.handleRequestClientActivate
  split
  · exact within_fail _
  · exact keepsRunning_refuse _ _
  refine within_bind (within_reads _) fun licenseKey => ?_
  split_ifs
  · exact keepsRunning_refuse _ _
  split
  · exact within_lift _
  split
  · exact keepsRunning_refuse _ _
  · exact within_bind keepsRunning_shared fun _ => keepsRunning_assignDaemon

theorem keepsRunning_handleRequestClientGetLogService {params : Params Gurl} :
    Within KeepsRunning (handleRequestClientGetLogService sur dclient conn id params) := by
  unfold handleRequestClientGetLogService
  dsimp only
  split_ifs
  · exact within_fail _
  split
  · exact within_fail _
  · exact keepsRunning_refuse _ _
  split_ifs
  · exact keepsRunning_refuse _ _
  refine within_bind keepsRunning_emit fun _ => ?_
  split
  · exact keepsRunning_refuse _ _
  · exact keepsRunning_shared

variable [Fastotv]

/-- Of what comes in only the request to stop stops the service. -/
theorem keepsRunning_daemonDataReceived {input : DaemonInput}
    (hinput : ∀ id, input ≠ .request ⟨id, .stopService (.decoded ())⟩) :
    Within KeepsRunning (daemonDataReceived sur dclient conn input) := by
  cases input with
  | readError => exact keepsRunning_closeDaemon
  | unparsed => exact keepsRunning_closeDaemon
  | request req =>
    refine within_attempt ?_
    obtain ⟨id, command⟩ := req
    unfold handleRequestServiceCommand
    cases command with
    | stopService params =>
      dsimp only
      unfold handleRequestClientStopService
      split_ifs
      · exact within_fail _
      cases params with
      | absent => exact within_fail _
      | refused err => exact within_fail _
      | decoded _ => exact absurd rfl (hinput id)
    | pingService params => exact keepsRunning_shared
    | activate params => exact keepsRunning_handleRequestClientActivate
    | prepareService params => exact keepsRunning_shared
    | syncService params => exact keepsRunning_shared
    | getLogService params => exact keepsRunning_handleRequestClientGetLogService
    | sendMessage params => exact keepsRunning_shared
    | unknown => exact within_pure _
  | response id =>
    refine within_attempt ?_
    unfold handleResponceServiceCommand
    split_ifs
    · exact within_fail _
    cases id with
    | none => exact within_lift _
    | some sid => exact keepsRunning_assignDaemon

end

/-! ### One event -/

section

variable [Fastotv] [License] {s s' : Service}

omit [Fastotv] in
/-- A request to stop is obeyed when the client may make it, also when the reply is not taken. -/
theorem stopped_handleRequestClientStopService (sur : DaemonSurroundings) (dclient : ClientId)
    (conn : DaemonConnection) (id : RequestId) :
    ((handleRequestClientStopService sur dclient conn id (.decoded ())).run s).2.stopped = true ↔
      s.stopped = true ∨ conn.verified = true ∨ License.isLocalHost conn.host = true := by
  unfold handleRequestClientStopService
  split_ifs with hcheck
  · rw [Bool.and_eq_true, Bool.not_eq_true', Bool.not_eq_true'] at hcheck
    simp [hcheck]
  · have hmay : conn.verified = true ∨ License.isLocalHost conn.host = true := by
      rw [Bool.and_eq_true, Bool.not_eq_true', Bool.not_eq_true', not_and_or, Bool.not_eq_false,
        Bool.not_eq_false] at hcheck
      exact hcheck
    -- Whatever comes of the reply is only kept for the end.
    obtain ⟨err, s₁, hreply⟩ : ∃ err s₁,
        (result (shared (daemonReply sur.toSurroundings dclient id .stopSuccess))).run s =
          (.ok err, s₁) := by
      rw [run_result]
      unfold daemonReply write
      by_cases hsends : sur.sends dclient = true
      · rw [if_pos hsends]
        exact ⟨_, _, rfl⟩
      · rw [if_neg hsends]
        exact ⟨_, _, rfl⟩
    refine iff_of_true ?_ (Or.inr hmay)
    dsimp only
    rw [run_bind_of_ok hreply]
    cases err <;> rfl

theorem stopped_stopRequest {dclient : ClientId} {sur : DaemonSurroundings} {id : RequestId} :
    (((stopRequest dclient sur id).action).run s).2.stopped = true ↔
      s.stopped = true ∨ s.MayStop dclient := by
  unfold stopRequest ServiceEvent.action
  rw [run_bind_of_ok (run_reads _ _)]
  dsimp only
  cases hlookup : s.dclients.lookup dclient with
  | none =>
    have hnot : ¬s.MayStop dclient := by
      rintro ⟨conn, hconn, -⟩
      cases hlookup.symm.trans hconn
    simp [hnot]
  | some conn =>
    have hmay : s.MayStop dclient ↔
        conn.verified = true ∨ License.isLocalHost conn.host = true := by
      constructor
      · rintro ⟨conn', hconn, h⟩
        obtain rfl := Option.some.inj (hlookup.symm.trans hconn)
        exact h
      · exact fun h => ⟨conn, hlookup, h⟩
    rw [hmay]
    rw [← stopped_handleRequestClientStopService sur dclient conn id]
    have hattempt : ∀ x : ServiceCall Unit, ((attempt x).run s).2 = (x.run s).2 := by
      intro x
      rw [run_attempt]
      rcases x.run s with ⟨_ | _ | _, s'⟩ <;> rfl
    exact iff_of_eq (congrArg (fun s' : Service => s'.stopped = true) (hattempt _))

theorem stopped_licenseTimer {now : Timestamp} :
    (((ServiceEvent.licenseTimer now).action).run s).2.stopped = true ↔
      s.stopped = true ∨ ¬LicenseHolds s.licenseKey now := by
  unfold ServiceEvent.action checkLicenseExpired
  have hread : (reads fun s => .ok s.licenseKey : ServiceCall (Option String)).run s =
      (.ok s.licenseKey, s) := rfl
  have hstopped : (stopImpl.run s).2.stopped = true := rfl
  rw [run_bind_of_ok (run_reads _ _)]
  dsimp only
  rw [run_bind_of_ok hread]
  unfold LicenseHolds
  cases hkey : s.licenseKey with
  | none => simp [hstopped]
  | some key =>
    cases htm : License.expireTimeFromKey key with
    | none => simp [hstopped, htm]
    | some tm =>
      dsimp only
      rw [htm]
      by_cases hexpired : tm < now
      · simp [hstopped, htm, hexpired]
      · simp [htm, hexpired, Int64.not_lt.mp hexpired]

/-- An event stops the service exactly when it is a reason to. -/
theorem stopped_serviceStep {e : ServiceEvent} (h : serviceStep (some s) e = some s') :
    s'.stopped = true ↔ s.stopped = true ∨ Stops s e := by
  obtain ⟨-, rfl⟩ := serviceStep_eq_some_iff.mp h
  -- What is no reason leaves the service as it is.
  have hkeeps (hstops : ¬Stops s e) (hkeep : KeepsRunning s ((e.action).run s).2) :
      ((e.action).run s).2.stopped = true ↔ s.stopped = true ∨ Stops s e := by
    rw [hkeep]
    exact (or_iff_left hstops).symm
  cases e with
  | other e he => exact hkeeps (by simp [Stops, stopRequest]) rfl
  | accept dclient host =>
    refine hkeeps (by simp [Stops, stopRequest]) ?_
    unfold ServiceEvent.action
    rw [run_bind_of_ok (run_reads _ _)]
    dsimp only
    split_ifs
    · rfl
    · rfl
  | received dclient sur input =>
    by_cases hstop : ∃ id, input = .request ⟨id, .stopService (.decoded ())⟩
    · obtain ⟨id, rfl⟩ := hstop
      refine stopped_stopRequest.trans (or_congr_right ⟨fun h => Or.inr ⟨_, _, _, rfl, h⟩, ?_⟩)
      rintro (⟨now, he, -⟩ | ⟨dclient', sur', id', he, h⟩)
      · cases he
      · obtain ⟨rfl, -, -⟩ := ServiceEvent.received.inj he
        exact h
    · refine hkeeps ?_ ?_
      · rintro (⟨now, he, -⟩ | ⟨dclient', sur', id', he, -⟩)
        · cases he
        · exact hstop ⟨id', (ServiceEvent.received.inj he).2.2⟩
      · unfold ServiceEvent.action
        rw [run_bind_of_ok (run_reads _ _)]
        dsimp only
        cases s.dclients.lookup dclient with
        | none => rfl
        | some conn => exact keepsRunning_daemonDataReceived (fun id h => hstop ⟨id, h⟩) s
  | close dclient => exact hkeeps (by simp [Stops, stopRequest]) rfl
  | pingTimer sur ids =>
    exact hkeeps (by simp [Stops, stopRequest]) (keepsRunning_pingClients s.dclients.keys s)
  | statsTimer sur stats => exact hkeeps (by simp [Stops, stopRequest]) rfl
  | licenseTimer now =>
    rw [stopped_licenseTimer]
    refine or_congr_right ⟨fun h => Or.inl ⟨now, rfl, h⟩, ?_⟩
    rintro (⟨now', he, h⟩ | ⟨dclient, sur, id, he, -⟩)
    · obtain rfl := ServiceEvent.licenseTimer.inj he
      exact h
    · cases he
  | posted sur =>
    refine hkeeps (by simp [Stops, stopRequest]) ?_
    cases hnext : s.broadcasts[s.delivered]? with
    | none =>
      rw [run_posted_none hnext]
      exact refl_of KeepsRunning s
    | some b =>
      rw [run_posted hnext]
      rfl

/-! ### Runs -/

/-- A service that runs is stopped by the first reason to. -/
theorem stopped_run_iff {start s : Service} {es : List ServiceEvent}
    (hstart : start.stopped = false) (hrun : run serviceStep (some start) es = some s) :
    s.stopped = true ↔ (∃ now, .licenseTimer now ∈ es ∧ ¬LicenseHolds start.licenseKey now) ∨
      ∃ fs dclient sur id gs s₀, es = fs ++ stopRequest dclient sur id :: gs ∧
        run serviceStep (some start) fs = some s₀ ∧ s₀.MayStop dclient := by
  rw [run_latch (fun _ => rfl) (fun s e s' => stopped_serviceStep) hrun, hstart]
  constructor
  · rintro (hstart | ⟨fs, e, gs, s₀, rfl, hs₀, ⟨now, rfl, hlicense⟩ | ⟨dclient, sur, id, rfl, hmay⟩⟩)
    · cases hstart
    · exact Or.inl ⟨now, by simp, licenseKey_run hs₀ ▸ hlicense⟩
    · exact Or.inr ⟨fs, dclient, sur, id, gs, s₀, rfl, hs₀, hmay⟩
  · rintro (⟨now, hmem, hlicense⟩ | ⟨fs, dclient, sur, id, gs, s₀, rfl, hs₀, hmay⟩)
    · -- The run gets to the tick, for it gets to its end.
      obtain ⟨fs, gs, rfl⟩ := List.append_of_mem hmem
      obtain ⟨s₀, hs₀, -⟩ := exists_run_of_append (fun _ => rfl) hrun
      refine Or.inr ⟨fs, _, gs, s₀, rfl, hs₀, Or.inl ⟨now, rfl, ?_⟩⟩
      rwa [licenseKey_run hs₀]
    · exact Or.inr ⟨fs, _, gs, s₀, rfl, hs₀, Or.inr ⟨dclient, sur, id, rfl, hmay⟩⟩

/-- **Why the service is stopped.**  After whatever has happened, the daemon that was made with a
configuration is stopped exactly when its license did not hold at one of the ticks, or a client that
was verified by then, or is on this host, asked for it; then it stays stopped. -/
theorem stopped_iff (config : Config) (db : Database) (endpoint : CatchupEndpointInfo)
    (es : List ServiceEvent) (s : Service)
    (hrun : run serviceStep (some (Service.ofConfig config db endpoint)) es = some s) :
    s.stopped = true ↔
      (∃ now, .licenseTimer now ∈ es ∧ ¬LicenseHolds config.licenseKey now) ∨
      ∃ fs dclient sur id gs s₀, es = fs ++ stopRequest dclient sur id :: gs ∧
        run serviceStep (some (Service.ofConfig config db endpoint)) fs = some s₀ ∧
        s₀.MayStop dclient :=
  stopped_run_iff rfl hrun

/-- What anyone may be sent. -/
def Output.IsPlain : Output → Prop
  | .notification _ _ => False
  | .daemonReply _ _ r => ¬r.IsGated
  | _ => True

/-- Without a license nothing comes of what the clients of the daemon ask for. -/
structure Unlicensed (endpoint : CatchupEndpointInfo) (s : Service) : Prop where
  licenseKey : s.licenseKey = none
  verified : ∀ dclient, ¬s.Verified dclient
  endpoint : s.catchupEndpoint = endpoint
  written : s.written = []
  sent : ∀ o ∈ s.sent, o.IsPlain

theorem Unlicensed.step {endpoint : CatchupEndpointInfo} {e : ServiceEvent}
    (h : Unlicensed endpoint s) (hstep : serviceStep (some s) e = some s') :
    Unlicensed endpoint s' := by
  obtain ⟨-, rfl⟩ := serviceStep_eq_some_iff.mp hstep
  have hdoes := does_allowed (s := s) e
  have hfrom : ¬FromVerified s e := by
    rintro ⟨dclient, -, -, -, hverified⟩
    exact h.verified dclient hverified
  obtain ⟨outs, hwritten, houts⟩ := hdoes.written
  obtain ⟨sent, hsent, hsends⟩ := hdoes.sent
  refine ⟨hdoes.licenseKey.trans h.licenseKey, fun dclient hverified => ?_,
    (hdoes.prepared.resolve_right hfrom).trans h.endpoint, ?_, fun o ho => ?_⟩
  · -- There is no key that could be sent.
    refine (hdoes.verified dclient hverified).elim (h.verified dclient) ?_
    rintro ⟨sur, id, key, tm, -, hkey, -⟩
    cases h.licenseKey.symm.trans hkey
  · have hnone : outs = [] := by
      refine List.eq_nil_iff_forall_not_mem.mpr fun o ho => ?_
      cases o with
      | request dclient notice => exact h.verified dclient (houts _ ho)
      | upload url => exact hfrom (houts _ ho)
    rw [hwritten, h.written, hnone, List.append_nil]
  · rw [hsent] at ho
    refine (List.mem_append.mp ho).elim (h.sent o) fun ho => ?_
    have hallowed := hsends o ho
    cases o with
    | notification connection notify => exact hfrom hallowed
    | daemonReply dclient id r => exact fun hgated => h.verified dclient (hallowed hgated)
    | reply client id r => trivial
    | response client response => trivial
    | broadcast b => trivial
    | opened client path => trivial
    | closed client path => trivial

theorem unlicensed_serviceRun {endpoint : CatchupEndpointInfo} {start : Service}
    {es : List ServiceEvent} (hstart : Unlicensed endpoint start)
    (hrun : run serviceStep (some start) es = some s) : Unlicensed endpoint s :=
  run_invariant_some' (fun _ => rfl) (fun _ _ _ hstep h => h.step hstep) hrun hstart

variable [HostTexts] [ConfigTexts] {files : String → Option String} {path text : String}
  {config : Config}

/-- **A daemon without a valid license.**  When the license key in force in the file is not valid,
then whatever the clients of the daemon send it in the whole run, none of them is verified or told
anything but that a request failed or the service stops, the place of the catchups stays what it
was, and the service is stopped as soon as the timer ticks, or somebody on its host asks for it. -/
theorem unlicensed_run (hopen : files (cstr path) = some text)
    (hload : loadConfigFromFile files path = .ok config)
    (hkey : ∀ value key, textInForce (valuesFor (assignments text)) serviceLicenseKeyField =
      some value → ConfigTexts.makeLicense value = some key →
      ConfigTexts.isValidExpireKey key = false)
    (db : Database) (endpoint : CatchupEndpointInfo) (es : List ServiceEvent) (s : Service)
    (hrun : run serviceStep (some (Service.ofConfig config db endpoint)) es = some s) :
    Unlicensed endpoint s ∧
      (s.stopped = true ↔ (∃ now, .licenseTimer now ∈ es) ∨
        ∃ fs dclient sur id gs s₀ conn, es = fs ++ stopRequest dclient sur id :: gs ∧
          run serviceStep (some (Service.ofConfig config db endpoint)) fs = some s₀ ∧
          s₀.dclients.lookup dclient = some conn ∧ License.isLocalHost conn.host = true) := by
  have hnone : config.licenseKey = none := licenseKey_eq_none hopen hload hkey
  have hstart : Unlicensed endpoint (Service.ofConfig config db endpoint) := by
    refine ⟨hnone, ?_, rfl, rfl, fun o ho => ?_⟩
    · rintro dclient ⟨conn, hlookup, -⟩
      cases hlookup
    · cases ho
  refine ⟨unlicensed_serviceRun hstart hrun, ?_⟩
  rw [stopped_run_iff rfl hrun]
  refine or_congr ⟨fun ⟨now, hmem, _⟩ => ⟨now, hmem⟩, fun ⟨now, hmem⟩ => ⟨now, hmem, ?_⟩⟩ ⟨?_, ?_⟩
  · rintro ⟨key, tm, hsome, -⟩
    cases hnone.symm.trans hsome
  · rintro ⟨fs, dclient, sur, id, gs, s₀, hes, hs₀, conn, hlookup, hmay⟩
    have hunlicensed := unlicensed_serviceRun hstart hs₀
    refine ⟨fs, dclient, sur, id, gs, s₀, conn, hes, hs₀, hlookup, hmay.resolve_left fun h => ?_⟩
    exact hunlicensed.verified dclient ⟨conn, hlookup, h⟩
  · rintro ⟨fs, dclient, sur, id, gs, s₀, conn, hes, hs₀, hlookup, hlocal⟩
    exact ⟨fs, dclient, sur, id, gs, s₀, hes, hs₀, conn, hlookup, Or.inr hlocal⟩

end

/-! A client with the right key is refused by a daemon that has none; the next tick stops it. -/

namespace Sample

def licensedConfig : Config := { config with licenseKey := some "key" }

/-- Nobody on the host of the daemon, but a client that was verified. -/
def stopAfterActivation : List ServiceEvent :=
  [.accept 9 ⟨"example", 1⟩, .licenseTimer 1000,
    .received 9 daemonSur (.request ⟨some "1", .activate (.decoded (some "key"))⟩),
    stopRequest 9 daemonSur (some "2")]

def refusedActivation : List ServiceEvent :=
  [.accept 9 ⟨"example", 1⟩,
    .received 9 daemonSur (.request ⟨some "1", .activate (.decoded (some "key"))⟩),
    stopRequest 9 daemonSur (some "2"), .licenseTimer 1000]

end Sample

open Sample in
theorem stopped_iff_sample :
    ∃ s, run serviceStep (some (Service.ofConfig licensedConfig start.db endpoint))
      stopAfterActivation = some s ∧ s.stopped = true := by
  refine ⟨_, rfl, ?_⟩
  rw [stopped_iff licensedConfig start.db endpoint stopAfterActivation _ rfl]
  refine Or.inr ⟨stopAfterActivation.take 3, 9, daemonSur, some "2", [], _, rfl, rfl, ?_⟩
  exact ⟨_, rfl, Or.inl rfl⟩

open Sample in
theorem unlicensed_run_sample :
    ∃ s, run serviceStep (some (Service.ofConfig config start.db endpoint)) refusedActivation =
      some s ∧ Unlicensed endpoint s ∧ s.stopped = true := by
  have hfile : configFiles (cstr "service.conf") = some (written configSettings) := rfl
  have hrun := unlicensed_run hfile config_loaded configSettings_unlicensed start.db endpoint
    refusedActivation _ rfl
  exact ⟨_, rfl, hrun.1, hrun.2.mpr (Or.inl ⟨1000, by simp [refusedActivation]⟩)⟩

end LoadBalance
