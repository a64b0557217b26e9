import LoadBalance.Daemon.Service
import LoadBalance.Equiv.Frame

/-!
# What the loop of the daemon leaves alone

Of the state that the loops share, the daemon's own loop changes only the place of the catchups: it
sends replies and has texts shown (`OnlyTells`).  Apart from the turns in which it runs a broadcast
that was posted, it also leaves alone which ones were run and what was written of them
(`attends_serviceEvent`); in such a turn the next one is written to every client that was verified
and takes the write (`run_posted`).
-/

namespace LoadBalance

open LoadBalance.Action

/-- What goes out of the daemon's loop through the state that the loops share. -/
def FromDaemon : Output → Prop
  | .daemonReply .. => True
  | .notification .. => True
  | _ => False

/-- The connections and the database are as they were, and what is sent comes from the daemon. -/
structure OnlyTells (s s' : State) : Prop where
  clients : s'.clients = s.clients
  connections : s'.connections = s.connections
  db : s'.db = s.db
  sent : Appends FromDaemon s s'

instance : IsPreorder State OnlyTells where
  refl s := ⟨rfl, rfl, rfl, refl_of _ s⟩
  trans _ _ _ h h' := ⟨h'.clients.trans h.clients, h'.connections.trans h.connections,
    h'.db.trans h.db, trans_of _ h.sent h'.sent⟩

/-- What is written is a broadcast that was posted. -/
def DaemonOutput.IsPosted : DaemonOutput → Prop
  | .request _ (.posted _) => True
  | _ => False

/-- Besides, no broadcast that was posted is run. -/
structure Attends (s s' : Service) : Prop where
  tells : OnlyTells s.toState s'.toState
  delivered : s'.delivered = s.delivered
  written : ∃ outs, s'.written = s.written ++ outs ∧ ∀ o ∈ outs, ¬o.IsPosted

instance : IsPreorder Service Attends where
  refl s := ⟨refl_of _ s.toState, rfl, [], (List.append_nil _).symm, by simp⟩
  trans s s' s'' h h' := by
    obtain ⟨outs, hwritten, houts⟩ := h.written
    obtain ⟨outs', hwritten', houts'⟩ := h'.written
    refine ⟨trans_of _ h.tells h'.tells, h'.delivered.trans h.delivered, outs ++ outs', ?_,
      List.forall_mem_append.mpr ⟨houts, houts'⟩⟩
    rw [hwritten', hwritten, List.append_assoc]

/-! ### The calls of the loop -/

section

variable {sur : Surroundings} {client dclient : ClientId} {id : RequestId}

theorem onlyTells_send {o : Output} (ho : FromDaemon o) : Within OnlyTells (send o) :=
  fun _ => ⟨rfl, rfl, rfl, [o], rfl, by simpa using ho⟩

theorem onlyTells_daemonReply {r : DaemonReply} :
    Within OnlyTells (daemonReply sur dclient id r) := within_write (onlyTells_send trivial)

theorem attends_shared {α : Type} {x : Call α} (hx : Within OnlyTells x) :
    Within Attends (shared x) := fun s =>
  ⟨hx s.toState, rfl, [], (List.append_nil _).symm, by simp⟩

/-- What the service has on top of the state that the loops share. -/
theorem attends_modify {f : Service → Service}
    (hf : ∀ s, (f s).toState = s.toState ∧ (f s).delivered = s.delivered ∧
      (f s).written = s.written) : Within Attends (modify f : ServiceCall Unit) := by
  intro s
  obtain ⟨hstate, hdelivered, hwritten⟩ := hf s
  refine ⟨?_, hdelivered, [], hwritten.trans (List.append_nil _).symm, by simp⟩
  rw [run_modify, hstate]
  exact refl_of _ s.toState

theorem attends_emit {o : DaemonOutput} (ho : ¬o.IsPosted) : Within Attends (emit o) :=
  fun s => ⟨refl_of _ s.toState, rfl, [o], rfl, by simpa using ho⟩

theorem attends_closeDaemon : Within Attends (closeDaemon dclient) :=
  attends_modify fun _ => ⟨rfl, rfl, rfl⟩

theorem attends_stopImpl : Within Attends stopImpl := attends_modify fun _ => ⟨rfl, rfl, rfl⟩

theorem attends_assignDaemon {f : DaemonConnection → DaemonConnection} :
    Within Attends (assignDaemon dclient f) := by
  refine attends_modify fun s => ?_
  split <;> exact ⟨rfl, rfl, rfl⟩

theorem attends_daemonReply {r : DaemonReply} :
    Within Attends (shared (daemonReply sur dclient id r)) := attends_shared onlyTells_daemonReply

/-! ### The dispatchers -/

/-- A refusal with a reply. -/
theorem attends_refuse (r : DaemonReply) (err : Error) :
    Within Attends (do attempt (shared (daemonReply sur dclient id r)); fail err :
      ServiceCall Unit) :=
  within_bind (within_attempt attends_daemonReply) fun _ => within_fail _

variable [License] {dsur : DaemonSurroundings} {conn : DaemonConnection}

theorem attends_handleRequestClientStopService {params : Params Unit} :
    Within Attends (handleRequestClientStopService dsur dclient conn id params) := by
  unfold handleRequestClientStopService
  split_ifs
  · exact within_fail _
  split
  · exact within_fail _
  · exact within_fail _
  refine within_bind (within_result attends_daemonReply) fun err => ?_
  refine within_bind attends_stopImpl fun _ => ?_
  split
  · exact within_fail _
  · exact within_pure _

theorem attends_handleRequestClientActivate {params : Params (Option String)} :
    Within Attends (Service.handleRequestClientActivate dsur dclient id params) := by
  unfold Service.handleRequestClientActivate
  split
  · exact within_fail _
  · exact attends_refuse _ _
  refine within_bind (within_reads _) fun licenseKey => ?_
  split_ifs
  · exact attends_refuse _ _
  split
  · exact within_lift _
  split
  · exact attends_refuse _ _
  · exact within_bind attends_daemonReply fun _ => attends_assignDaemon

theorem attends_handleRequestClientGetLogService {params : Params Gurl} :
    Within Attends (handleRequestClientGetLogService dsur dclient conn id params) := by
  unfold handleRequestClientGetLogService
  dsimp only
  split_ifs
  · exact within_fail _
  split
  · exact within_fail _
  · exact attends_refuse _ _
  split_ifs
  · exact attends_refuse _ _
  refine within_bind (attends_emit fun h => h) fun _ => ?_
  split
  · exact attends_refuse _ _
  · exact attends_daemonReply

variable [Fastotv]

theorem attends_handleRequestServiceCommand {req : DaemonRequest} :
    Within Attends (handleRequestServiceCommand dsur dclient conn req) := by
  unfold handleRequestServiceCommand
  split
  · exact attends_handleRequestClientStopService
  · refine attends_shared ?_
    unfold handleRequestClientPingService
    split_ifs
    · exact within_fail _
    · exact within_withParams fun _ => onlyTells_daemonReply
  · exact attends_handleRequestClientActivate
  · -- The place of the catchups is not looked at here.
    refine attends_shared ?_
    unfold handleRequestClientPrepareService
    split_ifs
    · exact within_fail _
    refine within_withParams fun stateInfo => within_bind (fun s => ?_) fun _ =>
      within_bind (within_reads _) fun _ => onlyTells_daemonReply
    exact ⟨rfl, rfl, rfl, refl_of (Appends _) s⟩
  · refine attends_shared ?_
    unfold handleRequestClientSyncService
    split_ifs
    · exact within_fail _
    · exact within_withParams fun _ => onlyTells_daemonReply
  · exact attends_handleRequestClientGetLogService
  · exact attends_shared (within_handleRequestClientSendMessageForSubscriber
      (fun _ _ _ => onlyTells_send trivial) fun _ _ => onlyTells_send trivial)
  · exact within_pure _

theorem attends_daemonDataReceived {input : DaemonInput} :
    Within Attends (daemonDataReceived dsur dclient conn input) := by
  unfold daemonDataReceived
  split
  · exact attends_closeDaemon
  · exact attends_closeDaemon
  · exact within_attempt attends_handleRequestServiceCommand
  · refine within_attempt ?_
    unfold handleResponceServiceCommand
    split_ifs
    · exact within_fail _
    split
    · exact within_lift _
    · exact attends_assignDaemon

omit [Fastotv] [License] in
theorem attends_pingClients {ids : ClientId → String} (l : List ClientId) :
    Within Attends (pingClients sur ids l) := by
  induction l with
  | nil => exact within_pure _
  | cons dclient rest ih =>
    refine within_bind ?_ fun _ => ih
    unfold pingClient
    refine within_bind (within_reads _) fun conn => ?_
    split
    · split_ifs
      · exact within_bind (attends_emit fun h => h) fun _ => attends_assignDaemon
      · exact attends_closeDaemon
      · exact within_pure _
    · exact within_pure _

omit [Fastotv] [License] in
/-- A broadcast of the daemon's own. -/
theorem attends_broadcastClients {notice : DaemonNotice} (hnotice : ∀ b, notice ≠ .posted b) :
    Within Attends (broadcastClients sur notice) := by
  intro s
  refine ⟨refl_of _ s.toState, rfl, _, rfl, fun o ho hposted => ?_⟩
  obtain ⟨e, -, rfl⟩ := List.mem_map.mp ho
  unfold DaemonOutput.IsPosted at hposted
  split at hposted
  · rename_i heq
    exact hnotice _ (DaemonOutput.request.inj heq).2
  · exact hposted

omit [Fastotv] in
theorem attends_checkLicenseExpired {now : Timestamp} :
    Within Attends (checkLicenseExpired now) := by
  unfold checkLicenseExpired
  refine within_bind (within_reads _) fun licenseKey => ?_
  split
  · exact attends_stopImpl
  split
  · exact attends_stopImpl
  split_ifs
  · exact attends_stopImpl
  · exact within_pure _

/-- What happens in the loop of the daemon, except that a broadcast that was posted is run. -/
theorem attends_serviceEvent {e : ServiceEvent} (hother : ∀ e' h, e ≠ .other e' h)
    (hposted : ∀ sur, e ≠ .posted sur) : Within Attends e.action := by
  refine within_bind (within_reads _) fun s => ?_
  cases e with
  | other e' h => exact absurd rfl (hother e' h)
  | accept dclient host =>
    dsimp only
    split_ifs
    · exact attends_modify fun _ => ⟨rfl, rfl, rfl⟩
    · exact within_pure _
  | received dclient sur input =>
    dsimp only
    split
    · exact attends_daemonDataReceived
    · exact within_pure _
  | close dclient => exact attends_closeDaemon
  | pingTimer sur ids => exact attends_pingClients _
  | statsTimer sur stats => exact attends_broadcastClients nofun
  | licenseTimer now => exact attends_checkLicenseExpired
  | posted sur => exact absurd rfl (hposted sur)

/-! ### Broadcasts that were posted -/

/-- The next one goes to the clients that were verified and take the write. -/
theorem run_posted {s : Service} {b : Broadcast} (h : s.broadcasts[s.delivered]? = some b) :
    ((ServiceEvent.posted sur).action.run s) = (.ok (), { s with
      written := s.written ++ (s.dclients.entries.filter fun e =>
        e.2.verified && sur.sends e.1).map fun e => .request e.1 (.posted b)
      delivered := s.delivered + 1 }) := by
  unfold ServiceEvent.action
  rw [run_bind_of_ok (run_reads _ _)]
  dsimp only
  rw [h]
  rfl

/-- When all were run, nothing happens. -/
theorem run_posted_none {s : Service} (h : s.broadcasts[s.delivered]? = none) :
    ((ServiceEvent.posted sur).action.run s) = (.ok (), s) := by
  unfold ServiceEvent.action
  rw [run_bind_of_ok (run_reads _ _)]
  dsimp only
  rw [h]
  rfl

/-- In either case what the loops share stays as it is. -/
theorem toState_posted (s : Service) :
    ((ServiceEvent.posted sur).action.run s).2.toState = s.toState := by
  cases h : s.broadcasts[s.delivered]? with
  | none => rw [run_posted_none h]
  | some b => rw [run_posted h]

/-- What happens in the loop of the daemon is no more than told. -/
theorem onlyTells_serviceEvent {e : ServiceEvent} (hother : ∀ e' h, e ≠ .other e' h)
    (s : Service) : OnlyTells s.toState ((e.action).run s).2.toState := by
  by_cases hposted : ∃ sur, e = .posted sur
  · obtain ⟨sur, rfl⟩ := hposted
    rw [toState_posted]
    exact refl_of _ s.toState
  · exact (attends_serviceEvent hother (fun sur h => hposted ⟨sur, h⟩) s).tells

end

end LoadBalance
