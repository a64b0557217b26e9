import LoadBalance.Equiv.Acknowledged
import LoadBalance.Equiv.Answers
import LoadBalance.Subscribers.Responses

/-!
# Optionals that are read

Both dispatchers dereference Optionals: the login of a connection whose login was checked, the id of
a response when it is shown in the log, and the license of an activation that is the configured one.
Only the first is there in every run; an id or a license that is absent is read as well
(`values_present_iff`).
-/

namespace LoadBalance

open LoadBalance.Action

/-! ### Events that read one -/

/-- In the dispatch of the event an Optional is dereferenced. -/
def BalancerEvent.ReadsOptional : BalancerEvent → Prop
  | .response _ _ => True
  | .service (.received _ _ (.response _)) => True
  | .service (.received _ _ (.request req)) => match req.command with
    | .activate _ => True
    | _ => False
  | .service (.other (.request _ _ req) _) => req.command.IsSetter
  | _ => False

/-- What the dispatch of the event reads is there: the id of a response, of a subscriber or of a
client of the daemon that was verified, and the license, in the request or in the configuration. -/
def BalancerEvent.ValuesPresent (s : Balancer) : BalancerEvent → Prop
  | .response client resp => s.isSubscriber client = true → resp.id ≠ none
  | .service (.received dclient _ (.response id)) =>
    (s.dclients.lookup dclient).any (·.verified) = true → id ≠ none
  | .service (.received dclient _ (.request req)) => match req.command with
    | .activate (.decoded expireKey) =>
      (s.dclients.lookup dclient).isSome = true → expireKey ≠ none ∨ s.licenseKey ≠ none
    | _ => True
  | _ => True

section

variable [Fastotv] [License]

/-- The dispatch comes to an Optional that is empty. -/
def AbsentRead (s : Balancer) (e : BalancerEvent) : Prop :=
  e.ReadsOptional ∧ ((e.action).run s).1 = .abort

/-! ### Calls that end at an empty one -/

omit [Fastotv] [License] in
theorem run_attempt_eq_abort {σ ε : Type} {x : Action σ ε Unit} {s : σ} :
    ((attempt x).run s).1 = .abort ↔ (x.run s).1 = .abort := by
  rw [run_attempt]
  rcases x.run s with ⟨a | e | _, s'⟩ <;> simp

omit [Fastotv] [License] in
theorem run_logResponseId_eq_abort {sid : RequestId} {s : Balancer} :
    ((logResponseId sid).run s).1 = .abort ↔ sid = none := by
  unfold logResponseId
  cases sid with
  | none => exact iff_of_true rfl rfl
  | some id => exact iff_of_false (by simp [run_bind]) (by simp)

omit [Fastotv] [License] in
/-- A response that is for a request is not logged, or has an id. -/
theorem run_handleResponceCommand_eq_abort {client : ClientId} {resp : SubscriberResponse}
    {s : Balancer} : ((handleResponceCommand client resp).run s).1 = .abort ↔ resp.id = none := by
  obtain ⟨id, result⟩ := resp
  unfold handleResponceCommand popRequestByID
  cases id with
  | none =>
    have hlog : ((logResponseId none).run s).1 = .abort ↔ (none : RequestId) = none :=
      run_logResponseId_eq_abort
    exact hlog
  | some id =>
    refine iff_of_false ?_ (by simp)
    dsimp only
    rw [run_bind, run_bind, run_reads]
    dsimp only
    cases (s.requests client).lookup id with
    | none => exact fun h => by simpa using run_logResponseId_eq_abort.mp h
    | some method =>
      dsimp only
      rw [run_bind, run_modify]
      dsimp only
      rw [run_pure]
      dsimp only
      cases method with
      | ping =>
        unfold handleResponceServerPing
        rcases result with _ | _ | _ | _ <;> simp
      | getClientInfo =>
        unfold handleResponceServerGetClientInfo
        rcases result with _ | _ | _ | _ <;> simp
      | textNotification => simp
      | other method => exact fun h => by simpa using run_logResponseId_eq_abort.mp h

omit [Fastotv] [License] in
theorem run_handleResponceServiceCommand_eq_abort {dclient : ClientId} {conn : DaemonConnection}
    {id : RequestId} {s : Service} :
    ((handleResponceServiceCommand dclient conn id).run s).1 = .abort ↔
      conn.verified = true ∧ id = none := by
  unfold handleResponceServiceCommand
  cases conn.verified with
  | false => exact iff_of_false (by simp) (by simp)
  | true =>
    cases id with
    | none => exact iff_of_true rfl ⟨rfl, rfl⟩
    | some sid => exact iff_of_false (by simp [assignDaemon]) (by simp)

/-! ### The activation of a client of the daemon -/

omit [Fastotv] [License] in
theorem alwaysReturns_attempt {σ ε : Type} {x : Action σ ε Unit} (hx : AlwaysReturns x) :
    AlwaysReturns (attempt x) := fun s =>
  Outcome.returns_iff.mpr fun h => Outcome.returns_iff.mp (hx s) (run_attempt_eq_abort.mp h)

omit [Fastotv] [License] in
theorem alwaysReturns_write {sur : Surroundings} {client : ClientId} {o : Output} :
    AlwaysReturns (write sur client o) := by
  unfold write
  split_ifs
  · exact fun _ => trivial
  · exact alwaysReturns_fail _

omit [Fastotv] [License] in
theorem alwaysReturns_shared {α : Type} {x : Call α} (hx : AlwaysReturns x) :
    AlwaysReturns (shared x) := fun s => hx s.toState

omit [Fastotv] in
/-- The key that is sent is read when it is the configured one, also when there is none. -/
theorem run_handleRequestClientActivate_eq_abort {sur : DaemonSurroundings} {dclient : ClientId}
    {id : RequestId} {params : Params (Option String)} {s : Service} :
    ((Service.handleRequestClientActivate sur dclient id params).run s).1 = .abort ↔
      params = .decoded none ∧ s.licenseKey = none := by
  have hfail : ∀ err, AlwaysReturns (do
      attempt (shared (daemonReply sur.toSurroundings dclient id (.activateFail err)))
      fail err : ServiceCall Unit) := fun err =>
    alwaysReturns_bind (alwaysReturns_attempt (alwaysReturns_shared alwaysReturns_write)) fun _ =>
      alwaysReturns_fail err
  have hno : ∀ err, ((do
      attempt (shared (daemonReply sur.toSurroundings dclient id (.activateFail err)))
      fail err : ServiceCall Unit).run s).1 ≠ .abort := fun err =>
    Outcome.returns_iff.mp (hfail err s)
  unfold Service.handleRequestClientActivate
  cases params with
  | absent => exact iff_of_false (by simp) (by simp)
  | refused err => exact iff_of_false (hno err) (by simp)
  | decoded expireKey =>
    dsimp only
    rw [run_bind, run_reads]
    dsimp only
    by_cases hkey : expireKey = s.licenseKey
    · rw [if_neg (not_not_intro hkey)]
      cases expireKey with
      | none => exact iff_of_true rfl ⟨rfl, hkey.symm⟩
      | some key =>
        refine iff_of_false ?_ (by simp)
        dsimp only
        cases License.expireTimeFromKey key with
        | none => exact hno _
        | some tm =>
          have hreturns : AlwaysReturns (do
              shared (daemonReply sur.toSurroundings dclient id (.activateSuccess (sur.stats tm)))
              assignDaemon dclient fun conn => { conn with verified := true, expTime := tm } :
              ServiceCall Unit) :=
            alwaysReturns_bind (alwaysReturns_shared alwaysReturns_write) fun _ _ => trivial
          exact Outcome.returns_iff.mp (hreturns s)
    · rw [if_pos hkey]
      refine iff_of_false (hno _) ?_
      rintro ⟨hparams, hnone⟩
      rw [Params.decoded.injEq] at hparams
      exact hkey (hparams.trans hnone.symm)

/-! ### The setters -/

omit [License] in
/-- The login that a setter reads is that of a connection that was just checked to have one. -/
theorem returns_setter {s : State} {sur : Surroundings} {client : ClientId} {id : RequestId}
    {command : Command} (hsetter : command.IsSetter) (hclient : (s.clients client).isSome = true) :
    ((handleRequestCommand sur client ⟨id, command⟩).run s).1.Returns := by
  obtain ⟨c, hc⟩ := Option.isSome_iff_exists.mp hclient
  have hset : ∀ (auth : ServerDBAuthInfo) (call : SetCall) (r : Reply), AlwaysReturns (do
      attempt (database (SetRequest.mk sur.toEnv auth call).action)
      reply sur client id r : Call Unit) := fun auth call r =>
    alwaysReturns_bind (alwaysReturns_attempt (alwaysReturns_database fun db =>
      (run_action_cases sur.toEnv auth call db).1)) fun _ => alwaysReturns_write
  have hwith : ∀ {α : Type} (params : Params α) (f : ServerDBAuthInfo → α → Call Unit),
      (∀ auth a, AlwaysReturns (f auth a)) →
      ((withLogin sur client id fun auth => withParams params (f auth)).run s).1.Returns := by
    intro α params f hf
    cases hlogin : c.login with
    | none =>
      rw [run_withLogin_of_none hc hlogin]
      trivial
    | some auth =>
      rw [run_withLogin_of_some hc hlogin]
      cases params with
      | absent => trivial
      | refused err => trivial
      | decoded a => exact hf auth a s
  unfold handleRequestCommand
  cases command with
  | setFavorite params =>
    dsimp only
    rw [handleRequestClientSetFavorite_eq]
    exact hwith params _ fun auth info => hset auth (.favorite info) _
  | setRecent params =>
    dsimp only
    rw [handleRequestClientSetRecent_eq]
    exact hwith params _ fun auth info => hset auth (.recent info) _
  | interruptStreamTime params =>
    dsimp only
    rw [handleRequestInterruptStreamTime_eq]
    exact hwith params _ fun auth info => hset auth (.interrupt info) _
  | _ => cases hsetter

/-! ### Dispatches -/

theorem run_service_eq_abort {s : Balancer} {e : ServiceEvent} :
    (((BalancerEvent.service e).action).run s).1 = .abort ↔
      ((e.action).run s.toService).1 = .abort := by
  unfold BalancerEvent.action forgetClosed
  rw [run_bind, run_reads]
  dsimp only
  rw [run_bind, run_attempt, run_zoom]
  rcases (e.action).run s.toService with ⟨a | e | _, s'⟩ <;> simp

/-- What comes from a client of the daemon is handed to the dispatcher when the client is there. -/
theorem run_received {s : Service} {dclient : ClientId} {sur : DaemonSurroundings}
    {input : DaemonInput} :
    ((ServiceEvent.received dclient sur input).action).run s =
      match s.dclients.lookup dclient with
      | some conn => (daemonDataReceived sur dclient conn input).run s
      | none => (.ok (), s) := by
  unfold ServiceEvent.action
  rw [run_bind, run_reads]
  dsimp only
  cases s.dclients.lookup dclient <;> rfl

/-- A dispatch comes to an empty Optional exactly when what it reads is not there. -/
theorem absentRead_iff (s : Balancer) (e : BalancerEvent) :
    AbsentRead s e ↔ ¬e.ValuesPresent s := by
  unfold AbsentRead
  cases e with
  | requested client id method => exact iff_of_false (fun h => h.1) (not_not_intro trivial)
  | response client resp =>
    unfold BalancerEvent.ValuesPresent BalancerEvent.ReadsOptional BalancerEvent.action
    rw [true_and, run_bind, run_reads]
    dsimp only
    cases s.isSubscriber client with
    | false => exact iff_of_false (by simp) (by simp)
    | true =>
      rw [if_pos rfl, run_attempt_eq_abort, run_handleResponceCommand_eq_abort]
      simp
  | service e =>
    rw [run_service_eq_abort]
    cases e with
    | other e he =>
      cases e with
      | request client sur req =>
        -- A setter of a connection that is there.
        refine iff_of_false ?_ (not_not_intro trivial)
        rintro ⟨hsetter, habort⟩
        refine absurd habort (Outcome.returns_iff.mp ?_)
        unfold ServiceEvent.action
        rw [run_bind, run_reads]
        dsimp only
        unfold shared Event.action
        rw [run_zoom, run_bind, run_reads]
        dsimp only
        split_ifs with hclient
        · refine returns_setter hsetter ?_
          obtain ⟨c, hc, -⟩ := (Option.any_eq_true _ _).mp hclient
          rw [hc]
          rfl
        · trivial
      | _ => exact iff_of_false (fun h => h.1) (not_not_intro trivial)
    | received dclient sur input =>
      rw [run_received]
      cases input with
      | readError => exact iff_of_false (fun h => h.1) (not_not_intro trivial)
      | unparsed => exact iff_of_false (fun h => h.1) (not_not_intro trivial)
      | response id =>
        unfold BalancerEvent.ValuesPresent BalancerEvent.ReadsOptional
        rw [true_and]
        cases hconn : s.dclients.lookup dclient with
        | none => exact iff_of_false (by simp) (by simp [hconn])
        | some conn =>
          dsimp only [daemonDataReceived]
          rw [run_attempt_eq_abort, run_handleResponceServiceCommand_eq_abort]
          simp [hconn]
      | request req =>
        obtain ⟨id, command⟩ := req
        cases command with
        | activate params =>
          unfold BalancerEvent.ReadsOptional
          rw [true_and]
          cases hconn : s.dclients.lookup dclient with
          | none =>
            refine iff_of_false (by simp) (not_not_intro ?_)
            cases params <;> simp [BalancerEvent.ValuesPresent, hconn]
          | some conn =>
            dsimp only [daemonDataReceived, handleRequestServiceCommand]
            rw [run_attempt_eq_abort, run_handleRequestClientActivate_eq_abort]
            cases params with
            | decoded expireKey => simp [BalancerEvent.ValuesPresent, hconn]
            | absent => simp [BalancerEvent.ValuesPresent]
            | refused err => simp [BalancerEvent.ValuesPresent]
        | _ => exact iff_of_false (fun h => h.1) (not_not_intro trivial)
    | _ => exact iff_of_false (fun h => h.1) (not_not_intro trivial)

/-! ### Runs -/

/-- In a run no dispatch comes to an empty Optional exactly when each finds what it reads: the
responses have an id, and no activation without a license comes while there is none in the
configuration. -/
theorem values_present_iff (start : Balancer) (es : List BalancerEvent) :
    (∀ fs e gs s, es = fs ++ e :: gs → run balancerStep (some start) fs = some s →
      ¬AbsentRead s e) ↔
    ∀ fs e gs s, es = fs ++ e :: gs → run balancerStep (some start) fs = some s →
      e.ValuesPresent s := by
  refine forall_congr' fun fs => forall_congr' fun e => forall_congr' fun gs =>
    forall_congr' fun s => imp_congr_right fun _ => imp_congr_right fun _ => ?_
  rw [absentRead_iff, not_not]

end

/-! A subscriber whose response has no id, and a client of a service without a license key. -/

namespace Sample

def unlicensed : Balancer := Balancer.initial (Service.initial start none)

def bothAccepted : List BalancerEvent :=
  [.service (.other (.accept 7 .subscriber) trivial), .service (.accept 9 ⟨"example", 1⟩)]

def idlessResponse : BalancerEvent := .response 7 ⟨none, none⟩

def licenselessActivation : BalancerEvent :=
  .service (.received 9 daemonSur (.request ⟨some "1", .activate (.decoded none)⟩))

end Sample

open Sample in
/-- Both are dispatched to the end of the process. -/
theorem absent_values_read :
    ∃ s, run balancerStep (some unlicensed) bothAccepted = some s ∧
      AbsentRead s idlessResponse ∧ AbsentRead s licenselessActivation ∧
      balancerStep (some s) idlessResponse = none ∧
      balancerStep (some s) licenselessActivation = none :=
  ⟨_, rfl, ⟨trivial, rfl⟩, ⟨trivial, rfl⟩, rfl, rfl⟩

end LoadBalance
