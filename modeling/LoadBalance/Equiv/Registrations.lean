import LoadBalance.Equiv.Activation
import LoadBalance.Equiv.DaemonLoop
import LoadBalance.Subscribers.Responses

/-!
# Who a connection acts for

Along a run of the balancer the login of a connection of a subscriber is that of its last
registration (`lastRegistration`): a request of the connection whose parameters `ClientLogin`
accepted, and since which no event has registered the connection.  What happens in the loop of the
daemon, and the responses of the subscribers, leave the connections and the database alone
(`leavesAlone_balancerEvent`). -/

namespace LoadBalance

open LoadBalance.Action

/-- A request of a subscriber, as an event of the balancer. -/
def BalancerEvent.request (client : ClientId) (sur : Surroundings) (req : SubscriberRequest) :
    BalancerEvent :=
  .service (.other (.request client sur req) trivial)

/-- The event logs the connection in, with this login. -/
def BalancerEvent.Joins [Fastotv] (s : State) (client : ClientId) (info : ServerDBAuthInfo) :
    BalancerEvent → Prop
  | .service (.other e _) => LoadBalance.Joins s client info e
  | _ => False

/-- The connection that a catalogue or the info of the server goes to. -/
def Output.infoTo : Output → Option ClientId
  | .reply client _ (.getChannelsSuccess _) => some client
  | .reply client _ (.getServerInfoSuccess _ _) => some client
  | _ => none

/-! ### The loop of the daemon -/

/-- The connections and the database are left as they are, and no catalogue and no info of the
server is sent. -/
structure LeavesAlone (s s' : State) : Prop where
  clients : s'.clients = s.clients
  db : s'.db = s.db
  sent : Appends (fun o => o.infoTo = none) s s'

instance : IsPreorder State LeavesAlone where
  refl s := ⟨rfl, rfl, refl_of _ s⟩
  trans _ _ _ h h' :=
    ⟨h'.clients.trans h.clients, h'.db.trans h.db, trans_of _ h.sent h'.sent⟩

theorem OnlyTells.leavesAlone {s s' : State} (h : OnlyTells s s') : LeavesAlone s s' where
  clients := h.clients
  db := h.db
  sent := by
    refine h.sent.mono fun o ho => ?_
    cases o <;> first | rfl | exact ho.elim

section

variable {client : ClientId} [Fastotv] [License]

/-! ### One event of the balancer -/

variable {b : Balancer} {e : BalancerEvent} {kind : ClientKind} {auth : ServerDBAuthInfo}

omit [Fastotv] [License] in
/-- A response is matched with its request, and nothing else. -/
theorem toState_handleResponceCommand (resp : SubscriberResponse) :
    (((handleResponceCommand client resp).run b).2).toState = b.toState := by
  have hlog : ∀ (sid : RequestId) (b : Balancer), ((logResponseId sid).run b).2 = b := by
    intro sid b
    cases sid <;> rfl
  obtain ⟨sid, result⟩ := resp
  unfold handleResponceCommand popRequestByID
  cases sid with
  | none =>
    show (((logResponseId none).run b).2).toState = b.toState
    rw [hlog]
  | some id =>
    dsimp only
    rw [run_bind, run_bind, run_reads]
    dsimp only
    cases (b.requests client).lookup id with
    | none =>
      show (((logResponseId (some id)).run b).2).toState = b.toState
      rw [hlog]
    | some method =>
      dsimp only
      rw [run_bind, run_modify]
      dsimp only
      rw [run_pure]
      dsimp only
      cases method with
      | ping =>
        unfold handleResponceServerPing
        rcases result with _ | _ | _ | _ <;> rfl
      | getClientInfo =>
        unfold handleResponceServerGetClientInfo
        rcases result with _ | _ | _ | _ <;> rfl
      | textNotification => rfl
      | other method =>
        dsimp only
        rw [hlog]

/-- What an event of the service does to what the loops share. -/
theorem toState_service (e : ServiceEvent) :
    ((((BalancerEvent.service e).action).run b).2).toState =
      ((e.action).run b.toService).2.toState := by
  unfold BalancerEvent.action forgetClosed
  rw [run_bind_of_ok (run_reads _ _)]
  dsimp only
  rw [run_bind, run_attempt, run_zoom]
  rcases (e.action).run b.toService with ⟨a | err | _, s⟩ <;> rfl

/-- An event of the other loops. -/
theorem toState_other (e : Event) (he : e.OfOtherLoop) :
    ((((BalancerEvent.service (.other e he)).action).run b).2).toState =
      ((e.action).run b.toState).2 := by
  rw [toState_service]
  rfl

/-- Any other event leaves the connections and the database alone. -/
theorem leavesAlone_balancerEvent (he : ∀ e' h, e ≠ .service (.other e' h)) :
    LeavesAlone b.toState ((e.action).run b).2.toState := by
  cases e with
  | service e =>
    rw [toState_service]
    exact (onlyTells_serviceEvent (fun e' h hother => he e' h (by rw [hother]))
      b.toService).leavesAlone
  | requested client id method =>
    unfold BalancerEvent.action
    rw [run_bind_of_ok (run_reads _ _)]
    dsimp only
    split_ifs
    · exact refl_of LeavesAlone b.toState
    · exact refl_of LeavesAlone b.toState
  | response client resp =>
    unfold BalancerEvent.action
    rw [run_bind_of_ok (run_reads _ _)]
    dsimp only
    split_ifs
    · have hrun : (((attempt (handleResponceCommand client resp)).run b).2).toState = b.toState :=
        rel_attempt (R := fun b b' : Balancer => b'.toState = b.toState)
          (toState_handleResponceCommand resp)
      rw [hrun]
      exact refl_of LeavesAlone b.toState
    · exact refl_of LeavesAlone b.toState

/-- A login after the event was there before it, and the event logs nobody in on the connection, or
it is the login that the event logs in with. -/
theorem balancerSession_cases
    (h : (((e.action).run b).2).session client = some (kind, some auth)) :
    (b.session client = some (kind, some auth) ∧ ∀ info, ¬e.Joins b.toState client info) ∨
      (e.Joins b.toState client auth ∧ ∃ login, b.session client = some (kind, login)) := by
  by_cases he : ∃ e' h, e = .service (.other e' h)
  · obtain ⟨e', h', rfl⟩ := he
    rw [toState_other] at h
    exact session_cases h
  · have halone : LeavesAlone b.toState ((e.action).run b).2.toState :=
      leavesAlone_balancerEvent fun e' h' heq => he ⟨e', h', heq⟩
    refine Or.inl ⟨?_, fun info hjoins => ?_⟩
    · rw [← h]
      unfold State.session
      rw [halone.clients]
    · unfold BalancerEvent.Joins at hjoins
      split at hjoins
      · exact he ⟨_, _, rfl⟩
      · exact hjoins

/-! ### Runs -/

theorem balancerStep_eq_some_iff {b' : Balancer} :
    balancerStep (some b) e = some b' ↔
      ((e.action).run b).1.Returns ∧ b' = ((e.action).run b).2 := by
  unfold balancerStep
  rw [Option.bind_eq_bind, Option.bind_some]
  refine next_eq_some_iff (fun a s h => ?_) (fun err s h => ?_) fun s h => ?_
  · rw [h]
  · rw [h]
  · rw [h]

/-- The last registration of a connection of a subscriber: `ClientLogin` accepted the parameters of
a request of the connection, and gave the login that it was then registered with.  Since then the
connection has had this login, and nothing has registered it again. -/
def LastRegistration (start : Balancer) (es : List BalancerEvent) (client : ClientId)
    (auth : ServerDBAuthInfo) : Prop :=
  ∃ fs sur id params gs b, es = fs ++ .request client sur ⟨id, .login params⟩ :: gs ∧
    run balancerStep (some start) fs = some b ∧ b.isSubscriber client = true ∧
    LogsIn b.toState sur client params auth ∧
    ∀ hs, hs <+: gs → ∃ t, run balancerStep (some start)
        (fs ++ .request client sur ⟨id, .login params⟩ :: hs) = some t ∧
      t.loginOf client = some auth ∧
      ∀ e ks, gs = hs ++ e :: ks → ∀ info, ¬e.Joins t.toState client info

/-- Whoever registered last is logged in. -/
theorem LastRegistration.loginOf {start : Balancer} {es : List BalancerEvent}
    (h : LastRegistration start es client auth)
    (hrun : run balancerStep (some start) es = some b) : b.loginOf client = some auth := by
  obtain ⟨fs, sur, id, params, gs, b₀, rfl, -, -, -, hsince⟩ := h
  obtain ⟨t, ht, hlogin, -⟩ := hsince gs List.prefix_rfl
  rw [hrun] at ht
  rwa [Option.some.inj ht]

/-- A registration is the last one as long as no event registers the connection again. -/
theorem LastRegistration.concat {start b' : Balancer} {es : List BalancerEvent}
    (h : LastRegistration start es client auth) (hrun : run balancerStep (some start) es = some b)
    (hrun' : run balancerStep (some start) (es ++ [e]) = some b')
    (hlogin : b'.loginOf client = some auth) (hno : ∀ info, ¬e.Joins b.toState client info) :
    LastRegistration start (es ++ [e]) client auth := by
  obtain ⟨fs, sur, id, params, gs, b₀, rfl, hb₀, hopen, hlogs, hsince⟩ := h
  refine ⟨fs, sur, id, params, gs ++ [e], b₀, by simp, hb₀, hopen, hlogs, fun hs hhs => ?_⟩
  rcases List.prefix_concat_iff.mp hhs with rfl | hhs
  · refine ⟨b', by rw [← hrun']; simp, hlogin, fun e' ks heq => ?_⟩
    simp at heq
  · obtain ⟨t, ht, htlogin, htno⟩ := hsince hs hhs
    refine ⟨t, ht, htlogin, fun e' ks heq => ?_⟩
    obtain ⟨us, rfl⟩ := hhs
    rw [List.append_assoc, List.append_cancel_left_eq] at heq
    cases us with
    | nil =>
      -- The event is the new one.
      obtain ⟨rfl, -⟩ := List.cons.inj heq
      rw [List.append_nil] at hrun
      obtain rfl := Option.some.inj (ht.symm.trans hrun)
      exact hno
    | cons u us =>
      obtain ⟨rfl, -⟩ := List.cons.inj heq
      exact htno u us rfl

/-- Whoever is logged in as a subscriber has registered, and acts for the last registration. -/
theorem lastRegistration {start : Balancer} (hstart : ∀ client, start.clients client = none)
    {es : List BalancerEvent} (hrun : run balancerStep (some start) es = some b)
    (hs : b.session client = some (.subscriber, some auth)) :
    LastRegistration start es client auth := by
  induction es using List.reverseRecOn generalizing b with
  | nil =>
    obtain rfl : start = b := Option.some.inj hrun
    rw [State.session, hstart] at hs
    cases hs
  | append_singleton es e ih =>
    have hlogin : b.loginOf client = some auth := by
      rw [State.loginOf_eq, hs]
      rfl
    have hlast := hrun
    rw [run_concat] at hlast
    cases hb₀ : run balancerStep (some start) es with
    | none =>
      rw [hb₀] at hlast
      cases hlast
    | some b₀ =>
      rw [hb₀] at hlast
      obtain ⟨-, rfl⟩ := balancerStep_eq_some_iff.mp hlast
      rcases balancerSession_cases hs with ⟨hbefore, hno⟩ | ⟨hjoins, login, hsession⟩
      · exact (ih hb₀ hbefore).concat hb₀ hrun hlogin hno
      · -- Only a request of its own registers a connection of a subscriber.
        obtain ⟨c, hc, hkind⟩ := Option.map_eq_some_iff.mp hsession
        cases e with
        | service e =>
          cases e with
          | other e he =>
            cases e with
            | request client' sur req =>
              obtain ⟨id, command⟩ := req
              cases command with
              | login params =>
                obtain ⟨rfl, hopen, hlogs⟩ := hjoins
                refine ⟨es, sur, id, params, [], b₀, rfl, hb₀, hopen, hlogs, fun hs hhs => ?_⟩
                obtain rfl := List.prefix_nil.mp hhs
                exact ⟨_, hrun, hlogin, fun e' ks heq => absurd heq (by simp)⟩
              | _ => exact hjoins.elim
            | http client' sur input =>
              cases input with
              | request request =>
                obtain ⟨rfl, hopen, -⟩ := hjoins
                rw [hc, Option.any_some, (Prod.mk.inj hkind).1] at hopen
                exact absurd hopen (by decide)
              | _ => exact hjoins.elim
            | _ => exact hjoins.elim
          | _ => exact hjoins.elim
        | _ => exact hjoins.elim

end

end LoadBalance
