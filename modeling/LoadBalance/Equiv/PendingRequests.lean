import LoadBalance.Equiv.PingTimer

/-!
# The requests that wait for a response

The balancer asks its subscribers, and takes a response for the answer to the request with its id.
A request waits under an id exactly when it is the last one that was written with it to the
connection that is open now, and no response with the id has come since (`waiting_iff`).  So what is
known of a client was told on this very connection, in answer to the question
(`clInfo_answered`). -/

namespace LoadBalance

open LoadBalance.Action

/-- Of which class the connection is that is open at an address. -/
def State.kindOf (s : State) (client : ClientId) : Option ClientKind :=
  (s.session client).map Prod.fst

section

variable {s s' : State} {client other : ClientId} {kind : ClientKind}

theorem isSubscriber_iff_kindOf :
    s.isSubscriber client = true ↔ s.kindOf client = some .subscriber := by
  unfold State.isSubscriber State.kindOf State.session
  cases s.clients client with
  | none => simp
  | some c => simp

theorem kindOf_eq_none_iff : s.kindOf client = none ↔ s.clients client = none := by
  unfold State.kindOf State.session
  rw [Option.map_map, Option.map_eq_none_iff]

/-! ### The class of a connection -/

/-- A connection that is open now was open before, and of the same class. -/
def KindFrom (client : ClientId) (s s' : State) : Prop :=
  ∀ kind, s'.kindOf client = some kind → s.kindOf client = some kind

instance : IsPreorder State (KindFrom client) where
  refl _ _ h := h
  trans _ _ _ h h' kind hs := h kind (h' kind hs)

theorem kindFrom_of_quiet {P : Output → Prop} (s s' : State) (h : Quiet P s s') :
    KindFrom client s s' := by
  intro kind hs
  unfold State.kindOf at hs ⊢
  rwa [h.registry.session] at hs

theorem kindFrom_remove {c : Client} : KindFrom client s (s.remove other c) := by
  intro kind hs
  unfold State.kindOf State.session State.remove at hs
  by_cases h : client = other
  · subst h
    simp at hs
  · simpa [State.kindOf, State.session, Function.update_of_ne h] using hs

/-- A registration leaves the class as it is. -/
theorem kindFrom_register {info : ServerDBAuthInfo} {c : Client} (hc : s.clients other = some c) :
    KindFrom client s (s.register other info c) := by
  intro kind hs
  unfold State.kindOf State.session State.register at hs
  by_cases h : client = other
  · subst h
    simpa [State.kindOf, State.session, hc] using hs
  · simpa [State.kindOf, State.session, Function.update_of_ne h] using hs

/-- A connection was open before the event, or the event accepts it. -/
theorem kindOf_action [Fastotv] (e : Event)
    (h : (((e.action).run s).2).kindOf client = some kind) :
    s.kindOf client = some kind ∨ (s.clients client = none ∧ e = .accept client kind) := by
  by_cases haccept : s.clients client = none ∧ ∃ kind', e = .accept client kind'
  · obtain ⟨hnone, kind', rfl⟩ := haccept
    rw [run_action_accept hnone] at h
    unfold State.kindOf State.session at h
    dsimp only at h
    rw [Function.update_self] at h
    obtain rfl : kind' = kind := Option.some.inj h
    exact Or.inr ⟨hnone, rfl⟩
  · refine Or.inl (within_event (R := KindFrom client) (fun _ _ => kindFrom_of_quiet _ _)
      (fun other kind' he hnone => ?_) (fun other info s₁ c _ _ hc => ?_) (fun other s c _ => ?_)
      (fun other sur id params _ => ?_) (fun dclient sur id params _ => ?_) (fun db _ _ hs => hs)
      kind h)
    · intro kind hs
      have hne : client ≠ other := by
        rintro rfl
        exact haccept ⟨hnone, kind', he⟩
      simpa [State.kindOf, State.session, Function.update_of_ne hne] using hs
    · exact trans_of (KindFrom client) (kindFrom_register hc) (kindFrom_of_quiet _ _ quiet_join)
    · exact trans_of (KindFrom client) kindFrom_remove (kindFrom_of_quiet _ _ quiet_leave)
    · exact within_handleRequestGenerateCatchup (fun _ _ => kindFrom_of_quiet _ _)
        (within_closeAndDelete kindFrom_of_quiet fun _ _ _ => kindFrom_remove) fun _ _ _ hs => hs
    · exact kindFrom_of_quiet _ _ (keeps_handleRequestClientSendMessageForSubscriber
        (P := Anything) (fun _ _ _ => trivial) (fun _ _ => trivial) s)

end

/-! ### One event -/

/-- What an event makes of the requests that wait for a connection that stays open. -/
def BalancerEvent.waits (client : ClientId) (t : RequestTable) : BalancerEvent → RequestTable
  | .service _ => t
  | .requested client' id method => if client' = client then t.insert id method else t
  | .response client' ⟨some id, _⟩ => if client' = client then t.erase id else t
  | .response _ ⟨none, _⟩ => t

/-- The event is the answer to the question, where these requests wait for the connection. -/
def BalancerEvent.Answers (client : ClientId) (t : RequestTable) (e : BalancerEvent) : Prop :=
  ∃ id, e = .response client ⟨some id, some (.decoded ())⟩ ∧ t.lookup id = some .getClientInfo

/-- For a connection that is not open, nothing is kept. -/
structure Balancer.Tidy (b : Balancer) : Prop where
  requests : ∀ client, b.isSubscriber client = false → b.requests client = ∅
  clInfo : ∀ client, b.isSubscriber client = false → b.clInfo client = false

section

variable {b : Balancer} {client other : ClientId}

/-- The balancer when a request was taken out. -/
def Balancer.popped (b : Balancer) (client : ClientId) (id : String) : Balancer :=
  { b with requests := Function.update b.requests client ((b.requests client).erase id) }

/-- A response that no request waits for. -/
theorem run_popRequestByID_none {sid : RequestId}
    (h : ∀ id, sid = some id → (b.requests client).lookup id = none) :
    (popRequestByID client sid).run b = (.ok none, b) := by
  unfold popRequestByID
  cases sid with
  | none => rfl
  | some id =>
    dsimp only
    rw [run_bind, run_reads]
    dsimp only
    rw [h id rfl]
    rfl

/-- One that a request waits for. -/
theorem run_popRequestByID_some {id : String} {method : ServerMethod}
    (h : (b.requests client).lookup id = some method) :
    (popRequestByID client (some id)).run b = (.ok (some method), b.popped client id) := by
  unfold popRequestByID
  dsimp only
  rw [run_bind, run_reads]
  dsimp only
  rw [h]
  rfl

/-- A response that no request waits for changes nothing. -/
theorem run_handleResponceCommand_none {resp : SubscriberResponse}
    (h : ∀ id, resp.id = some id → (b.requests client).lookup id = none) :
    ((handleResponceCommand client resp).run b).2 = b := by
  unfold handleResponceCommand
  rw [run_bind_of_ok (run_popRequestByID_none h)]
  unfold logResponseId
  cases resp.id <;> rfl

/-- One that a request waits for takes it out, and if it is the answer to the question, the client
is known from then on. -/
theorem run_handleResponceCommand_some {result : Option (Params Unit)} {id : String}
    {method : ServerMethod} (h : (b.requests client).lookup id = some method) :
    ((handleResponceCommand client ⟨some id, result⟩).run b).2 =
      if result = some (.decoded ()) ∧ method = .getClientInfo then
        { b.popped client id with clInfo := Function.update b.clInfo client true }
      else b.popped client id := by
  unfold handleResponceCommand
  rw [run_bind_of_ok (run_popRequestByID_some h)]
  cases method with
  | ping =>
    rw [if_neg (by simp)]
    unfold handleResponceServerPing
    rcases result with _ | _ | _ | _ <;> rfl
  | getClientInfo =>
    unfold handleResponceServerGetClientInfo
    rcases result with _ | _ | _ | _
    · rfl
    · rfl
    · rfl
    · rw [if_pos ⟨rfl, rfl⟩]
      rfl
  | textNotification =>
    rw [if_neg (by simp)]
    rfl
  | other method =>
    rw [if_neg (by simp)]
    rfl

/-- A table without the id is the same without it. -/
theorem erase_of_lookup {t : RequestTable} {id : String} (h : t.lookup id = none) :
    t.erase id = t :=
  AList.ext (List.kerase_of_notMem_keys (AList.lookup_eq_none.mp h))

/-- What becomes of the requests when a response comes. -/
theorem requests_handleResponceCommand (other client : ClientId) (resp : SubscriberResponse) :
    ((handleResponceCommand other resp).run b).2.requests client =
        (BalancerEvent.response other resp).waits client (b.requests client) ∧
      (((handleResponceCommand other resp).run b).2.clInfo client = true ↔
        b.clInfo client = true ∨
          (BalancerEvent.response other resp).Answers client (b.requests client)) := by
  unfold BalancerEvent.waits
  by_cases hfind : ∃ id method, resp.id = some id ∧
      (b.requests other).lookup id = some method
  · obtain ⟨id, method, hid, hmethod⟩ := hfind
    obtain ⟨_, result⟩ := resp
    obtain rfl : _ = some id := hid
    rw [run_handleResponceCommand_some hmethod]
    have hanswers : (BalancerEvent.response other ⟨some id, result⟩).Answers client
        (b.requests client) ↔ client = other ∧ result = some (.decoded ()) ∧
          method = .getClientInfo := by
      constructor
      · rintro ⟨id', heq, hquestion⟩
        obtain ⟨rfl, hresp⟩ := BalancerEvent.response.inj heq
        obtain ⟨hid', rfl⟩ := SubscriberResponse.mk.inj hresp
        obtain rfl := Option.some.inj hid'
        exact ⟨rfl, rfl, Option.some.inj (hmethod.symm.trans hquestion)⟩
      · rintro ⟨rfl, rfl, rfl⟩
        exact ⟨id, rfl, hmethod⟩
    rw [hanswers]
    constructor
    · have hpopped : (b.popped other id).requests client = if other = client then
          (b.requests client).erase id else b.requests client := by
        unfold Balancer.popped
        dsimp only
        by_cases hclient : other = client
        · subst hclient
          rw [Function.update_self, if_pos rfl]
        · rw [Function.update_of_ne (Ne.symm hclient), if_neg hclient]
      split_ifs <;> exact hpopped
    · split_ifs with hanswer
      · show Function.update b.clInfo other true client = true ↔ _
        by_cases hclient : client = other
        · subst hclient
          rw [Function.update_self]
          exact iff_of_true rfl (Or.inr ⟨rfl, hanswer⟩)
        · rw [Function.update_of_ne hclient]
          exact (or_iff_left fun h => hclient h.1).symm
      · exact (or_iff_left fun h => hanswer h.2).symm
  · have hnone : ∀ id, resp.id = some id → (b.requests other).lookup id = none := by
      intro id hid
      by_contra hne
      obtain ⟨method, hmethod⟩ := Option.ne_none_iff_exists'.mp hne
      exact hfind ⟨id, method, hid, hmethod⟩
    rw [run_handleResponceCommand_none hnone]
    constructor
    · obtain ⟨sid, result⟩ := resp
      cases sid with
      | none => rfl
      | some id =>
        dsimp only
        split_ifs with hclient
        · -- No request has the id.
          subst hclient
          exact (erase_of_lookup (hnone id rfl)).symm
        · rfl
    · refine (or_iff_left ?_).symm
      rintro ⟨id, heq, hquestion⟩
      obtain ⟨rfl, rfl⟩ := BalancerEvent.response.inj heq
      rw [hnone id rfl] at hquestion
      cases hquestion

section

variable [Fastotv] [License] {e : BalancerEvent} {b' : Balancer} {kind : ClientKind}

/-- A connection that is open after an event was open before, or was accepted. -/
theorem kindOf_balancerEvent (h : (((e.action).run b).2).kindOf client = some kind) :
    b.kindOf client = some kind ∨
      (b.clients client = none ∧ e = .service (.other (.accept client kind) trivial)) := by
  by_cases he : ∃ e' h, e = .service (.other e' h)
  · obtain ⟨e', h', rfl⟩ := he
    rw [toState_other] at h
    rcases kindOf_action e' h with hbefore | ⟨hnone, rfl⟩
    · exact Or.inl hbefore
    · exact Or.inr ⟨hnone, rfl⟩
  · have halone : LeavesAlone b.toState ((e.action).run b).2.toState :=
      leavesAlone_balancerEvent fun e' h' heq => he ⟨e', h', heq⟩
    unfold State.kindOf State.session at h ⊢
    rw [halone.clients] at h
    exact Or.inl h

/-- What is kept of the connections after an event of the service. -/
theorem exists_forgotten {e : ServiceEvent} (hstep : balancerStep (some b) (.service e) = some b') :
    ∃ s : Service, b' = ({ b with toService := s } : Balancer).forgotten := by
  obtain ⟨hreturns, rfl⟩ := balancerStep_eq_some_iff.mp hstep
  unfold BalancerEvent.action at hreturns ⊢
  rw [run_bind_of_ok (run_reads _ _)] at hreturns ⊢
  dsimp only at hreturns ⊢
  rw [run_bind, run_attempt, run_zoom] at hreturns ⊢
  rcases hrun : (e.action).run b.toService with ⟨a | err | _, s⟩
  · exact ⟨s, rfl⟩
  · exact ⟨s, rfl⟩
  · rw [hrun] at hreturns
    exact hreturns.elim

/-- The other two events leave the connections as they are. -/
theorem isSubscriber_balancerEvent (he : ∀ e', e ≠ .service e') :
    ((e.action).run b).2.isSubscriber client = b.isSubscriber client := by
  unfold State.isSubscriber
  rw [(leavesAlone_balancerEvent fun _ _ heq => he _ heq).clients]

theorem run_action_requested (id : String) (method : ServerMethod) :
    (((BalancerEvent.requested other id method).action).run b).2 =
      if b.isSubscriber other then b.await other [(id, method)] else b := by
  unfold BalancerEvent.action
  rw [run_bind_of_ok (run_reads _ _)]
  dsimp only
  split_ifs <;> rfl

theorem run_action_response (resp : SubscriberResponse) :
    (((BalancerEvent.response other resp).action).run b).2 =
      if b.isSubscriber other then ((handleResponceCommand other resp).run b).2 else b := by
  unfold BalancerEvent.action
  rw [run_bind_of_ok (run_reads _ _)]
  dsimp only
  split_ifs
  · rw [run_attempt]
    rcases (handleResponceCommand other resp).run b with ⟨_ | _ | _, _⟩ <;> rfl
  · rfl

omit [Fastotv] [License] in
/-- What is for another connection changes nothing. -/
theorem waits_of_ne (t : RequestTable) (hne : other ≠ client) (resp : SubscriberResponse) :
    (BalancerEvent.response other resp).waits client t = t ∧
      ¬(BalancerEvent.response other resp).Answers client t := by
  constructor
  · obtain ⟨sid, result⟩ := resp
    cases sid with
    | none => rfl
    | some id => exact if_neg hne
  · rintro ⟨id, heq, -⟩
    exact hne (BalancerEvent.response.inj heq).1

/-- One event, for a connection that is open after it. -/
theorem pending_step (hstep : balancerStep (some b) e = some b')
    (hopen : b'.isSubscriber client = true) :
    b'.requests client = e.waits client (b.requests client) ∧
      (b'.clInfo client = true ↔
        b.clInfo client = true ∨ e.Answers client (b.requests client)) := by
  have hafter := (balancerStep_eq_some_iff.mp hstep).2
  cases e with
  | service e =>
    obtain ⟨s, rfl⟩ := exists_forgotten hstep
    have hsome : (s.clients client).isSome = true := by
      obtain ⟨c, hc, -⟩ := isSubscriber_iff.mp hopen
      exact Option.isSome_iff_exists.mpr ⟨c, hc⟩
    refine ⟨if_pos hsome, ?_⟩
    have hno : ¬(BalancerEvent.service e).Answers client (b.requests client) := by
      rintro ⟨id, heq, -⟩
      cases heq
    rw [or_iff_left hno]
    show ((s.clients client).isSome && b.clInfo client) = true ↔ _
    rw [hsome, Bool.true_and]
  | requested client' id method =>
    rw [hafter, isSubscriber_balancerEvent (by simp)] at hopen
    have hno : ¬(BalancerEvent.requested client' id method).Answers client
        (b.requests client) := by
      rintro ⟨id, heq, -⟩
      cases heq
    rw [hafter, run_action_requested, or_iff_left hno]
    unfold BalancerEvent.waits
    by_cases hclient : client' = client
    · subst hclient
      rw [if_pos hopen]
      dsimp only
      rw [if_pos rfl]
      exact ⟨Function.update_self .., Iff.rfl⟩
    · dsimp only
      rw [if_neg hclient]
      split_ifs
      · exact ⟨Function.update_of_ne (Ne.symm hclient) .., Iff.rfl⟩
      · exact ⟨rfl, Iff.rfl⟩
  | response client' resp =>
    rw [hafter, isSubscriber_balancerEvent (by simp)] at hopen
    rw [hafter, run_action_response]
    by_cases hclient : client' = client
    · subst hclient
      rw [if_pos hopen]
      exact requests_handleResponceCommand client' client' resp
    · split_ifs
      · exact requests_handleResponceCommand client' client resp
      · obtain ⟨hwaits, hno⟩ := waits_of_ne (b.requests client) hclient resp
        exact ⟨hwaits.symm, (or_iff_left hno).symm⟩

omit [Fastotv] [License] in
/-- A request waits after an event when the event writes it, or it waited before, and the event is
no response with its id, and no other request with it. -/
theorem lookup_waits_iff {t : RequestTable} {id : String} {method : ServerMethod} :
    (e.waits client t).lookup id = some method ↔ e = .requested client id method ∨
      (t.lookup id = some method ∧ (∀ resp, e = .response client resp → resp.id ≠ some id) ∧
        ∀ method', e ≠ .requested client id method') := by
  unfold BalancerEvent.waits
  cases e with
  | service e => simp
  | requested client' id' method' =>
    by_cases hclient : client' = client
    · subst hclient
      dsimp only
      rw [if_pos rfl]
      by_cases hid : id = id'
      · subst hid
        rw [AList.lookup_insert]
        simp
      · rw [AList.lookup_insert_ne hid]
        simp [Ne.symm hid]
    · simp [hclient]
  | response client' resp =>
    obtain ⟨sid, result⟩ := resp
    have hno : ∀ method, BalancerEvent.response client' ⟨sid, result⟩ ≠
        .requested client id method := by simp
    rw [or_iff_right (hno method), and_iff_left hno]
    cases sid with
    | none =>
      refine (and_iff_left fun resp heq => ?_).symm
      obtain ⟨-, rfl⟩ := BalancerEvent.response.inj heq
      exact nofun
    | some id' =>
      dsimp only
      by_cases hclient : client' = client
      · subst hclient
        rw [if_pos rfl]
        by_cases hid : id = id'
        · subst hid
          rw [AList.lookup_erase]
          exact iff_of_false nofun fun h => h.2 _ rfl rfl
        · rw [AList.lookup_erase_ne hid]
          refine (and_iff_left fun resp heq => ?_).symm
          obtain ⟨-, rfl⟩ := BalancerEvent.response.inj heq
          exact fun h => hid (Option.some.inj h).symm
      · rw [if_neg hclient]
        refine (and_iff_left fun resp heq => ?_).symm
        exact absurd (BalancerEvent.response.inj heq).1 hclient

/-- Nothing is kept for what is not open. -/
theorem tidy_step (hstep : balancerStep (some b) e = some b') (hb : b.Tidy) : b'.Tidy := by
  have hafter := (balancerStep_eq_some_iff.mp hstep).2
  cases e with
  | service e =>
    -- A connection that is open, and none of a subscriber, was none before.
    have hclosed : ∀ client, b'.isSubscriber client = false →
        b'.clients client = none ∨ b.isSubscriber client = false := by
      intro client hnot
      cases hkind : b'.kindOf client with
      | none => exact Or.inl (kindOf_eq_none_iff.mp hkind)
      | some kind =>
        have hne : kind ≠ .subscriber := by
          rintro rfl
          rw [isSubscriber_iff_kindOf.mpr hkind] at hnot
          cases hnot
        refine Or.inr (Bool.eq_false_iff.mpr fun hsub => ?_)
        have hbefore := isSubscriber_iff_kindOf.mp hsub
        rw [hafter] at hkind
        rcases kindOf_balancerEvent hkind with hkind' | ⟨hnone, -⟩
        · exact hne (Option.some.inj (hkind'.symm.trans hbefore))
        · rw [kindOf_eq_none_iff.mpr hnone] at hbefore
          cases hbefore
    obtain ⟨s, rfl⟩ := exists_forgotten hstep
    constructor
    · intro client hnot
      show (if (s.clients client).isSome then b.requests client else ∅) = ∅
      rcases hclosed client hnot with hnone | hbefore
      · have hnone' : s.clients client = none := hnone
        rw [hnone']
        rfl
      · rw [hb.requests client hbefore, ite_self]
    · intro client hnot
      show ((s.clients client).isSome && b.clInfo client) = false
      rcases hclosed client hnot with hnone | hbefore
      · have hnone' : s.clients client = none := hnone
        rw [hnone']
        rfl
      · rw [hb.clInfo client hbefore, Bool.and_false]
  | requested client' id method =>
    subst hafter
    constructor <;> intro client hnot <;> rw [isSubscriber_balancerEvent (by simp)] at hnot <;>
      rw [run_action_requested]
    · split_ifs with hsub
      · have hne : client ≠ client' := by
          rintro rfl
          rw [hsub] at hnot
          cases hnot
        exact (Function.update_of_ne hne ..).trans (hb.requests client hnot)
      · exact hb.requests client hnot
    · split_ifs
      · exact hb.clInfo client hnot
      · exact hb.clInfo client hnot
  | response client' resp =>
    subst hafter
    have hkeep : ∀ client, b.isSubscriber client = false → b.isSubscriber client' = true →
        ((handleResponceCommand client' resp).run b).2.requests client = b.requests client ∧
          (((handleResponceCommand client' resp).run b).2.clInfo client = true ↔
            b.clInfo client = true) := by
      intro client hnot hsub
      have hne : client' ≠ client := by
        rintro rfl
        rw [hsub] at hnot
        cases hnot
      obtain ⟨hwaits, hno⟩ := waits_of_ne (b.requests client) hne resp
      obtain ⟨hrequests, hinfo⟩ := requests_handleResponceCommand client' client resp
      exact ⟨hrequests.trans hwaits, hinfo.trans (or_iff_left hno)⟩
    constructor <;> intro client hnot <;> rw [isSubscriber_balancerEvent (by simp)] at hnot <;>
      rw [run_action_response]
    · split_ifs with hsub
      · rw [(hkeep client hnot hsub).1, hb.requests client hnot]
      · exact hb.requests client hnot
    · split_ifs with hsub
      · rw [Bool.eq_false_iff, ne_eq, (hkeep client hnot hsub).2, hb.clInfo client hnot]
        exact Bool.false_ne_true
      · exact hb.clInfo client hnot

end

/-! ### Runs -/

variable [Fastotv] [License] {start : Balancer} {es : List BalancerEvent}

/-- The connection is open after the events `fs`, and stays so through `gs`. -/
def OpenThrough (start : Balancer) (fs gs : List BalancerEvent) (client : ClientId) : Prop :=
  ∀ hs, hs <+: gs → ∃ b, run balancerStep (some start) (fs ++ hs) = some b ∧
    b.isSubscriber client = true

/-- A request was written to the connection that is open now, and since then no response with its id
has come, and no other request was written with it. -/
def Outstanding (start : Balancer) (es : List BalancerEvent) (client : ClientId) (id : String)
    (method : ServerMethod) : Prop :=
  ∃ fs gs, es = fs ++ .requested client id method :: gs ∧
    OpenThrough start fs (.requested client id method :: gs) client ∧
    (∀ resp, .response client resp ∈ gs → resp.id ≠ some id) ∧
    ∀ method', .requested client id method' ∉ gs

theorem tidy_run (hstart : start.Tidy) (hrun : run balancerStep (some start) es = some b) :
    b.Tidy := run_invariant_some' (fun _ => rfl) (fun _ _ _ h => tidy_step h) hrun hstart

/-- One more event. -/
theorem OpenThrough.concat {fs gs : List BalancerEvent} {e : BalancerEvent}
    (h : OpenThrough start fs gs client)
    (hrun : run balancerStep (some start) (fs ++ (gs ++ [e])) = some b)
    (hopen : b.isSubscriber client = true) : OpenThrough start fs (gs ++ [e]) client := by
  intro hs hhs
  rcases List.prefix_concat_iff.mp hhs with rfl | hhs
  · exact ⟨b, hrun, hopen⟩
  · exact h hs hhs

/-- What is outstanding after one more event, when the connection is open. -/
theorem outstanding_concat {e : BalancerEvent} {b₀ : Balancer}
    (hb₀ : run balancerStep (some start) es = some b₀)
    (hrun : run balancerStep (some start) (es ++ [e]) = some b)
    (hopen : b.isSubscriber client = true) {id : String} {method : ServerMethod} :
    Outstanding start (es ++ [e]) client id method ↔
      e = .requested client id method ∨ (Outstanding start es client id method ∧
        (∀ resp, e = .response client resp → resp.id ≠ some id) ∧
        ∀ method', e ≠ .requested client id method') := by
  constructor
  · rintro ⟨fs, gs, heq, hthrough, hresp, hlast⟩
    rcases List.eq_nil_or_concat gs with rfl | ⟨gs, e', rfl⟩
    · obtain ⟨-, heq⟩ := List.append_inj' heq rfl
      exact Or.inl (List.cons.inj heq).1
    · rw [List.concat_eq_append, ← List.cons_append, ← List.append_assoc] at heq
      obtain ⟨rfl, he⟩ := List.append_inj' heq rfl
      obtain rfl := (List.cons.inj he).1
      rw [List.concat_eq_append] at hthrough hresp hlast
      have hmem : e ∈ gs ++ [e] := List.mem_append_right _ List.mem_cons_self
      refine Or.inr ⟨⟨fs, gs, rfl, fun hs hhs => hthrough hs (hhs.trans ?_), fun resp hmem =>
        hresp resp (List.mem_append_left _ hmem), fun method' hmem =>
        hlast method' (List.mem_append_left _ hmem)⟩, fun resp he => ?_, fun method' he => ?_⟩
      · exact List.prefix_append (_ :: gs) [e]
      · exact hresp resp (he ▸ hmem)
      · exact hlast method' (he ▸ hmem)
  · rintro (rfl | ⟨⟨fs, gs, rfl, hthrough, hresp, hlast⟩, he, hother⟩)
    · have hbefore : b₀.isSubscriber client = true := by
        rw [run_concat, hb₀] at hrun
        rw [(balancerStep_eq_some_iff.mp hrun).2, isSubscriber_balancerEvent (by simp)] at hopen
        exact hopen
      refine ⟨es, [], rfl, fun hs hhs => ?_, fun _ h => absurd h List.not_mem_nil,
        fun _ => List.not_mem_nil⟩
      rcases List.prefix_cons_iff.mp hhs with rfl | ⟨t, rfl, ht⟩
      · exact ⟨b₀, by rw [List.append_nil, hb₀], hbefore⟩
      · obtain rfl := List.prefix_nil.mp ht
        exact ⟨b, hrun, hopen⟩
    · rw [List.append_assoc, List.cons_append] at hrun
      refine ⟨fs, gs ++ [e], by simp, OpenThrough.concat hthrough hrun hopen, fun resp hmem => ?_,
        fun method' hmem => ?_⟩
      · rcases List.mem_append.mp hmem with hmem | hmem
        · exact hresp resp hmem
        · exact he resp (List.mem_singleton.mp hmem).symm
      · rcases List.mem_append.mp hmem with hmem | hmem
        · exact hlast method' hmem
        · exact hother method' (List.mem_singleton.mp hmem).symm

theorem lookup_requests_run_iff (hstart : start.Tidy) (hnone : ∀ client, start.requests client = ∅)
    (hrun : run balancerStep (some start) es = some b) (client : ClientId) (id : String)
    (method : ServerMethod) :
    (b.requests client).lookup id = some method ↔ Outstanding start es client id method := by
  induction es using List.reverseRecOn generalizing b with
  | nil =>
    obtain rfl : start = b := Option.some.inj hrun
    rw [hnone, AList.lookup_empty]
    refine iff_of_false nofun ?_
    rintro ⟨fs, gs, heq, -⟩
    simp at heq
  | append_singleton es e ih =>
    have hlast := hrun
    rw [run_concat] at hlast
    cases hb₀ : run balancerStep (some start) es with
    | none =>
      rw [hb₀] at hlast
      cases hlast
    | some b₀ =>
      rw [hb₀] at hlast
      have htidy : b.Tidy := tidy_run hstart hrun
      cases hopen : b.isSubscriber client with
      | false =>
        -- The connection is not open.
        rw [htidy.requests client hopen, AList.lookup_empty]
        refine iff_of_false nofun ?_
        rintro ⟨fs, gs, heq, hthrough, -⟩
        obtain ⟨b', hb', hopen'⟩ := hthrough _ List.prefix_rfl
        rw [← heq, hrun] at hb'
        obtain rfl := Option.some.inj hb'
        rw [hopen] at hopen'
        cases hopen'
      | true =>
        rw [(pending_step hlast hopen).1, lookup_waits_iff, outstanding_concat hb₀ hrun hopen,
          ih hb₀]

theorem exists_answer_run (hstart : start.Tidy) (hnone : ∀ client, start.requests client = ∅)
    (hunknown : ∀ client, start.clInfo client = false)
    (hrun : run balancerStep (some start) es = some b) (hknown : b.clInfo client = true) :
    ∃ fs id gs, es = fs ++ .response client ⟨some id, some (.decoded ())⟩ :: gs ∧
      OpenThrough start fs (.response client ⟨some id, some (.decoded ())⟩ :: gs) client ∧
      Outstanding start fs client id .getClientInfo := by
  induction es using List.reverseRecOn generalizing b with
  | nil =>
    obtain rfl : start = b := Option.some.inj hrun
    rw [hunknown] at hknown
    cases hknown
  | append_singleton es e ih =>
    have hlast := hrun
    rw [run_concat] at hlast
    cases hb₀ : run balancerStep (some start) es with
    | none =>
      rw [hb₀] at hlast
      cases hlast
    | some b₀ =>
      rw [hb₀] at hlast
      have hopen : b.isSubscriber client = true := by
        by_contra hnot
        rw [(tidy_run hstart hrun).clInfo client (Bool.eq_false_iff.mpr hnot)] at hknown
        cases hknown
      rcases (pending_step hlast hopen).2.mp hknown with hbefore | ⟨id, rfl, hquestion⟩
      · obtain ⟨fs, id, gs, rfl, hthrough, hasked⟩ := ih hb₀ hbefore
        refine ⟨fs, id, gs ++ [e], by simp, OpenThrough.concat hthrough ?_ hopen, hasked⟩
        rw [← hrun, List.append_assoc]
      · refine ⟨es, id, [], rfl, fun hs hhs => ?_, ?_⟩
        · rcases List.prefix_cons_iff.mp hhs with rfl | ⟨t, rfl, ht⟩
          · refine ⟨b₀, by rw [List.append_nil, hb₀], ?_⟩
            rw [(balancerStep_eq_some_iff.mp hlast).2, isSubscriber_balancerEvent (by simp)]
              at hopen
            exact hopen
          · obtain rfl := List.prefix_nil.mp ht
            exact ⟨b, hrun, hopen⟩
        · rw [← lookup_requests_run_iff hstart hnone hb₀]
          exact hquestion

omit [Fastotv] [License] in
theorem tidy_initial (s : Service) : (Balancer.initial s).Tidy := ⟨fun _ _ => rfl, fun _ _ => rfl⟩

/-- The requests that wait for a response are, for each id, the last one that was written with it to
the connection that is open now, when no response with it has come since: none that was answered,
and none of a connection that was at the same address before. -/
theorem waiting_iff (s : Service) (es : List BalancerEvent)
    (hrun : run balancerStep (some (Balancer.initial s)) es = some b) (client : ClientId)
    (id : String) (method : ServerMethod) :
    (b.requests client).lookup id = some method ↔
      Outstanding (Balancer.initial s) es client id method :=
  lookup_requests_run_iff (tidy_initial s) (fun _ => rfl) hrun client id method

/-- What is known of a client was told on the connection that is open now: the question was written
to it, and this was the first response with its id. -/
theorem clInfo_answered (s : Service) (es : List BalancerEvent)
    (hrun : run balancerStep (some (Balancer.initial s)) es = some b)
    (hknown : b.clInfo client = true) :
    ∃ fs id gs, es = fs ++ .response client ⟨some id, some (.decoded ())⟩ :: gs ∧
      OpenThrough (Balancer.initial s) fs (.response client ⟨some id, some (.decoded ())⟩ :: gs)
        client ∧
      Outstanding (Balancer.initial s) fs client id .getClientInfo :=
  exists_answer_run (tidy_initial s) (fun _ => rfl) (fun _ => rfl) hrun hknown

end

namespace Sample

/-- A connection that is asked about its client, and answers. -/
def questioned : List BalancerEvent :=
  [.service (.other (.accept 7 .subscriber) trivial), .requested 7 "2" .getClientInfo]

def answered : List BalancerEvent := questioned ++ [.response 7 ⟨some "2", some (.decoded ())⟩]

/-- Two pings are written after the question, the second one with the id of the first, and the
question is answered. -/
def pinged : List BalancerEvent :=
  questioned ++ [.requested 7 "3" .ping, .requested 7 "3" .ping,
    .response 7 ⟨some "2", some (.decoded ())⟩]

end Sample

open Sample in
theorem waiting_iff_sample :
    Outstanding (Balancer.initial service) pinged 7 "3" .ping ∧
      ¬Outstanding (Balancer.initial service) pinged 7 "2" .getClientInfo :=
  ⟨(waiting_iff service pinged rfl 7 "3" .ping).mp (by decide),
    fun h => absurd ((waiting_iff service pinged rfl 7 "2" .getClientInfo).mpr h) (by decide)⟩

open Sample in
theorem clInfo_answered_sample :
    ∃ b fs id, run balancerStep (some (Balancer.initial service)) answered = some b ∧
      b.clInfo 7 = true ∧ Outstanding (Balancer.initial service) fs 7 id .getClientInfo := by
  obtain ⟨b, hrun, hknown⟩ : ∃ b, run balancerStep (some (Balancer.initial service)) answered =
      some b ∧ b.clInfo 7 = true := ⟨_, rfl, by decide⟩
  obtain ⟨fs, id, _, _, _, hasked⟩ := clInfo_answered service answered hrun hknown
  exact ⟨b, fs, id, hrun, hknown, hasked⟩

end LoadBalance
