import LoadBalance.Equiv.Registrations
import LoadBalance.Subscribers.PingTimer

/-!
# A tick of the ping timer

A tick goes over the connections of the subscribers while it closes some of them, so what it reads
of one must not depend on what it did to those before (`run_pingSubscribers`).  Then it does to each
what other events do: a request is written to it, or two are, or it is closed.
-/

namespace LoadBalance

open LoadBalance.Action

/-- The requests that are written to a connection, which takes the ping. -/
def PingTick.asks (tick : PingTick) (b : Balancer) (client : ClientId) :
    List (String × ServerMethod) :=
  (tick.pingId client, .ping) ::
    if (b.loginOf client).isSome ∧ b.clInfo client = false ∧ tick.sendsQuestion client then
      [(tick.questionId client, .getClientInfo)]
    else []

/-- What the tick is for one connection. -/
def PingTick.events (tick : PingTick) (b : Balancer) (client : ClientId) : List BalancerEvent :=
  if tick.sendsPing client then (tick.asks b client).map fun r => .requested client r.1 r.2
  else [.service (.other (.close client) trivial)]

/-- The table with more requests. -/
def withRequests (t : RequestTable) (rs : List (String × ServerMethod)) : RequestTable :=
  rs.foldl (fun t r => t.insert r.1 r.2) t

/-- Requests wait for a connection. -/
def Balancer.await (b : Balancer) (client : ClientId) (rs : List (String × ServerMethod)) :
    Balancer :=
  { b with requests := Function.update b.requests client (withRequests (b.requests client) rs) }

/-- What is kept of the connections that are there. -/
def Balancer.forgotten (b : Balancer) : Balancer :=
  { b with
    requests := fun client => if (b.clients client).isSome then b.requests client else ∅
    clInfo := fun client => (b.clients client).isSome && b.clInfo client }

/-- Another state of what the loops share. -/
def Balancer.withState (b : Balancer) (s : State) : Balancer :=
  { b with toService := { b.toService with toState := s } }

section

variable {tick : PingTick} {b : Balancer} {client other : ClientId} {c : Client}

theorem isSubscriber_iff {s : State} :
    s.isSubscriber client = true ↔ ∃ c, s.clients client = some c ∧ c.kind = .subscriber := by
  unfold State.isSubscriber
  rw [Option.any_eq_true]
  exact exists_congr fun c => and_congr_right fun _ => decide_eq_true_iff

theorem await_await (rs rs' : List (String × ServerMethod)) :
    (b.await client rs).await client rs' = b.await client (rs ++ rs') := by
  unfold Balancer.await withRequests
  dsimp only
  rw [Function.update_self, Function.update_idem, List.foldl_append]

/-! ### One connection -/

theorem run_writeRequest (sends : Bool) (id : String) (method : ServerMethod) :
    (writeRequest sends client id method).run b =
      if sends then (.ok (), b.await client [(id, method)]) else (.error .socket, b) := by
  unfold writeRequest
  split_ifs <;> rfl

theorem run_sharedState {α : Type} (x : Call α) :
    (sharedState x).run b = ((x.run b.toState).1, b.withState (x.run b.toState).2) := by
  unfold sharedState shared
  rw [run_zoom, run_zoom]
  rfl

theorem run_sharedState_deref (hc : b.clients client = some c) :
    (sharedState (deref client)).run b = (.ok c, b) := by
  rw [run_sharedState, run_deref hc]
  rfl

/-- A connection that takes the ping. -/
theorem run_pingSubscriber (hc : b.clients client = some c) (hsends : tick.sendsPing client = true) :
    (pingSubscriber tick client).run b = (.ok (), b.await client (tick.asks b client)) := by
  have hlogin : b.loginOf client = c.login := by rw [State.loginOf, hc, Option.bind_some]
  have hpinged : (b.await client [(tick.pingId client, .ping)]).clients client = some c := hc
  unfold pingSubscriber PingTick.asks
  rw [run_bind_of_ok (by rw [run_result, run_writeRequest, hsends]; rfl)]
  dsimp only
  rw [run_bind_of_ok (run_sharedState_deref hpinged), hlogin]
  cases c.login with
  | none => rfl
  | some auth =>
    have hread : (reads fun s : Balancer => .ok (s.clInfo client) : BalancerCall Bool).run
        (b.await client [(tick.pingId client, .ping)]) =
          (.ok (b.clInfo client), b.await client [(tick.pingId client, .ping)]) := rfl
    dsimp only
    rw [run_bind_of_ok hread]
    cases b.clInfo client with
    | true => rw [if_pos rfl, if_neg (by simp), run_pure]
    | false =>
      rw [if_neg Bool.false_ne_true, run_attempt, run_writeRequest]
      cases tick.sendsQuestion client with
      | true =>
        rw [if_pos rfl, if_pos (by simp)]
        dsimp only
        rw [await_await]
        rfl
      | false =>
        rw [if_neg Bool.false_ne_true, if_neg (by simp)]

/-- One that does not. -/
theorem run_pingSubscriber_close (hc : b.clients client = some c)
    (hsends : tick.sendsPing client = false) :
    (pingSubscriber tick client).run b =
      (.ok (), (b.withState (b.leave client c)).forgotten) := by
  unfold pingSubscriber
  rw [run_bind_of_ok (by rw [run_result, run_writeRequest, hsends]; rfl)]
  dsimp only
  rw [run_bind_of_ok (by rw [run_sharedState, run_closeAndDelete hc])]
  rfl

section

variable [Fastotv] [License]

/-- Requests to an open connection, as events. -/
theorem run_requested {b : Balancer} (hopen : b.isSubscriber client = true)
    (rs : List (String × ServerMethod)) :
    run balancerStep (some b) (rs.map fun r => .requested client r.1 r.2) =
      some (b.await client rs) := by
  induction rs generalizing b with
  | nil =>
    have hsame : b.await client [] = b := by
      unfold Balancer.await withRequests
      rw [List.foldl_nil, Function.update_eq_self]
    rw [hsame]
    rfl
  | cons r rs ih =>
    have hstep : balancerStep (some b) (.requested client r.1 r.2) = some (b.await client [r]) := by
      refine balancerStep_eq_some_iff.mpr ?_
      unfold BalancerEvent.action
      rw [run_bind_of_ok (run_reads _ _)]
      dsimp only
      rw [if_pos hopen]
      exact ⟨trivial, rfl⟩
    have hopen' : (b.await client [r]).isSubscriber client = true := hopen
    rw [List.map_cons, run_cons, hstep, ih hopen', await_await]
    rfl

/-- The end of a connection, as an event. -/
theorem balancerStep_close (hc : b.clients client = some c) :
    balancerStep (some b) (.service (.other (.close client) trivial)) =
      some ((b.withState (b.leave client c)).forgotten) := by
  have hevent : (Event.action (.close client)).run b.toState = (.ok (), b.leave client c) :=
    run_action_close hc
  have hservice : (ServiceEvent.action (.other (.close client) trivial)).run b.toService =
      (.ok (), { b.toService with toState := b.leave client c }) := by
    unfold ServiceEvent.action shared
    rw [run_bind_of_ok (run_reads _ _)]
    dsimp only
    rw [run_zoom, hevent]
  refine balancerStep_eq_some_iff.mpr ?_
  unfold BalancerEvent.action
  rw [run_bind_of_ok (run_reads _ _)]
  dsimp only
  rw [run_bind_of_ok (by rw [run_attempt, run_zoom, hservice])]
  exact ⟨trivial, rfl⟩

/-! ### All of them -/

/-- Nothing is different about a connection that is there. -/
structure Balancer.SameAt (b b' : Balancer) (client : ClientId) : Prop where
  clients : b'.clients client = b.clients client
  requests : b.clients client ≠ none → b'.requests client = b.requests client
  clInfo : b.clients client ≠ none → b'.clInfo client = b.clInfo client

/-- What the daemon is told when a connection ends. -/
def State.farewell (s : State) (client : ClientId) : List Output :=
  match s.loginOf client with
  | some login => notice .subscriberDisConnected login
  | none => []

/-- The connections of the users without one of them. -/
def State.connectionsWithout (s : State) (connections : Multimap UserId ClientId)
    (client : ClientId) : Multimap UserId ClientId :=
  match s.loginOf client with
  | some login => connections.eraseFirst login.uid client
  | none => connections

/-- A tick has gone over these connections. -/
structure Ticked (tick : PingTick) (online : List ClientId) (b b' : Balancer) : Prop where
  /-- To each one that takes it, the ping was written, and the question too if it was due. -/
  pinged : ∀ client ∈ online, tick.sendsPing client = true →
    b'.clients client = b.clients client ∧ b'.clInfo client = b.clInfo client ∧
      b'.requests client = withRequests (b.requests client) (tick.asks b client)
  /-- The others were closed. -/
  closed : ∀ client ∈ online, tick.sendsPing client = false → b'.clients client = none
  elsewhere : ∀ client ∉ online, b.SameAt b' client
  sent : b'.sent = b.sent ++
    (online.filter fun client => !tick.sendsPing client).flatMap b.farewell
  connections : b'.connections =
    (online.filter fun client => !tick.sendsPing client).foldl b.connectionsWithout b.connections
  /-- Nothing else is different. -/
  frame : b' = { b with
    clients := b'.clients
    connections := b'.connections
    sent := b'.sent
    requests := b'.requests
    clInfo := b'.clInfo }

omit [Fastotv] [License] in
theorem PingTick.events_congr {b₁ : Balancer} (hsame : b.SameAt b₁ client)
    (hopen : b.clients client ≠ none) :
    tick.events b₁ client = tick.events b client ∧ tick.asks b₁ client = tick.asks b client := by
  have hlogin : b₁.loginOf client = b.loginOf client := by
    unfold State.loginOf
    rw [hsame.clients]
  have hasks : tick.asks b₁ client = tick.asks b client := by
    unfold PingTick.asks
    rw [hlogin, hsame.clInfo hopen]
  refine ⟨?_, hasks⟩
  unfold PingTick.events
  rw [hasks]

/-- One turn of the loop is what the events do, and leaves the other connections alone. -/
theorem run_pingSubscriber_events (tick : PingTick) (hopen : b.isSubscriber client = true) :
    ∃ b', (pingSubscriber tick client).run b = (.ok (), b') ∧
      run balancerStep (some b) (tick.events b client) = some b' ∧ Ticked tick [client] b b' := by
  obtain ⟨c, hc, -⟩ := isSubscriber_iff.mp hopen
  cases hsends : tick.sendsPing client with
  | true =>
    refine ⟨_, run_pingSubscriber hc hsends, ?_, ?_⟩
    · unfold PingTick.events
      rw [if_pos hsends, run_requested hopen]
    · refine ⟨fun other hother _ => ?_, fun other hother hnot => ?_, fun other hother => ?_, ?_, ?_,
        rfl⟩
      · obtain rfl := List.mem_singleton.mp hother
        exact ⟨rfl, rfl, Function.update_self ..⟩
      · obtain rfl := List.mem_singleton.mp hother
        rw [hsends] at hnot
        cases hnot
      · have hne : other ≠ client := fun h => hother (List.mem_singleton.mpr h)
        exact ⟨rfl, fun _ => Function.update_of_ne hne .., fun _ => rfl⟩
      · rw [List.filter_cons, if_neg (by simp [hsends]), List.filter_nil, List.flatMap_nil,
          List.append_nil]
        rfl
      · rw [List.filter_cons, if_neg (by simp [hsends])]
        rfl
  | false =>
    have hend : ((b.withState (b.leave client c)).forgotten).clients client = none :=
      Function.update_self ..
    refine ⟨_, run_pingSubscriber_close hc hsends, ?_, ?_⟩
    · unfold PingTick.events
      rw [if_neg (by simp [hsends]), run_cons, balancerStep_close hc, run_nil]
    · have hlogin : b.loginOf client = c.login := congrArg (Option.bind · Client.login) hc
      refine ⟨fun other hother h => ?_, fun other hother _ => ?_, fun other hother => ?_, ?_, ?_,
        rfl⟩
      · obtain rfl := List.mem_singleton.mp hother
        rw [hsends] at h
        cases h
      · obtain rfl := List.mem_singleton.mp hother
        exact hend
      · have hne : other ≠ client := fun h => hother (List.mem_singleton.mpr h)
        have hclients : (b.leave client c).clients other = b.clients other :=
          Function.update_of_ne hne ..
        refine ⟨hclients, fun hopen' => if_pos ?_, fun hopen' => ?_⟩
        · show ((b.leave client c).clients other).isSome = true
          rw [hclients]
          exact Option.isSome_iff_ne_none.mpr hopen'
        · show (((b.leave client c).clients other).isSome && b.clInfo other) = b.clInfo other
          rw [hclients, Option.isSome_iff_ne_none.mpr hopen', Bool.true_and]
      · rw [List.filter_cons, if_pos (by simp [hsends]), List.filter_nil, List.flatMap_singleton]
        show b.sent ++ _ = b.sent ++ _
        unfold State.farewell
        generalize b.loginOf client = login at hlogin ⊢
        subst hlogin
        cases c.login <;> rfl
      · rw [List.filter_cons, if_pos (by simp [hsends]), List.filter_nil]
        show _ = b.connectionsWithout b.connections client
        unfold State.connectionsWithout
        rw [hlogin]
        rfl

omit [Fastotv] [License] in
/-- A turn and those after it. -/
theorem Ticked.cons {b₁ b₂ : Balancer} {rest : List ClientId} (hnot : client ∉ rest)
    (hopen : ∀ other ∈ client :: rest, b.clients other ≠ none) (h : Ticked tick [client] b b₁)
    (h' : Ticked tick rest b₁ b₂) : Ticked tick (client :: rest) b b₂ := by
  have hfirst : b₁.SameAt b₂ client := h'.elsewhere client hnot
  have hrest : ∀ other ∈ rest, b.SameAt b₁ other := by
    intro other hother
    refine h.elsewhere other fun hmem => hnot ?_
    rwa [← List.mem_singleton.mp hmem]
  have hhead : client ∈ [client] := List.mem_singleton_self client
  have hlogin : ∀ other ∈ rest, b₁.loginOf other = b.loginOf other := by
    intro other hother
    unfold State.loginOf
    rw [(hrest other hother).clients]
  refine ⟨fun other hother hsends => ?_, fun other hother hsends => ?_, fun other hother => ?_, ?_,
    ?_, ?_⟩
  · rcases List.mem_cons.mp hother with rfl | hother
    · obtain ⟨hclients, hinfo, hrequests⟩ := h.pinged other hhead hsends
      have hne : b₁.clients other ≠ none := hclients ▸ hopen other List.mem_cons_self
      exact ⟨hfirst.clients.trans hclients, (hfirst.clInfo hne).trans hinfo,
        (hfirst.requests hne).trans hrequests⟩
    · obtain ⟨hclients, hinfo, hrequests⟩ := h'.pinged other hother hsends
      have hsame := hrest other hother
      have hne := hopen other (List.mem_cons_of_mem _ hother)
      exact ⟨hclients.trans hsame.clients, hinfo.trans (hsame.clInfo hne), by
        rw [hrequests, hsame.requests hne, (PingTick.events_congr hsame hne).2]⟩
  · rcases List.mem_cons.mp hother with rfl | hother
    · exact hfirst.clients.trans (h.closed other hhead hsends)
    · exact h'.closed other hother hsends
  · rw [List.mem_cons, not_or] at hother
    have h₁ := h.elsewhere other (by simpa using hother.1)
    have h₂ := h'.elsewhere other hother.2
    exact ⟨h₂.clients.trans h₁.clients,
      fun hne => (h₂.requests (by rwa [h₁.clients])).trans (h₁.requests hne),
      fun hne => (h₂.clInfo (by rwa [h₁.clients])).trans (h₁.clInfo hne)⟩
  · have hfarewell : ∀ other ∈ rest.filter fun client => !tick.sendsPing client,
        b₁.farewell other = b.farewell other := by
      intro other hother
      unfold State.farewell
      rw [hlogin other (List.mem_of_mem_filter hother)]
    rw [h'.sent, h.sent, List.append_assoc, List.flatMap_congr hfarewell, ← List.flatMap_append,
      ← List.filter_append, List.singleton_append]
  · have hwithout : ∀ (connections : Multimap UserId ClientId) (other : ClientId),
        other ∈ (rest.filter fun client => !tick.sendsPing client) →
        b₁.connectionsWithout connections other = b.connectionsWithout connections other := by
      intro connections other hother
      unfold State.connectionsWithout
      rw [hlogin other (List.mem_of_mem_filter hother)]
    rw [h'.connections, h.connections, List.foldl_ext _ _ _ hwithout, ← List.foldl_append,
      ← List.filter_append, List.singleton_append]
  · rw [h'.frame, h.frame]

/-- A tick that goes over open connections, each of them once, is what the events for each of them
do. -/
theorem run_pingSubscribers (tick : PingTick) {online : List ClientId} (hnodup : online.Nodup)
    (hopen : ∀ client ∈ online, b.isSubscriber client = true) :
    ∃ b', (pingSubscribers tick online).run b = (.ok (), b') ∧
      run balancerStep (some b) (online.flatMap (tick.events b)) = some b' ∧
      Ticked tick online b b' := by
  induction online generalizing b with
  | nil => exact ⟨b, rfl, rfl, by simp, by simp, fun _ _ => ⟨rfl, fun _ => rfl, fun _ => rfl⟩,
      by simp, rfl, rfl⟩
  | cons client rest ih =>
    obtain ⟨hnot, hnodup'⟩ := List.nodup_cons.mp hnodup
    obtain ⟨hclient, hrest⟩ := List.forall_mem_cons.mp hopen
    have hne : ∀ other ∈ client :: rest, b.clients other ≠ none := by
      intro other hother
      obtain ⟨c, hc, -⟩ := isSubscriber_iff.mp (hopen other hother)
      rw [hc]
      exact Option.some_ne_none c
    obtain ⟨b₁, hrun₁, hevents₁, hticked₁⟩ := run_pingSubscriber_events tick hclient
    have hsame : ∀ other ∈ rest, b.SameAt b₁ other := by
      intro other hother
      refine hticked₁.elsewhere other fun hmem => hnot ?_
      rwa [← List.mem_singleton.mp hmem]
    obtain ⟨b₂, hrun₂, hevents₂, hticked₂⟩ := ih hnodup' fun other hother => by
      unfold State.isSubscriber
      rw [(hsame other hother).clients]
      exact hrest other hother
    refine ⟨b₂, ?_, ?_, hticked₁.cons hnot hne hticked₂⟩
    · rw [pingSubscribers, run_bind_of_ok hrun₁, hrun₂]
    · have hevents : rest.flatMap (tick.events b₁) = rest.flatMap (tick.events b) := by
        refine List.flatMap_congr fun other hother => ?_
        exact (PingTick.events_congr (hsame other hother)
          (hne other (List.mem_cons_of_mem _ hother))).1
      rw [List.flatMap_cons, run_append, hevents₁, ← hevents, hevents₂]

/-! ### Runs -/

/-- A tick of a run goes over the connections that are open. -/
def TimedEvent.TicksOnline (b : Balancer) : TimedEvent → Prop
  | .balancer _ => True
  | .pingTimer _ online => b.IsOnline online

/-- What an event with the ticks is without them: it is itself, and of a tick there is a request or
two to each connection, or its end. -/
inductive TimedEvent.Expands : TimedEvent → List BalancerEvent → Prop where
  | balancer (e : BalancerEvent) : Expands (.balancer e) [e]
  | pingTimer (tick : PingTick) (online : List ClientId) (b : Balancer) :
      Expands (.pingTimer tick online) (online.flatMap (tick.events b))

theorem timedStep_eq_some_iff {e : TimedEvent} {b' : Balancer} :
    timedStep (some b) e = some b' ↔
      ((e.action).run b).1.Returns ∧ b' = ((e.action).run b).2 := by
  unfold timedStep
  rw [Option.bind_eq_bind, Option.bind_some]
  refine next_eq_some_iff (fun a s h => ?_) (fun err s h => ?_) fun s h => ?_
  · rw [h]
  · rw [h]
  · rw [h]

/-- A tick is never the end of the process.  Every connection of a subscriber that takes the ping
gets one, and the question exactly when it is logged in and has not told about the client, if it
takes this too; every other one is closed, and the daemon is told of those that were logged in; and
nothing else happens. -/
theorem timedStep_pingTimer (tick : PingTick) {online : List ClientId} {b : Balancer}
    (honline : b.IsOnline online) :
    ∃ b', timedStep (some b) (.pingTimer tick online) = some b' ∧ Ticked tick online b b' ∧
      ∀ client, b'.isSubscriber client = (b.isSubscriber client && tick.sendsPing client) := by
  obtain ⟨b', hrun, -, hticked⟩ := run_pingSubscribers tick honline.nodup
    fun client hclient => (honline.mem_iff client).mp hclient
  refine ⟨b', timedStep_eq_some_iff.mpr ?_, hticked, fun client => ?_⟩
  · show ((pingSubscribers tick online).run b).1.Returns ∧
      _ = ((pingSubscribers tick online).run b).2
    rw [hrun]
    exact ⟨trivial, rfl⟩
  · have hiff := honline.mem_iff client
    by_cases hclient : client ∈ online
    · cases hsends : tick.sendsPing client with
      | true =>
        unfold State.isSubscriber
        rw [(hticked.pinged client hclient hsends).1, Bool.and_true]
      | false =>
        unfold State.isSubscriber
        rw [hticked.closed client hclient hsends, Bool.and_false]
        rfl
    · have hnot : b.isSubscriber client = false := Bool.eq_false_iff.mpr (mt hiff.mpr hclient)
      rw [hnot, Bool.false_and, ← hnot]
      unfold State.isSubscriber
      rw [(hticked.elsewhere client hclient).clients]

end

end

namespace Sample

def oneConnection : Balancer :=
  { Balancer.initial service with
    clients := Function.update (fun _ => none) 7 (some (newClient .subscriber)) }

theorem isOnline_oneConnection : oneConnection.IsOnline [7] where
  nodup := List.nodup_singleton 7
  mem_iff client := by
    rw [List.mem_singleton]
    unfold State.isSubscriber oneConnection
    dsimp only
    by_cases h : client = 7
    · subst h
      exact iff_of_true rfl (by rw [Function.update_self]; rfl)
    · exact iff_of_false h (by rw [Function.update_of_ne h]; exact Bool.false_ne_true)

/-- The connection takes what is written to it. -/
def tick : PingTick := ⟨fun _ => true, fun _ => true, fun _ => "1", fun _ => "2"⟩

end Sample

open Sample in
theorem timedStep_pingTimer_sample :
    ∃ b, timedStep (some oneConnection) (.pingTimer tick [7]) = some b ∧
      (b.requests 7).lookup "1" = some .ping := by
  obtain ⟨b, hstep, hticked, -⟩ := timedStep_pingTimer tick isOnline_oneConnection
  refine ⟨b, hstep, ?_⟩
  rw [(hticked.pinged 7 (by decide) rfl).2.2]
  rfl

section

variable [Fastotv] [License]

/-- A run with ticks is a run without them, in which requests are written and connections end: what
every run without them keeps, a run with them keeps too. -/
theorem run_of_timedRun {start b : Balancer} (es : List TimedEvent)
    (hticks : Meets timedStep (fun o e => ∀ b, o = some b → e.TicksOnline b) (some start) es)
    (hrun : run timedStep (some start) es = some b) :
    ∃ parts, List.Forall₂ TimedEvent.Expands es parts ∧
      run balancerStep (some start) parts.flatten = some b := by
  refine exists_run_of_steps (fun _ => rfl) (fun b e b' he hstep => ?_) hticks hrun
  cases e with
  | balancer e => exact ⟨[e], .balancer e, hstep⟩
  | pingTimer tick online =>
    obtain ⟨b₁, hrun₁, hevents, -⟩ := run_pingSubscribers tick he.nodup
      fun client hclient => (he.mem_iff client).mp hclient
    obtain ⟨-, rfl⟩ := timedStep_eq_some_iff.mp hstep
    refine ⟨_, .pingTimer tick online b, ?_⟩
    rw [hevents]
    show some b₁ = some ((pingSubscribers tick online).run b).2
    rw [hrun₁]

end

open Sample in
theorem run_of_timedRun_sample :
    ∃ b parts, run timedStep (some oneConnection) [.pingTimer tick [7]] = some b ∧
      List.Forall₂ TimedEvent.Expands [.pingTimer tick [7]] parts ∧
      run balancerStep (some oneConnection) parts.flatten = some b := by
  obtain ⟨parts, hparts, hrun⟩ := run_of_timedRun [.pingTimer tick [7]]
    ⟨fun b hb => Option.some.inj hb ▸ isOnline_oneConnection, meets_nil _⟩ rfl
  exact ⟨_, parts, rfl, hparts, hrun⟩

end LoadBalance
