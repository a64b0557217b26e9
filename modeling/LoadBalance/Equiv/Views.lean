import LoadBalance.Equiv.DatabaseEffects
import LoadBalance.Mongo.Equiv.Views

/-!
# View counts over runs

Of all that happens to the balancer only one thing counts a view: a request of a logged in
subscriber that sets the time of a stream (`watched_serviceEvent`).  So as long as nobody else
writes to the database, the count of a stream after a run is the count before plus the number of
these requests, up to the greatest `int64` (`views_counted`): no view is lost, and none is counted
twice. -/

namespace LoadBalance

open LoadBalance.Action

/-! ### Events -/

section

variable [Fastotv] {sid : Oid} {s : State}

/-- The stream of which a command of a user counts a view. -/
def Command.viewed (env : Env) (auth : ServerDBAuthInfo) (db : Database) : Command → Option Oid
  | .setRecent (.decoded recent) => viewedStream env auth recent db
  | _ => none

/-- The stream of which a request counts a view: its connection is that of a subscriber, and logged
in. -/
def State.viewed (s : State) (client : ClientId) (sur : Surroundings) (req : SubscriberRequest) :
    Option Oid := do
  let c ← s.clients client
  let auth ← c.login
  if c.kind = .subscriber then req.command.viewed sur.toEnv auth s.db else none

/-- What the manager does for a command. -/
theorem watched_calls (env : Env) (endpoint : CatchupEndpointInfo) (auth : ServerDBAuthInfo)
    (db : Database) (command : Command) :
    Watched sid (if command.viewed env auth db = some sid then 1 else 0) db
      ((command.calls env endpoint auth).run db).2 := by
  cases command with
  | setRecent params =>
    cases params with
    | decoded recent => exact watched_setRecent recent
    | _ => exact .of_streams_eq rfl
  | setFavorite params =>
    cases params with
    | decoded favorite => exact .of_streams_eq (keepsStreams_setFavorite favorite db)
    | _ => exact .of_streams_eq rfl
  | interruptStreamTime params =>
    cases params with
    | decoded inter => exact .of_streams_eq (keepsStreams_setInterruptTime inter db)
    | _ => exact .of_streams_eq rfl
  | generateCatchup params =>
    cases params with
    | decoded info =>
      refine rel_bind (R := Watched sid 0) (watched_createCatchup info.streamId)
        fun created db₁ _ => ?_
      exact .of_streams_eq (keepsStreams_addUserCatchup _ db₁)
    | _ => exact .of_streams_eq rfl
  | undoCatchup params =>
    cases params with
    | decoded channel => exact .of_streams_eq (keepsStreams_removeUserCatchup channel db)
    | _ => exact .of_streams_eq rfl
  | content params =>
    cases params with
    | decoded request =>
      exact .of_streams_eq (within_bind (keepsStreams_createRequestContent request)
        (fun _ => within_pure _) db)
    | _ => exact .of_streams_eq rfl
  | _ => exact .of_streams_eq rfl

theorem Command.viewed_of_not_gated {env : Env} {auth : ServerDBAuthInfo} {db : Database}
    {command : Command} (h : ¬command.IsGated) : command.viewed env auth db = none := by
  cases command with
  | setRecent => exact absurd trivial h
  | _ => rfl

theorem State.viewed_eq (s : State) (client : ClientId) (sur : Surroundings)
    (req : SubscriberRequest) : s.viewed client sur req =
      (s.actor client).bind fun auth => req.command.viewed sur.toEnv auth s.db := by
  unfold State.viewed State.actor
  cases s.clients client with
  | none => rfl
  | some c =>
    cases hlogin : c.login with
    | none => simp [hlogin]
    | some auth => by_cases hkind : c.kind = .subscriber <;> simp [hlogin, hkind]

/-- A request counts the view that it is for. -/
theorem watched_request {client : ClientId} {sur : Surroundings} {req : SubscriberRequest} :
    Watched sid (if s.viewed client sur req = some sid then 1 else 0) s.db
      (((Event.request client sur req).action).run s).2.db := by
  rw [State.viewed_eq]
  rcases request_cases s client sur req with ⟨auth, hactor, -, hdb⟩ | ⟨hno, hdb⟩
  · rw [hdb, hactor, Option.bind_some]
    exact watched_calls _ _ _ _ _
  · rw [if_neg]
    · refine .of_streams_eq ?_
      rcases hdb with hdb | ⟨login, oid, status, hdb⟩
      · rw [hdb]
      · rw [hdb]
        exact onDatabase_activated (fun _ login oid => keepsStreams_activateDevice login oid) ..
    · intro h
      obtain ⟨auth, hactor, hviewed⟩ := Option.bind_eq_some_iff.mp h
      rw [Command.viewed_of_not_gated (hno auth hactor)] at hviewed
      cases hviewed

variable [License]

/-- The stream of which an event counts a view. -/
def Service.viewed (s : Service) : ServiceEvent → Option Oid
  | .other (.request client sur req) _ => s.toState.viewed client sur req
  | _ => none

/-- An event that does not change the database from outside counts the view that it is for. -/
theorem watched_serviceEvent {s : Service} {e : ServiceEvent} (hown : e.IsOwn) :
    Watched sid (if s.viewed e = some sid then 1 else 0) s.db ((e.action).run s).2.db := by
  by_cases hrequest : ∃ client sur req h, e = .other (.request client sur req) h
  · obtain ⟨client, sur, req, h, rfl⟩ := hrequest
    exact watched_request (s := s.toState)
  · have hnone : s.viewed e = none := by
      unfold Service.viewed
      split
      · exact absurd ⟨_, _, _, _, rfl⟩ hrequest
      · rfl
    rw [hnone, if_neg (by simp)]
    refine .of_streams_eq (onDatabase_serviceEvent (R := KeepsStreams)
      (fun _ login oid => keepsStreams_activateDevice login oid) hown fun client sur req h heq => ?_)
    exact hrequest ⟨client, sur, req, h, heq⟩

/-! ### Runs -/

/-- How many views of the stream the events of a run count. -/
def viewsCounted (sid : Oid) (start : Service) (es : List ServiceEvent) : ℕ :=
  tally serviceStep (fun o e => o.any fun s => s.viewed e = some sid) (some start) es

/-- As long as nobody else writes to the database, the count of a stream after a run is the count
before it and one for each of the requests that set its time and get as far as that, whichever
other writes fail and however the requests of the connections are interleaved, up to the greatest
`int64`. -/
theorem views_counted (start s : Service) (es : List ServiceEvent) (hown : ∀ e ∈ es, e.IsOwn)
    (hrun : run serviceStep (some start) es = some s) {sid : Oid} {n : ℤ}
    (hn : start.db.views sid = some n) :
    s.db.views sid = some (min (n + viewsCounted sid start es) Int64.maxValue.toInt) := by
  have hmeets : Meets serviceStep (fun _ e => e.IsOwn) (some start) es := by
    refine meets_iff_forall.mpr ?_
    rintro fs e gs rfl
    exact hown e (by simp)
  have hcounted := run_tally (p := fun o e => o.any fun s => s.viewed e = some sid)
    (R := fun k o o' => ∀ s', o' = some s' → ∃ s, o = some s ∧ Watched sid k s.db s'.db)
    (fun o s hs => ⟨s, hs, .of_streams_eq rfl⟩) (fun h h' s hs => ?_) (fun o e he s' hs' => ?_)
    hmeets
  · obtain ⟨start', hstart, hwatched⟩ := hcounted s hrun
    obtain rfl := Option.some.inj hstart
    exact hwatched n hn
  · obtain ⟨s', hs', hwatched'⟩ := h' s hs
    obtain ⟨s'', hs'', hwatched⟩ := h s' hs'
    exact ⟨s'', hs'', hwatched.trans hwatched'⟩
  · cases o with
    | none => cases hs'
    | some s =>
      refine ⟨s, rfl, ?_⟩
      rw [(serviceStep_eq_some_iff.mp hs').2]
      simpa using watched_serviceEvent he

end

/-! Two views of a channel, between which a catchup of it is made. -/

namespace Sample

def viewNews : SubscriberRequest := ⟨some "3", .setRecent (.decoded ⟨(oid 2).text, 1000⟩)⟩

def newsViewed : List ServiceEvent :=
  catchupServed ++ [.other (.request 7 sur viewNews) trivial, .statsTimer sur "",
    .other (.request 7 sur viewNews) trivial]

theorem isOwn_newsViewed : ∀ e ∈ newsViewed, e.IsOwn := by
  refine List.forall_mem_append.mpr ⟨isOwn_catchupServed, ?_⟩
  simp only [List.forall_mem_cons]
  exact ⟨trivial, trivial, trivial, List.forall_mem_nil _⟩

end Sample

open Sample in
theorem views_counted_sample :
    ∃ s, run serviceStep (some newsService) newsViewed = some s ∧ s.db.views (oid 2) = some 2 := by
  have hviews : newsService.db.views (oid 2) = some 0 := rfl
  have hcounted : viewsCounted (oid 2) newsService newsViewed = 2 := rfl
  obtain ⟨s, hs⟩ : ∃ s, run serviceStep (some newsService) newsViewed = some s := ⟨_, rfl⟩
  have htwo := views_counted newsService s newsViewed isOwn_newsViewed hs hviews
  rw [hcounted] at htwo
  exact ⟨s, hs, htwo⟩

end LoadBalance
