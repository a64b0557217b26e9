import LoadBalance.Equiv.Activation
import LoadBalance.Equiv.DaemonLoop
import LoadBalance.Equiv.Online
import LoadBalance.Library.Outbox

/-!
# Broadcasts that reach the clients of the daemon

The other loops post broadcasts to the loop of the daemon, which runs them one after another: the
service is an outbox (`Refines`, `simulates`).  Whatever happens in between, each client of the
daemon gets the broadcasts in the order in which they were posted, none of them twice, and it gets
all that are run iff it is verified and takes the write each time (`broadcasts_delivered`). -/

namespace LoadBalance

open LoadBalance.Action

/-! ### What was posted and what came through -/

/-- The broadcast that is written to a client. -/
def DaemonOutput.postedTo (dclient : ClientId) : DaemonOutput → Option Broadcast
  | .request d (.posted b) => if d = dclient then some b else none
  | _ => none

/-- The broadcasts that a client of the daemon got. -/
def Service.receivedBy (s : Service) (dclient : ClientId) : List Broadcast :=
  s.written.filterMap (DaemonOutput.postedTo dclient)

/-- The broadcasts that were run since `n` of them had been. -/
def Service.runSince (s : Service) (n : ℕ) : List Broadcast :=
  (s.broadcasts.take s.delivered).drop n

/-- If the event runs a broadcast, it is written to the client. -/
def ServiceEvent.HeardBy (dclient : ClientId) (s : Service) : ServiceEvent → Prop
  | .posted sur => s.delivered < s.broadcasts.length →
      s.Verified dclient ∧ sur.sends dclient = true
  | _ => True

/-- A turn of the loop for the broadcasts. -/
def ServiceEvent.isPosted : ServiceEvent → Bool
  | .posted _ => true
  | _ => false

theorem Appends.broadcasts {P : Output → Prop} {s s' : State} (h : Appends P s s') :
    ∃ more, s'.broadcasts = s.broadcasts ++ more ∧ ∀ b ∈ more, P (.broadcast b) := by
  obtain ⟨outs, hsent, houts⟩ := h
  refine ⟨_, by unfold State.broadcasts; rw [hsent, List.filterMap_append], fun b hb => ?_⟩
  obtain ⟨o, ho, hob⟩ := List.mem_filterMap.mp hb
  cases o with
  | broadcast b' =>
    obtain rfl := Option.some.inj hob
    exact houts _ ho
  | _ => cases hob

theorem OnlyTells.broadcasts {s s' : State} (h : OnlyTells s s') :
    s'.broadcasts = s.broadcasts := by
  obtain ⟨more, hmore, hall⟩ := h.sent.broadcasts
  have hnil : more = [] := List.eq_nil_iff_forall_not_mem.mpr fun b hb => hall b hb
  rw [hmore, hnil, List.append_nil]

theorem Attends.receivedBy {s s' : Service} (h : Attends s s') (dclient : ClientId) :
    s'.receivedBy dclient = s.receivedBy dclient := by
  obtain ⟨outs, hwritten, houts⟩ := h.written
  unfold Service.receivedBy
  have hnone : outs.filterMap (DaemonOutput.postedTo dclient) = [] := by
    refine List.filterMap_eq_nil_iff.mpr fun o ho => ?_
    cases o with
    | request d notice =>
      cases notice with
      | posted b => exact absurd trivial (houts _ ho)
      | _ => rfl
    | upload url => rfl
  rw [hwritten, List.filterMap_append, hnone, List.append_nil]

/-- Of the writes of a broadcast at most one is to the client, since no client is there twice. -/
theorem filterMap_postedTo {l : List (Sigma fun _ : ClientId => DaemonConnection)}
    (hl : l.NodupKeys) (sur : Surroundings) (b : Broadcast) (dclient : ClientId) :
    (((l.filter fun e => e.2.verified && sur.sends e.1).map fun e =>
        DaemonOutput.request e.1 (.posted b)).filterMap (DaemonOutput.postedTo dclient)) =
      if (l.dlookup dclient).any DaemonConnection.verified && sur.sends dclient then [b]
      else [] := by
  induction l with
  | nil => rfl
  | cons e l ih =>
    obtain ⟨d, conn⟩ := e
    obtain ⟨hnotin, hl'⟩ := List.nodupKeys_cons.mp hl
    have hrest := ih hl'
    rw [List.filter_cons]
    by_cases hd : d = dclient
    · -- The client is the first one, and not among the others.
      subst hd
      have hnone : l.dlookup d = none := List.dlookup_eq_none.mpr hnotin
      rw [hnone, Option.any_none, Bool.false_and, if_neg Bool.false_ne_true] at hrest
      rw [List.dlookup_cons_eq, Option.any_some]
      dsimp only
      split_ifs
      · rw [List.map_cons, List.filterMap_cons, hrest]
        simp [DaemonOutput.postedTo]
      · exact hrest
    · have hother : DaemonOutput.postedTo dclient (.request d (.posted b)) = none := if_neg hd
      rw [List.dlookup_cons_ne l ⟨d, conn⟩ (Ne.symm hd), ← hrest]
      dsimp only
      split_ifs
      · rw [List.map_cons, List.filterMap_cons, hother]
      · rfl

/-- A broadcast that is run now is written to the client. -/
def Service.hears (s : Service) (sur : Surroundings) (dclient : ClientId) : Bool :=
  (s.dclients.lookup dclient).any DaemonConnection.verified && sur.sends dclient

theorem Service.hears_iff {s : Service} {sur : Surroundings} {dclient : ClientId} :
    s.hears sur dclient = true ↔ s.Verified dclient ∧ sur.sends dclient = true := by
  unfold Service.hears Service.Verified
  rw [Bool.and_eq_true, Option.any_eq_true]

/-! ### The outbox -/

/-- The outbox that the service is. -/
structure Refines (s : Service) (o : Outbox ClientId Broadcast) : Prop where
  posted : o.posted = s.broadcasts
  cursor : o.cursor = s.delivered
  received : ∀ dclient, o.received dclient = s.receivedBy dclient

section

variable [Fastotv] [License] {s s' : Service} {o : Outbox ClientId Broadcast} {e : ServiceEvent}

omit [Fastotv] [License] in
/-- As long as no more are run than were posted, the service is one. -/
theorem exists_refines (h : s.delivered ≤ s.broadcasts.length) : ∃ o, Refines s o :=
  ⟨⟨s.broadcasts, s.delivered, h, s.receivedBy⟩, rfl, rfl, fun _ => rfl⟩

omit [Fastotv] [License] in
theorem delivered_le (h : ∃ o, Refines s o) : s.delivered ≤ s.broadcasts.length := by
  obtain ⟨o, ho⟩ := h
  rw [← ho.cursor, ← ho.posted]
  exact o.cursor_le

omit [Fastotv] [License] in
/-- More broadcasts wait, and nothing else is new. -/
theorem Refines.post (h : Refines s o) {more : List Broadcast}
    (hbroadcasts : s'.broadcasts = s.broadcasts ++ more) (hdelivered : s'.delivered = s.delivered)
    (hreceived : ∀ dclient, s'.receivedBy dclient = s.receivedBy dclient) :
    Refines s' (o.turn (.post more)) where
  posted := by
    show o.posted ++ more = _
    rw [h.posted, hbroadcasts]
  cursor := h.cursor.trans hdelivered.symm
  received dclient := (h.received dclient).trans (hreceived dclient).symm

omit [Fastotv] [License] in
theorem Refines.not_lt (h : Refines s o) (hnone : s.broadcasts[s.delivered]? = none) :
    o.posted.length ≤ o.cursor := by
  rw [h.posted, h.cursor]
  exact List.getElem?_eq_none_iff.mp hnone

/-- A turn for the broadcasts hands on the next one. -/
theorem Refines.handOn (h : Refines s o) {sur : Surroundings} :
    Refines ((ServiceEvent.posted sur).action.run s).2
      (o.turn (.handOn (s.hears sur))) := by
  cases hnext : s.broadcasts[s.delivered]? with
  | none =>
    rw [run_posted_none hnext, Outbox.turn_of_le (h.not_lt hnext)]
    exact h
  | some b =>
    obtain ⟨hlt, hb⟩ := List.getElem?_eq_some_iff.mp hnext
    have hlt' : o.cursor < o.posted.length := by
      rw [h.posted, h.cursor]
      exact hlt
    have hpiece : o.posted.get ⟨o.cursor, hlt'⟩ = b := by
      rw [← hb, List.get_eq_getElem]
      simp only [h.posted, h.cursor]
    rw [run_posted hnext, Outbox.turn_of_lt hlt']
    refine ⟨h.posted, congrArg (· + 1) h.cursor, fun dclient => ?_⟩
    show (if s.hears sur dclient then o.received dclient ++ [o.posted.get ⟨o.cursor, hlt'⟩]
      else o.received dclient) = _
    have hwritten := filterMap_postedTo s.dclients.nodupKeys sur b dclient
    unfold Service.receivedBy
    rw [List.filterMap_append, hwritten, h.received, hpiece]
    show _ = s.receivedBy dclient ++ if s.hears sur dclient then [b] else []
    split_ifs
    · rfl
    · exact (List.append_nil _).symm

/-- Each event of the service is a turn of the outbox. -/
theorem simulates (dclient : ClientId) (h : Refines s o) (hstep : serviceStep (some s) e = some s') :
    ∃ t : Outbox.Turn ClientId Broadcast, t.handsOn = e.isPosted ∧ Refines s' (o.turn t) ∧
      (e.HeardBy dclient s ↔ Outbox.Hears dclient o t) := by
  obtain ⟨-, rfl⟩ := serviceStep_eq_some_iff.mp hstep
  by_cases hother : ∃ e' he, e = .other e' he
  · -- Another loop may post.
    obtain ⟨e', he, rfl⟩ := hother
    obtain ⟨more, hmore, -⟩ := (appends_action (s := s.toState) e').broadcasts
    exact ⟨.post more, rfl, h.post hmore rfl fun _ => rfl, Iff.rfl⟩
  by_cases hposted : ∃ sur, e = .posted sur
  · obtain ⟨sur, rfl⟩ := hposted
    refine ⟨_, rfl, h.handOn, ?_⟩
    unfold ServiceEvent.HeardBy Outbox.Hears
    rw [h.posted, h.cursor]
    exact imp_congr_right fun _ => Service.hears_iff.symm
  · -- The daemon's own business.
    have hattends : Attends s ((e.action).run s).2 := attends_serviceEvent
      (fun e' he heq => hother ⟨e', he, heq⟩) (fun sur heq => hposted ⟨sur, heq⟩) s
    have hnil : ((e.action).run s).2.broadcasts = s.broadcasts ++ [] := by
      rw [hattends.tells.broadcasts, List.append_nil]
    refine ⟨.post [], ?_, h.post hnil hattends.delivered hattends.receivedBy, ?_⟩
    · cases e with
      | posted sur => exact absurd ⟨sur, rfl⟩ hposted
      | _ => rfl
    · cases e with
      | posted sur => exact absurd ⟨sur, rfl⟩ hposted
      | _ => exact Iff.rfl

/-! ### Runs -/

/-- In every run no more broadcasts are run than were posted. -/
theorem exists_refines_run (state : State) (licenseKey : Option String) {es : List ServiceEvent}
    (hrun : run serviceStep (some (Service.initial state licenseKey)) es = some s) :
    ∃ o, Refines s o := by
  have hinitial : ∃ o, Refines (Service.initial state licenseKey) o := exists_refines le_rfl
  refine run_invariant_some' (P := fun s => ∃ o, Refines s o) (fun _ => rfl)
    (fun s e s' hs' hs => ?_) hrun hinitial
  obtain ⟨o, ho⟩ := hs
  obtain ⟨t, -, ht, -⟩ := simulates 0 ho hs'
  exact ⟨_, ht⟩

/-- A run of the service is a run of the outbox, with as many turns for the broadcasts. -/
theorem Refines.run (h : Refines s o) {es : List ServiceEvent}
    (hrun : LoadBalance.run serviceStep (some s) es = some s') (dclient : ClientId) :
    ∃ ts : List (Outbox.Turn ClientId Broadcast),
      ts.countP Outbox.Turn.handsOn = es.countP ServiceEvent.isPosted ∧
      Refines s' (LoadBalance.run Outbox.turn o ts) ∧
      (Meets serviceStep (fun o e => ∀ t, o = some t → e.HeardBy dclient t) (some s) es ↔
        Meets Outbox.turn (Outbox.Hears dclient) o ts) := by
  obtain ⟨ts, hts, h', hmeets⟩ := exists_run_of_simulation (R := Refines)
    (C := fun t e => e.HeardBy dclient t) (D := Outbox.Hears dclient)
    (L := fun e t => t.handsOn = e.isPosted) (fun _ => rfl)
    (fun _ _ _ _ hR hstep => simulates dclient hR hstep) h hrun
  refine ⟨ts, ?_, h', hmeets⟩
  clear hrun hmeets h'
  induction hts with
  | nil => rfl
  | cons hl _ ih => rw [List.countP_cons, List.countP_cons, hl, ih]

/-- What a client gets along a run. -/
theorem exists_got (h : ∃ o, Refines s o) {es : List ServiceEvent}
    (hrun : run serviceStep (some s) es = some s') (dclient : ClientId) :
    ∃ got, s'.receivedBy dclient = s.receivedBy dclient ++ got ∧
      got.Sublist (s'.runSince s.delivered) ∧
      (got = s'.runSince s.delivered ↔
        Meets serviceStep (fun o e => ∀ t, o = some t → e.HeardBy dclient t) (some s) es) := by
  obtain ⟨o, ho⟩ := h
  obtain ⟨ts, -, ho', hmeets⟩ := ho.run hrun dclient
  have hsince : (run Outbox.turn o ts).handedSince o.cursor = s'.runSince s.delivered := by
    unfold Outbox.handedSince Service.runSince
    rw [ho'.posted, ho'.cursor, ho.cursor]
  obtain ⟨got, hgot, hsub, hall⟩ := Outbox.exists_got o ts dclient
  rw [hsince] at hsub hall
  rw [ho'.received, ho.received] at hgot
  exact ⟨got, hgot, hsub, hall.trans hmeets.symm⟩

/-- Along a run more is posted, and more run. -/
theorem broadcasts_prefix_run (h : ∃ o, Refines s o) {es : List ServiceEvent}
    (hrun : run serviceStep (some s) es = some s') :
    s.broadcasts <+: s'.broadcasts ∧ s.delivered ≤ s'.delivered := by
  obtain ⟨o, ho⟩ := h
  obtain ⟨ts, -, ho', -⟩ := ho.run hrun 0
  have hlater := Outbox.later_run o ts
  rw [← ho.posted, ← ho.cursor, ← ho'.posted, ← ho'.cursor]
  exact ⟨hlater.posted, hlater.cursor⟩

/-- From any state that a run reaches on, a client of the daemon gets, in their order and none of
them twice, broadcasts that are run; it gets all of them iff it is verified and takes the write each
time; and as many turns for the broadcasts as there are waiting run all that were. -/
theorem broadcasts_delivered (state : State) (licenseKey : Option String) (es fs : List ServiceEvent)
    (s s' : Service) (hrun : run serviceStep (some (Service.initial state licenseKey)) es = some s)
    (hrun' : run serviceStep (some s) fs = some s') (dclient : ClientId) :
    (∃ got, s'.receivedBy dclient = s.receivedBy dclient ++ got ∧
      got.Sublist (s'.runSince s.delivered) ∧
      (got = s'.runSince s.delivered ↔
        Meets serviceStep (fun o e => ∀ t, o = some t → e.HeardBy dclient t) (some s) fs)) ∧
    min (s.delivered + fs.countP ServiceEvent.isPosted) s.broadcasts.length ≤ s'.delivered := by
  have hrefines := exists_refines_run state licenseKey hrun
  refine ⟨exists_got hrefines hrun' dclient, ?_⟩
  obtain ⟨o, ho⟩ := hrefines
  obtain ⟨ts, hcount, ho', -⟩ := ho.run hrun' dclient
  have hcursor := Outbox.min_le_cursor_run o ts
  rwa [ho.cursor, ho.posted, ho'.cursor, hcount] at hcursor

end

namespace Sample

/-- A login while a client of the daemon is there, and the turn for its broadcast. -/
def loginTold : List ServiceEvent :=
  [.other (.accept 7 .subscriber) trivial, .other (.request 7 sur (loginRequest (oid 5))) trivial,
    .posted sur]

end Sample

open Sample in
theorem broadcasts_delivered_sample :
    ∃ s s', run serviceStep (some service) activation = some s ∧
      run serviceStep (some s) loginTold = some s' ∧
      s'.receivedBy 9 = s.receivedBy 9 ++ s'.runSince s.delivered ∧
      s'.runSince s.delivered =
        [.subscriberConnected ⟨(oid 1).text, "a@b.c", (oid 5).text, 2000⟩] := by
  refine ⟨_, _, rfl, rfl, ?_, rfl⟩
  obtain ⟨⟨got, hgot, -, hall⟩, -⟩ :=
    broadcasts_delivered start (some "key") activation loginTold _ _ rfl rfl 9
  refine hgot.trans (congrArg _ (hall.mpr ?_))
  refine And.intro (fun _ _ => trivial) (And.intro (fun _ _ => trivial) (And.intro ?_ trivial))
  intro s hs
  obtain rfl := Option.some.inj hs
  exact fun _ => ⟨⟨_, rfl, rfl⟩, rfl⟩

end LoadBalance
