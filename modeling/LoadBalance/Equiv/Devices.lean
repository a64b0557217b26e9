import LoadBalance.Equiv.Identity

/-!
# One connection for each device

The loops of the subscribers and of HTTP run at the same time, and a login looks for other
connections with its device in one step and is registered in a later one.  So two loops are looked
at here that each may be between these two steps (`Loops`); where nothing comes in between, the two
steps are the event of `step` (`run_start_register`).  A device has one connection along a run of
the loops whose logins spell the user id as it is stored and do not start while the other loop is
between the steps of a login with the same device (`device_once`). -/

namespace LoadBalance

open LoadBalance.Action

/-- Both texts are read as the id of one document. -/
def SameSubscriber (login login' : ServerDBAuthInfo) : Prop :=
  ∃ o beyond beyond', convertFromString beyond login.uid = some o ∧
    convertFromString beyond' login'.uid = some o

/-- No two connections are logged in as one subscriber with one device. -/
def DeviceOnce (s : State) : Prop :=
  ∀ client client' login login', client ≠ client' → s.loginOf client = some login →
    s.loginOf client' = some login' → login.deviceId = login'.deviceId →
    ¬SameSubscriber login login'

/-! ### The loops -/

/-- The login of a connection that was accepted, and is registered next. -/
structure Pending where
  client : ClientId
  event : Event
  info : ServerDBAuthInfo

/-- The state that the loops share, and where each of them is. -/
structure Loops where
  shared : State
  pending : ClientKind → Option Pending

inductive LoopEvent where
  /-- A loop takes an event up, and is through with it unless a login is accepted. -/
  | start (e : Event)
  /-- A loop goes on with the registration. -/
  | register (kind : ClientKind)

/-- The loop in which an event happens; neither of the two for clients of the daemon and for others
that write to the database. -/
def Event.loop (s : State) : Event → Option ClientKind
  | .accept _ kind => some kind
  | .request .. => some .subscriber
  | .http .. => some .http
  | .close client => (s.clients client).map Client.kind
  | .sendMessage .. => none
  | .database _ => none

section

variable [Fastotv]

/-- An event from its beginning to its end. -/
def Loops.whole (l : Loops) (e : Event) : Option Loops :=
  (step (some l.shared) e).map fun s => { l with shared := s }

/-- An event that is taken up by its loop. -/
def Loops.start (l : Loops) (kind : ClientKind) (e : Event) : Option Loops :=
  match e.loginCall l.shared with
  | none => l.whole e
  | some call => match (login call.env call.credentials).run l.shared with
    | (.ok info, s) =>
      some ⟨s, Function.update l.pending kind (some ⟨call.client, e, info⟩)⟩
    | _ => l.whole e

/-- A loop does one thing after the other. -/
def loopStep (l : Option Loops) (e : LoopEvent) : Option Loops := do
  let l ← l
  match e with
  | .start e => match e.loop l.shared with
    | none => l.whole e
    | some kind => if (l.pending kind).isSome then some l else l.start kind e
  | .register kind => match l.pending kind with
    | none => some l
    | some p => match (p.event.afterLogin p.info).run l.shared with
      | (.abort, _) => none
      | (_, s) => some ⟨s, Function.update l.pending kind none⟩

omit [Fastotv] in
/-- Both loops wait for events. -/
def Loops.initial (s : State) : Loops := ⟨s, fun _ => none⟩

/-- An event of which the loop takes both steps at once is one of the balancer's. -/
theorem run_start_register {l : Loops} {kind : ClientKind} {e : Event}
    (hloop : e.loop l.shared = some kind) (hidle : l.pending kind = none) :
    run loopStep (some l) [.start e, .register kind] = l.whole e := by
  have hstart : loopStep (some l) (.start e) = l.start kind e := by
    show (match e.loop l.shared with
      | none => l.whole e
      | some kind => if (l.pending kind).isSome then some l else l.start kind e) = _
    rw [hloop]
    dsimp only
    rw [hidle, Option.isSome_none, if_neg Bool.false_ne_true]
  have hwhole : loopStep (l.whole e) (.register kind) = l.whole e := by
    unfold Loops.whole
    cases step (some l.shared) e with
    | none => rfl
    | some s =>
      show (match l.pending kind with
        | none => _
        | some p => _) = _
      rw [hidle]
      rfl
  rw [run_cons, run_cons, run_nil, hstart]
  unfold Loops.start
  cases hcall : e.loginCall l.shared with
  | none => exact hwhole
  | some call =>
    dsimp only
    rcases hlogin : (login call.env call.credentials).run l.shared with ⟨info | err | _, s⟩
    · -- The registration is what is left of the event.
      dsimp only
      show (match Function.update l.pending kind (some ⟨call.client, e, info⟩) kind with
        | none => _
        | some p => _) = _
      rw [Function.update_self]
      dsimp only
      rw [← run_action_of_loginCall hcall hlogin, Function.update_idem,
        Function.update_eq_self_iff.mpr hidle.symm]
      show _ = (match (e.action).run l.shared with
        | (.abort, _) => none
        | (_, s') => some s').map _
      rcases (e.action).run l.shared with ⟨_ | _ | _, s'⟩ <;> rfl
    · exact hwhole
    · exact hwhole

end

/-! ### The invariant -/

/-- The invariant of the shared state: whoever is logged in stands in the map, under a text of an
id, as the only one with its device; also not with a login that is accepted and not registered. -/
structure Sound (pending : ClientKind → Option Pending) (s : State) : Prop where
  member : ∀ client login, s.loginOf client = some login →
    client ∈ s.connections.at' login.uid
  text : ∀ client login, s.loginOf client = some login → ∃ o : Oid, login.uid = o.text
  once : ∀ client client' login login', client ≠ client' → s.loginOf client = some login →
    s.loginOf client' = some login' → login.deviceId = login'.deviceId → login.uid ≠ login'.uid
  free : ∀ kind p, pending kind = some p → ∀ client login, client ≠ p.client →
    s.loginOf client = some login → login.deviceId = p.info.deviceId → login.uid ≠ p.info.uid

/-- The invariant of the two loops: what they are in the middle of are two different logins. -/
structure Apart (pending : ClientKind → Option Pending) : Prop where
  own : ∀ kind p, pending kind = some p → p.event.loggingIn = some p.client
  text : ∀ kind p, pending kind = some p → ∃ o : Oid, p.info.uid = o.text
  apart : ∀ kind kind' p p', kind ≠ kind' → pending kind = some p → pending kind' = some p' →
    p.info.deviceId = p'.info.deviceId → p.info.uid ≠ p'.info.uid

theorem sameSubscriber_iff {login login' : ServerDBAuthInfo} {o o' : Oid}
    (h : login.uid = o.text) (h' : login'.uid = o'.text) :
    SameSubscriber login login' ↔ login.uid = login'.uid := by
  unfold SameSubscriber
  rw [h, h']
  constructor
  · rintro ⟨x, beyond, beyond', hx, hx'⟩
    rw [convertFromString_text, Option.some.injEq] at hx hx'
    rw [hx, hx']
  · intro heq
    refine ⟨o, fun _ => 0, fun _ => 0, convertFromString_text _ o, ?_⟩
    rw [← heq, convertFromString_text]

namespace Sound

variable {pending : ClientKind → Option Pending} {s : State} (h : Sound pending s)

include h

theorem deviceOnce : DeviceOnce s := by
  intro client client' login login' hne hlogin hlogin' hdevice hsame
  obtain ⟨o, ho⟩ := h.text client login hlogin
  obtain ⟨o', ho'⟩ := h.text client' login' hlogin'
  exact h.once client client' login login' hne hlogin hlogin' hdevice
    ((sameSubscriber_iff ho ho').mp hsame)

/-- Fewer logins, and fewer loops in the middle of one. -/
theorem of_subset {pending' : ClientKind → Option Pending} {s' : State}
    (hpending : ∀ kind p, pending' kind = some p → pending kind = some p)
    (hlogin : ∀ client login, s'.loginOf client = some login → s.loginOf client = some login)
    (hmember : ∀ client login, s'.loginOf client = some login →
      client ∈ s.connections.at' login.uid → client ∈ s'.connections.at' login.uid) :
    Sound pending' s' where
  member client login hl := hmember client login hl (h.member client login (hlogin client login hl))
  text client login hl := h.text client login (hlogin client login hl)
  once client client' login login' hne hl hl' :=
    h.once client client' login login' hne (hlogin client login hl) (hlogin client' login' hl')
  free kind p hp client login hne hl :=
    h.free kind p (hpending kind p hp) client login hne (hlogin client login hl)

theorem congr {s' : State} (hconnections : s'.connections = s.connections)
    (hlogin : ∀ client, s'.loginOf client = s.loginOf client) : Sound pending s' :=
  h.of_subset (fun _ _ hp => hp) (fun client login hl => by rwa [hlogin] at hl)
    fun client login _ hmem => by rwa [hconnections]

theorem of_quiet {P : Output → Prop} {s' : State} (hquiet : Quiet P s s') : Sound pending s' :=
  h.congr hquiet.registry.connections hquiet.registry.loginOf

theorem leave {client : ClientId} {c : Client} : Sound pending (s.leave client c) := by
  have hself : (s.leave client c).loginOf client = none := by
    simp [State.leave, State.remove, State.loginOf]
  have hother : ∀ other, other ≠ client →
      (s.leave client c).loginOf other = s.loginOf other := by
    intro other hne
    simp [State.leave, State.remove, State.loginOf, hne]
  have hne : ∀ other login, (s.leave client c).loginOf other = some login → other ≠ client := by
    rintro other login hlogin rfl
    rw [hself] at hlogin
    cases hlogin
  refine h.of_subset (fun _ _ hp => hp) (fun other login hlogin => ?_)
    fun other login hlogin hmem => ?_
  · rwa [hother other (hne other login hlogin)] at hlogin
  · unfold State.leave State.remove
    cases c.login with
    | none => exact hmem
    | some left =>
      dsimp only
      rw [Multimap.at_eraseFirst]
      split_ifs with huid
      · rw [huid] at hmem
        exact (List.mem_erase_of_ne (hne other login hlogin)).mpr hmem
      · exact hmem

/-- The registration of a login that a loop is in the middle of. -/
theorem join (hapart : Apart pending) {kind : ClientKind} {p : Pending}
    (hp : pending kind = some p) {c : Client} : Sound pending (s.join p.client p.info c) := by
  have hself : (s.join p.client p.info c).loginOf p.client = some p.info := by
    simp [State.join, State.register, State.loginOf]
  have hother : ∀ other, other ≠ p.client →
      (s.join p.client p.info c).loginOf other = s.loginOf other := by
    intro other hne
    simp [State.join, State.register, State.loginOf, hne]
  have hat : ∀ uid, (s.join p.client p.info c).connections.at' uid =
      if uid = p.info.uid then s.connections.at' p.info.uid ++ [p.client]
      else s.connections.at' uid := fun uid => Multimap.at_push _ _ _ _
  have hcases : ∀ other login, (s.join p.client p.info c).loginOf other = some login →
      (other = p.client ∧ login = p.info) ∨
        (other ≠ p.client ∧ s.loginOf other = some login) := by
    intro other login hlogin
    by_cases hne : other = p.client
    · subst hne
      rw [hself] at hlogin
      exact Or.inl ⟨rfl, (Option.some.inj hlogin).symm⟩
    · rw [hother other hne] at hlogin
      exact Or.inr ⟨hne, hlogin⟩
  refine ⟨fun other login hlogin => ?_, fun other login hlogin => ?_,
    fun other other' login login' hne hlogin hlogin' hdevice => ?_,
    fun kind' p' hp' other login hne hlogin hdevice => ?_⟩
  · rw [hat]
    rcases hcases other login hlogin with ⟨rfl, rfl⟩ | ⟨hne, hlogin⟩
    · rw [if_pos rfl]
      exact List.mem_append_right _ (List.mem_singleton_self _)
    · split_ifs with huid
      · rw [← huid]
        exact List.mem_append_left _ (h.member other login hlogin)
      · exact h.member other login hlogin
  · rcases hcases other login hlogin with ⟨-, rfl⟩ | ⟨-, hlogin⟩
    · exact hapart.text kind p hp
    · exact h.text other login hlogin
  · rcases hcases other login hlogin with ⟨rfl, rfl⟩ | ⟨hother₁, hlogin⟩
    · rcases hcases other' login' hlogin' with ⟨rfl, -⟩ | ⟨hother₂, hlogin'⟩
      · exact absurd rfl hne
      · exact (h.free kind p hp other' login' hother₂ hlogin' hdevice.symm).symm
    · rcases hcases other' login' hlogin' with ⟨rfl, rfl⟩ | ⟨-, hlogin'⟩
      · exact h.free kind p hp other login hother₁ hlogin hdevice
      · exact h.once other other' login login' hne hlogin hlogin' hdevice
  · rcases hcases other login hlogin with ⟨rfl, rfl⟩ | ⟨-, hlogin⟩
    · -- The other loop is in the middle of another login.
      refine hapart.apart kind kind' p p' ?_ hp hp' hdevice
      rintro rfl
      rw [hp, Option.some.injEq] at hp'
      exact hne (by rw [hp'])
    · exact h.free kind' p' hp' other login hne hlogin hdevice

end Sound

/-! ### One step -/

section

variable [Fastotv] {pending : ClientKind → Option Pending} {s : State}

/-- What calls do to the invariant. -/
def KeepsSound (pending : ClientKind → Option Pending) (s s' : State) : Prop :=
  Sound pending s → Sound pending s'

instance : IsPreorder State (KeepsSound pending) where
  refl _ h := h
  trans _ _ _ h h' hs := h' (h hs)

omit [Fastotv] in
theorem keepsSound_closeAndDelete {client : ClientId} :
    Within (KeepsSound pending) (closeAndDelete client) := by
  intro s hs
  cases hc : s.clients client with
  | none =>
    rw [run_closeAndDelete_none hc]
    exact hs
  | some c =>
    rw [run_closeAndDelete hc]
    exact hs.leave

/-- An event that logs nobody in. -/
theorem sound_action {e : Event} (hs : Sound pending s)
    (he : ∀ client info, ¬Joins s client info e) : Sound pending ((e.action).run s).2 := by
  have hquiet : ∀ s s', Quiet FromHandler s s' → KeepsSound pending s s' :=
    fun _ _ h hs => hs.of_quiet h
  refine within_event hquiet (fun client kind _ hc hs => ?_)
    (fun client info s₁ c hjoins _ _ => absurd hjoins (he client info))
    (fun client s c _ hs => hs.leave) (fun client sur id params _ => ?_)
    (fun dclient sur id params _ hs => ?_) (fun db _ hs => ?_) hs
  · -- The new object has no login, as little as the place where it comes to.
    refine hs.congr rfl fun other => ?_
    show (Function.update s.clients client (some (newClient kind)) other).bind Client.login = _
    unfold State.loginOf
    by_cases hne : other = client
    · subst hne
      rw [Function.update_self, hc]
      rfl
    · rw [Function.update_of_ne hne]
  · exact within_handleRequestGenerateCatchup hquiet keepsSound_closeAndDelete
      fun _ _ hs => hs.congr rfl fun _ => rfl
  · exact hs.of_quiet (keeps_handleRequestClientSendMessageForSubscriber (P := Anything)
      (fun _ _ _ => trivial) (fun _ _ => trivial) s)
  · exact hs.congr rfl fun _ => rfl

/-- The registration of a login that a loop is in the middle of, and what comes after it. -/
theorem sound_afterLogin (hapart : Apart pending) {kind : ClientKind} {p : Pending}
    (hp : pending kind = some p) (hs : Sound pending s) :
    Sound pending ((p.event.afterLogin p.info).run s).2 := by
  have hquiet : ∀ s s', Quiet FromHandler s s' → KeepsSound pending s s' :=
    fun _ _ h hs => hs.of_quiet h
  exact within_afterLogin hquiet (hapart.own kind p hp) (fun s c _ hs => hs.join hapart hp)
    keepsSound_closeAndDelete s hs

omit [Fastotv] in
/-- The check finds no connection with the device of the login. -/
theorem ne_of_findDevice {clients : ClientId → Option Client} {device : DeviceId}
    {l : List ClientId} (h : findDevice clients device l = .ok none) {client : ClientId}
    (hmem : client ∈ l) {c : Client} (hc : clients client = some c) {info : ServerDBAuthInfo}
    (hlogin : c.login = some info) : info.deviceId ≠ device := by
  induction l with
  | nil => cases hmem
  | cons other l ih =>
    cases ho : clients other with
    | none =>
      rw [findDevice_cons_of_none ho] at h
      cases h
    | some o =>
      rw [findDevice_cons_of_some ho] at h
      split_ifs at h with hdevice
      · cases h
      rcases List.mem_cons.mp hmem with rfl | hmem
      · obtain rfl := Option.some.inj (hc.symm.trans ho)
        intro heq
        exact hdevice (by rw [hlogin]; exact decide_eq_true heq)
      · exact ih h hmem

/-- A login spells the user id as it is stored, and starts while the other loop is not in the middle
of one of the same subscriber with the same device. -/
def Orderly (l : Loops) : LoopEvent → Prop
  | .start e => SpelledAsStored l.shared e ∧
    ∀ call info, e.loginCall l.shared = some call →
      ((login call.env call.credentials).run l.shared).1 = .ok info →
      ∀ kind p, l.pending kind = some p → p.info.deviceId = info.deviceId →
        ¬SameSubscriber p.info info
  | .register _ => True

/-- The invariant. -/
structure Exclusive (l : Loops) : Prop where
  apart : Apart l.pending
  sound : Sound l.pending l.shared

theorem exclusive_whole {l l' : Loops} {e : Event} (h : Exclusive l)
    (he : ∀ client info, ¬Joins l.shared client info e) (hl' : l.whole e = some l') :
    Exclusive l' := by
  unfold Loops.whole at hl'
  obtain ⟨s, hs, rfl⟩ := Option.map_eq_some_iff.mp hl'
  refine ⟨h.apart, ?_⟩
  rw [step_eq_some hs]
  exact sound_action h.sound he

/-- A login that is accepted is another one than those that are registered, or will be. -/
theorem exclusive_accepted {l : Loops} {e : Event} {kind : ClientKind} {call : LoginCall}
    {info : ServerDBAuthInfo} (h : Exclusive l) (he : Orderly l (.start e))
    (hidle : l.pending kind = none) (hcall : e.loginCall l.shared = some call)
    (hlogin : (login call.env call.credentials).run l.shared = (.ok info, s)) :
    Exclusive ⟨s, Function.update l.pending kind (some ⟨call.client, e, info⟩)⟩ := by
  obtain ⟨f, oid, status, hf, haccepts, rfl, rfl⟩ := login_eq_ok hlogin
  have hok : ((login call.env call.credentials).run l.shared).1 = .ok ⟨f.uauth, f.uid⟩ := by
    rw [hlogin]
  obtain ⟨o, -, htext⟩ := authenticates_uid he.1 ⟨call, f, hcall, rfl, hf, rfl, hok⟩
  have hquiet : Quiet Nothing l.shared
      (l.shared.activated call.env f.uauth.login oid status) := by
    have hkeeps := keeps_login (P := Nothing) call.env call.credentials l.shared
    rwa [hlogin] at hkeeps
  have hother : ∀ kind' p, l.pending kind' = some p → p.info.deviceId = f.uauth.deviceId →
      p.info.uid ≠ f.uid := by
    intro kind' p hp hdevice huid
    obtain ⟨o', ho'⟩ := h.apart.text kind' p hp
    exact he.2 call _ hcall hok kind' p hp hdevice ((sameSubscriber_iff ho' htext).mpr huid)
  have hcases : ∀ kind' p,
      Function.update l.pending kind (some ⟨call.client, e, ⟨f.uauth, f.uid⟩⟩) kind' = some p →
      (kind' = kind ∧ p = ⟨call.client, e, ⟨f.uauth, f.uid⟩⟩) ∨
        (kind' ≠ kind ∧ l.pending kind' = some p) := by
    intro kind' p hp
    by_cases hk : kind' = kind
    · subst hk
      rw [Function.update_self] at hp
      exact Or.inl ⟨rfl, (Option.some.inj hp).symm⟩
    · rw [Function.update_of_ne hk] at hp
      exact Or.inr ⟨hk, hp⟩
  have hsound := h.sound.of_quiet hquiet
  constructor
  · refine ⟨fun kind' p hp => ?_, fun kind' p hp => ?_,
      fun kind₁ kind₂ p₁ p₂ hne hp₁ hp₂ hdevice => ?_⟩
    · rcases hcases kind' p hp with ⟨-, rfl⟩ | ⟨-, hp⟩
      · exact loggingIn_of_loginCall hcall
      · exact h.apart.own kind' p hp
    · rcases hcases kind' p hp with ⟨-, rfl⟩ | ⟨-, hp⟩
      · exact ⟨o, htext⟩
      · exact h.apart.text kind' p hp
    · rcases hcases kind₁ p₁ hp₁ with ⟨rfl, rfl⟩ | ⟨-, hp₁⟩
      · rcases hcases kind₂ p₂ hp₂ with ⟨rfl, -⟩ | ⟨-, hp₂⟩
        · exact absurd rfl hne
        · exact (hother kind₂ p₂ hp₂ hdevice.symm).symm
      · rcases hcases kind₂ p₂ hp₂ with ⟨-, rfl⟩ | ⟨-, hp₂⟩
        · exact hother kind₁ p₁ hp₁ hdevice
        · exact h.apart.apart kind₁ kind₂ p₁ p₂ hne hp₁ hp₂ hdevice
  · refine ⟨hsound.member, hsound.text, hsound.once,
      fun kind' p hp client login hne hl hdevice => ?_⟩
    rcases hcases kind' p hp with ⟨-, rfl⟩ | ⟨-, hp⟩
    · -- The check went through the connections under this user id.
      intro huid
      rw [hquiet.registry.loginOf] at hl
      have hmem := h.sound.member client login hl
      obtain ⟨c, hc, hcl⟩ := Option.bind_eq_some_iff.mp hl
      dsimp only at huid hdevice
      rw [huid] at hmem
      exact ne_of_findDevice haccepts.noOther hmem hc hcl hdevice
    · exact hsound.free kind' p hp client login hne hl hdevice

/-- Every orderly step keeps the invariant. -/
theorem exclusive_step {l l' : Loops} {e : LoopEvent} (h : Exclusive l) (he : Orderly l e)
    (hl' : loopStep (some l) e = some l') : Exclusive l' := by
  cases e with
  | start e =>
    have hstep : loopStep (some l) (.start e) = match e.loop l.shared with
      | none => l.whole e
      | some kind => if (l.pending kind).isSome then some l else l.start kind e := rfl
    rw [hstep] at hl'
    cases hloop : e.loop l.shared with
    | none =>
      rw [hloop] at hl'
      refine exclusive_whole h (fun client info hjoins => ?_) hl'
      cases e with
      | request _ _ _ => cases hloop
      | http _ _ _ => cases hloop
      | _ => exact hjoins
    | some kind =>
      rw [hloop] at hl'
      dsimp only at hl'
      split_ifs at hl' with hbusy
      · obtain rfl := Option.some.inj hl'
        exact h
      have hidle : l.pending kind = none := by simpa using hbusy
      unfold Loops.start at hl'
      cases hcall : e.loginCall l.shared with
      | none =>
        rw [hcall] at hl'
        refine exclusive_whole h (fun client info hjoins => ?_) hl'
        obtain ⟨call, hsome, -⟩ := hjoins.loginCall
        rw [hcall] at hsome
        cases hsome
      | some call =>
        rw [hcall] at hl'
        dsimp only at hl'
        have hjoins : ∀ client info, Joins l.shared client info e →
            ((login call.env call.credentials).run l.shared).1 = .ok info := by
          intro client info hjoins
          obtain ⟨call', hsome, -, hok⟩ := hjoins.loginCall
          rw [hcall, Option.some.injEq] at hsome
          rwa [hsome]
        rcases hlogin : (login call.env call.credentials).run l.shared with ⟨info | err | _, s⟩
        · rw [hlogin] at hl'
          obtain rfl := Option.some.inj hl'
          exact exclusive_accepted h he hidle hcall hlogin
        · rw [hlogin] at hl' hjoins
          exact exclusive_whole h (fun client info hj => nomatch hjoins client info hj) hl'
        · rw [hlogin] at hl' hjoins
          exact exclusive_whole h (fun client info hj => nomatch hjoins client info hj) hl'
  | register kind =>
    have hstep : loopStep (some l) (.register kind) = match l.pending kind with
      | none => some l
      | some p => match (p.event.afterLogin p.info).run l.shared with
        | (.abort, _) => none
        | (_, s) => some ⟨s, Function.update l.pending kind none⟩ := rfl
    rw [hstep] at hl'
    cases hp : l.pending kind with
    | none =>
      rw [hp] at hl'
      obtain rfl := Option.some.inj hl'
      exact h
    | some p =>
      rw [hp] at hl'
      dsimp only at hl'
      have hsub : ∀ kind' q, Function.update l.pending kind none kind' = some q →
          l.pending kind' = some q := by
        intro kind' q hq
        by_cases hk : kind' = kind
        · subst hk
          rw [Function.update_self] at hq
          cases hq
        · rwa [Function.update_of_ne hk] at hq
      have hsound := sound_afterLogin h.apart hp h.sound
      have hnext : ∀ s, ((p.event.afterLogin p.info).run l.shared).2 = s →
          Exclusive ⟨s, Function.update l.pending kind none⟩ := by
        rintro s rfl
        refine ⟨⟨fun kind' q hq => h.apart.own kind' q (hsub kind' q hq),
          fun kind' q hq => h.apart.text kind' q (hsub kind' q hq),
          fun kind₁ kind₂ q₁ q₂ hne hq₁ hq₂ =>
            h.apart.apart kind₁ kind₂ q₁ q₂ hne (hsub kind₁ q₁ hq₁) (hsub kind₂ q₂ hq₂)⟩, ?_⟩
        exact hsound.of_subset hsub (fun _ _ hl => hl) fun _ _ _ hmem => hmem
      rcases hrun : (p.event.afterLogin p.info).run l.shared with ⟨_ | _ | _, s⟩ <;> rw [hrun] at hl'
      · obtain rfl := Option.some.inj hl'
        exact hnext s (by rw [hrun])
      · obtain rfl := Option.some.inj hl'
        exact hnext s (by rw [hrun])
      · cases hl'

/-! ### Runs -/

omit [Fastotv] in
theorem exclusive_initial (db : Database) (endpoint : CatchupEndpointInfo) (epgUrl : Gurl)
    (lockedText : String) :
    Exclusive (Loops.initial (State.initial db endpoint epgUrl lockedText)) where
  apart :=
    { own := fun _ _ hp => nomatch hp
      text := fun _ _ hp => nomatch hp
      apart := fun _ _ _ _ _ hp => nomatch hp }
  sound :=
    { member := fun _ _ hl => nomatch hl
      text := fun _ _ hl => nomatch hl
      once := fun _ _ _ _ _ hl => nomatch hl
      free := fun _ _ hp => nomatch hp }

/-- In a run of the two loops whose logins spell the user id as it is stored, and start while the
other loop is not in the middle of one with the same device, a device has one connection. -/
theorem device_once (db : Database) (endpoint : CatchupEndpointInfo) (epgUrl : Gurl)
    (lockedText : String) (es : List LoopEvent)
    (hmeets : Meets loopStep (fun o e => ∀ l, o = some l → Orderly l e)
      (some (Loops.initial (State.initial db endpoint epgUrl lockedText))) es) (l : Loops)
    (hrun : run loopStep (some (Loops.initial (State.initial db endpoint epgUrl lockedText))) es =
      some l) : DeviceOnce l.shared := by
  have hexclusive : ∀ l, run loopStep
      (some (Loops.initial (State.initial db endpoint epgUrl lockedText))) es = some l →
        Exclusive l := by
    refine run_invariant (P := fun o => ∀ l, o = some l → Exclusive l)
      (fun o e he ho l' hl' => ?_) hmeets ?_
    · cases o with
      | none => cases hl'
      | some l => exact exclusive_step (ho l rfl) (he l rfl) hl'
    · intro l hl
      obtain rfl := Option.some.inj hl
      exact exclusive_initial ..
  exact (hexclusive l hrun).sound.deviceOnce

end

/-! Logins at the same time over both protocols, with two devices and with one. -/

namespace Sample

def loops : Loops := Loops.initial viewerStart

/-- The request with the other device of the subscriber in its path. -/
def otherWatchRequest : HttpRequest :=
  { watchRequest "secret" with
    path := some ((oid 1).text ++ "/secret/" ++ (oid 6).text ++ "/" ++ (oid 2).text ++
      "/1/news.m3u8") }

/-- Both loops are in the middle of a login at the same time, of one device each. -/
def twoDevices : List LoopEvent :=
  [.start (.accept 7 .subscriber), .start (.accept 8 .http),
    .start (.request 7 sur (loginRequest (oid 5))),
    .start (.http 8 httpSur (.request otherWatchRequest)),
    .register .subscriber, .register .http]

theorem orderly_accept (l : Loops) (client : ClientId) (kind : ClientKind) :
    Orderly l (.start (.accept client kind)) :=
  ⟨fun _ _ _ _ _ hcall => (nomatch hcall), fun _ _ hcall => (nomatch hcall)⟩

/-- The login of the request is that of the segments of its path. -/
theorem loginCall_otherWatch {s : State} {call : LoginCall}
    (h : (Event.http 8 httpSur (.request otherWatchRequest)).loginCall s = some call) :
    call = ⟨8, httpSur.toEnv, .byUid (oid 1).text "secret" (oid 6).text⟩ := by
  have htokens : otherWatchRequest.path.map tokenize = some [(oid 1).text, "secret",
      (oid 6).text, (oid 2).text, "1", "news.m3u8"] := by decide
  unfold Event.loginCall at h
  dsimp only at h
  rw [htokens] at h
  split_ifs at h
  exact (Option.some.inj h).symm

/-- Both logins are checked before the first one is registered. -/
def race : List LoopEvent :=
  [.start (.accept 7 .subscriber), .start (.accept 8 .http),
    .start (.request 7 sur (loginRequest (oid 5))),
    .start (.http 8 httpSur (.request (watchRequest "secret"))),
    .register .subscriber, .register .http]

end Sample

open Sample in
theorem device_once_sample :
    ∃ l, run loopStep (some loops) twoDevices = some l ∧ DeviceOnce l.shared ∧
      l.shared.connections.at' (oid 1).text = [7, 8] ∧
      ∃ l₄, run loopStep (some loops) (twoDevices.take 4) = some l₄ ∧
        ∀ kind, (l₄.pending kind).isSome = true := by
  refine ⟨_, rfl, device_once (Sample.database viewer [newsProxy] (List.nodup_singleton _)) endpoint
    ⟨"http://epg", true⟩ "locked" twoDevices ?_ _ rfl, by decide, _, rfl, fun kind => ?_⟩
  swap
  · cases kind <;> rfl
  refine ⟨fun l _ => orderly_accept l 7 _, fun l _ => orderly_accept l 8 _, fun l hl => ?_,
    fun l hl => ?_, fun _ _ => trivial, fun _ _ => trivial, trivial⟩
  · -- Nothing is pending yet, and the login is by email.
    obtain rfl := Option.some.inj hl
    refine ⟨fun call uid password dev o hcall hc => ?_, fun _ _ _ _ kind p hp => ?_⟩
    · obtain rfl := Option.some.inj hcall
      cases hc
    · cases hp
  · obtain rfl := Option.some.inj hl
    refine ⟨fun call uid password dev o hcall hc hconv _ => ?_,
      fun call info hcall hinfo kind p hp hdevice => ?_⟩
    · obtain rfl := loginCall_otherWatch hcall
      obtain ⟨rfl, -, -⟩ := Credentials.byUid.inj hc
      rw [convertFromString_text] at hconv
      rw [Option.some.inj hconv]
    · obtain rfl := loginCall_otherWatch hcall
      obtain ⟨f, -, -, hf, -, rfl, -⟩ := login_eq_ok (Prod.ext hinfo rfl)
      obtain ⟨-, -, -, -, -, hdev, -⟩ := lookUp_byUid hf
      cases kind with
      | http => cases hp
      | subscriber =>
        -- The login that is pending is of the other device.
        obtain rfl := Option.some.inj hp
        exact absurd (hdevice.trans hdev) (by decide)

open Sample in
/-- The two connections are logged in as one subscriber with one device. -/
theorem device_twice :
    ∃ l, run loopStep (some loops) race = some l ∧ ¬DeviceOnce l.shared ∧
      l.shared.connections.at' (oid 1).text = [7, 8] := by
  refine ⟨_, rfl, fun h => ?_, by decide⟩
  refine h 7 8 _ _ (by decide) rfl rfl rfl ⟨oid 1, fun _ => 0, fun _ => 0, ?_, ?_⟩
  · rfl
  · rfl

end LoadBalance
