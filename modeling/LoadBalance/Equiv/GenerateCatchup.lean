import LoadBalance.Equiv.Frame
import LoadBalance.Mongo.Equiv.CreateCatchup

/-!
# A request for a catchup

`handleRequestGenerateCatchup` makes the creation and then the push to the subscriber, and tells the
requester and, of a new catchup, the daemon when both succeeded.  There are five ways to end
(`GenerateRun`, `generateRun`).
-/

namespace LoadBalance

open LoadBalance.Action

/-- Any output but the one that hands a catchup out. -/
def NotHandedOut : Output → Prop
  | .reply _ _ (.catchupGenerateSuccess _) => False
  | _ => True

section

variable [Fastotv]

/-- What the daemon is told of a catchup that is handed out. -/
def announcement (created : CreatedCatchup) : List Output :=
  if created.isCreated && Fastotv.catchupSerializes created.cat then
    [.broadcast (.catchupCreated created.serverid created.cat)]
  else []

/-- The creation that a request makes. -/
abbrev requestedCreation (s : State) (sur : Surroundings) (auth : ServerDBAuthInfo)
    (catGen : CatchupGenerateInfo) : Action Database Error CreatedCatchup :=
  createCatchup sur.toEnv s.catchupEndpoint auth catGen.streamId catGen.title catGen.start
    catGen.stop

/-- The ways in which the request ends. -/
inductive GenerateRun (s : State) (sur : Surroundings) (client : ClientId) (id : RequestId)
    (params : Params CatchupGenerateInfo) : Outcome Error Unit → State → Prop where
  /-- The connection is not logged in. -/
  | closed {o : Outcome Error Unit} {s' : State} (hlogin : s.loginOf client = none)
      (hdb : s'.db = s.db) (hsent : Appends NotHandedOut s s') :
      GenerateRun s sur client id params o s'
  /-- There are no parameters. -/
  | refused {o : Outcome Error Unit} (hparams : ∀ catGen, params ≠ .decoded catGen) :
      GenerateRun s sur client id params o s
  /-- The catchup is neither found nor created. -/
  | failed {o : Outcome Error Unit} {s' : State} {auth : ServerDBAuthInfo}
      {catGen : CatchupGenerateInfo} {created : Outcome Error CreatedCatchup} {db₁ : Database}
      (hlogin : s.loginOf client = some auth) (hparams : params = .decoded catGen)
      (hcreate : (requestedCreation s sur auth catGen).run s.db = (created, db₁))
      (hno : ∀ c, created ≠ .ok c) (hdb : s'.db = db₁) (hsent : Appends NotHandedOut s s') :
      GenerateRun s sur client id params o s'
  /-- The subscriber does not get it. -/
  | notAdded {o : Outcome Error Unit} {s' : State} {auth : ServerDBAuthInfo}
      {catGen : CatchupGenerateInfo} {created : CreatedCatchup} {db₁ db₂ : Database}
      {added : Outcome Error Unit}
      (hlogin : s.loginOf client = some auth) (hparams : params = .decoded catGen)
      (hcreate : (requestedCreation s sur auth catGen).run s.db = (.ok created, db₁))
      (hadd : (addUserCatchup sur.toEnv auth created.cat.streamId).run db₁ = (added, db₂))
      (hno : added ≠ .ok ()) (hdb : s'.db = db₂) (hsent : Appends NotHandedOut s s') :
      GenerateRun s sur client id params o s'
  /-- The subscriber gets it and is told so. -/
  | handedOut {o : Outcome Error Unit} {s' : State} {auth : ServerDBAuthInfo}
      {catGen : CatchupGenerateInfo} {created : CreatedCatchup} {db₁ db₂ : Database}
      (hlogin : s.loginOf client = some auth) (hparams : params = .decoded catGen)
      (hcreate : (requestedCreation s sur auth catGen).run s.db = (.ok created, db₁))
      (hadd : (addUserCatchup sur.toEnv auth created.cat.streamId).run db₁ = (.ok (), db₂))
      (ho : o ≠ .abort) (hdb : s'.db = db₂)
      (hsent : s'.sent = s.sent ++ announcement created ++
        told sur client id (.catchupGenerateSuccess created.cat)) :
      GenerateRun s sur client id params o s'

variable {s : State} {sur : Surroundings} {client : ClientId} {id : RequestId}
  {auth : ServerDBAuthInfo}

omit [Fastotv] in
/-- The outputs of an error reply. -/
theorem appends_reply {r : Reply} (hr : NotHandedOut (.reply client id r)) :
    Appends NotHandedOut s { s with sent := s.sent ++ told sur client id r } := by
  refine ⟨_, rfl, ?_⟩
  unfold told
  split_ifs
  · simpa using hr
  · simp

omit [Fastotv] in
/-- An error is told to the requester and changes nothing else. -/
theorem run_orReply_error {α : Type} {failure : Error → Reply} {x : Call α} {f : α → Call Unit}
    {err : Error} {s₁ : State} (hx : x.run s = (.error err, s₁)) :
    (orReply sur client id failure x f).run s =
      (.error err, { s₁ with sent := s₁.sent ++ told sur client id (failure err) }) := by
  have hresult : (result x).run s = (.ok (.error err), s₁) := by rw [run_result, hx]
  unfold orReply
  rw [run_bind_of_ok hresult]
  dsimp only
  rw [run_bind_of_ok run_attempt_reply]
  rfl

omit [Fastotv] in
theorem run_orReply_abort {α : Type} {failure : Error → Reply} {x : Call α} {f : α → Call Unit}
    {s₁ : State} (hx : x.run s = (.abort, s₁)) :
    (orReply sur client id failure x f).run s = (.abort, s₁) := by
  unfold orReply
  rw [run_bind, run_result, hx]

omit [Fastotv] in
theorem run_orReply_ok {α : Type} {failure : Error → Reply} {x : Call α} {f : α → Call Unit}
    {a : α} {s₁ : State} (hx : x.run s = (.ok a, s₁)) :
    (orReply sur client id failure x f).run s = (f a).run s₁ := by
  have hresult : (result x).run s = (.ok (.ok a), s₁) := by rw [run_result, hx]
  unfold orReply
  rw [run_bind_of_ok hresult]

/-- The end of a request that succeeded. -/
theorem run_announce (sur : Surroundings) (client : ClientId) (id : RequestId)
    (created : CreatedCatchup) (s : State) :
    ∃ o s', ((do
      (if created.isCreated then catchupCreated created.serverid created.cat else pure ())
      reply sur client id (.catchupGenerateSuccess created.cat) : Call Unit).run s) = (o, s') ∧
      o ≠ .abort ∧ s'.db = s.db ∧
      s'.sent = s.sent ++ announcement created ++
        told sur client id (.catchupGenerateSuccess created.cat) := by
  unfold announcement told catchupCreated reply write
  cases created.isCreated <;> cases Fastotv.catchupSerializes created.cat <;>
    cases sur.sends client <;> exact ⟨_, _, rfl, by simp, rfl, by simp⟩

theorem generateRun {c : Client} (hc : s.clients client = some c) (sur : Surroundings)
    (id : RequestId) (params : Params CatchupGenerateInfo) :
    GenerateRun s sur client id params
      ((handleRequestGenerateCatchup sur client id params).run s).1
      ((handleRequestGenerateCatchup sur client id params).run s).2 := by
  have hloginOf : s.loginOf client = c.login := by rw [State.loginOf, hc]; rfl
  unfold handleRequestGenerateCatchup
  cases hlogin : c.login with
  | none =>
    rw [run_withLogin_of_none hc hlogin]
    exact .closed (hloginOf.trans hlogin) rfl (appends_reply (by trivial))
  | some auth =>
    rw [run_withLogin_of_some hc hlogin]
    rw [hlogin] at hloginOf
    cases params with
    | absent => exact .refused (by simp)
    | refused err => exact .refused (by simp)
    | decoded catGen =>
      dsimp only [withParams]
      rcases hcreate : (requestedCreation s sur auth catGen).run s.db with ⟨created, db₁⟩
      have hmanager : (managerCreateCatchup sur.toEnv auth catGen).run s =
          (created, { s with db := db₁ }) := by
        unfold managerCreateCatchup
        rw [run_bind, run_reads]
        dsimp only
        rw [database, run_zoom, hcreate]
      cases created with
      | abort =>
        rw [run_orReply_abort hmanager]
        exact .failed hloginOf rfl hcreate (by simp) rfl (refl_of (Appends _) _)
      | error err =>
        rw [run_orReply_error hmanager]
        exact .failed hloginOf rfl hcreate (by simp) rfl (appends_reply (by trivial))
      | ok created =>
        rw [run_orReply_ok hmanager]
        rcases hadd : (addUserCatchup sur.toEnv auth created.cat.streamId).run db₁ with
          ⟨added, db₂⟩
        have hpush : (database (addUserCatchup sur.toEnv auth created.cat.streamId)).run
            { s with db := db₁ } = (added, { s with db := db₂ }) := by
          rw [database, run_zoom, hadd]
        cases added with
        | abort =>
          rw [run_orReply_abort hpush]
          exact .notAdded hloginOf rfl hcreate hadd (by simp) rfl (refl_of (Appends _) _)
        | error err =>
          rw [run_orReply_error hpush]
          exact .notAdded hloginOf rfl hcreate hadd (by simp) rfl (appends_reply (by trivial))
        | ok u =>
          rw [run_orReply_ok hpush]
          obtain ⟨o, s', hrun, ho, hdb, hsent⟩ :=
            run_announce sur client id created { s with db := db₂ }
          rw [hrun]
          exact .handedOut hloginOf rfl hcreate hadd ho hdb hsent

end

end LoadBalance
