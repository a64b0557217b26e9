import LoadBalance.Equiv.Credentials
import LoadBalance.Equiv.GenerateCatchup
import LoadBalance.Mongo.Equiv.UserCatchups

/-!
# The catchups of a subscriber along a run

The catchups of a subscriber stay distinct as long as none is asked for that the subscriber has
already: the handler appends the catchup that is handed out, whether it was created or found
(`catchups_distinct_iff`).
-/

namespace LoadBalance

open LoadBalance.Action

section

variable [Fastotv] {user : Oid} {s : State}

/-- The requests that append a catchup which the subscriber has already, and the writes from outside
that leave one twice. -/
def RepeatsCatchup (user : Oid) (s : State) : Event → Prop
  | .request client sur ⟨_, .generateCatchup (.decoded catGen)⟩ =>
    (s.clients client).any (fun c => c.kind = .subscriber) ∧ ∃ auth x,
      s.loginOf client = some auth ∧ convertFromString sur.beyond auth.uid = some user ∧
      HandsOut sur.toEnv s.catchupEndpoint s.db auth catGen x ∧
      x.text ≠ Fastotv.invalidStreamId ∧ sur.write .pushEntry = true ∧ x ∈ catchupSids s.db user
  | .database db => ¬(catchupSids db user).Nodup
  | _ => False

/-- The creation does not write to the subscribers. -/
theorem catchupSids_of_creation {sur : Surroundings} {auth : ServerDBAuthInfo}
    {catGen : CatchupGenerateInfo} {o : Outcome Error CreatedCatchup} {db₁ : Database}
    (h : (requestedCreation s sur auth catGen).run s.db = (o, db₁)) (user : Oid) :
    catchupSids db₁ user = catchupSids s.db user := by
  have hsub : ((requestedCreation s sur auth catGen).run s.db).2.subscribers = s.db.subscribers :=
    subscribers_createCatchup _
  rw [h] at hsub
  unfold catchupSids
  rw [hsub]

/-- A request for a catchup that the subscriber does not have leaves the catchups distinct. -/
theorem distinct_generate {client : ClientId} {sur : Surroundings} {id : RequestId}
    {params : Params CatchupGenerateInfo} {c : Client} (hc : s.clients client = some c)
    (hs : (catchupSids s.db user).Nodup)
    (hno : ∀ catGen auth x, params = .decoded catGen → s.loginOf client = some auth →
      convertFromString sur.beyond auth.uid = some user →
      HandsOut sur.toEnv s.catchupEndpoint s.db auth catGen x →
      x.text ≠ Fastotv.invalidStreamId → sur.write .pushEntry = true →
        x ∉ catchupSids s.db user) :
    (catchupSids ((handleRequestGenerateCatchup sur client id params).run s).2.db user).Nodup := by
  have hways := generateRun hc sur id params
  generalize (handleRequestGenerateCatchup sur client id params).run s = res at hways ⊢
  obtain ⟨o, s'⟩ := res
  dsimp only at hways ⊢
  cases hways with
  | closed _ hdb =>
    rw [hdb]
    exact hs
  | refused => exact hs
  | failed _ _ hcreate _ hdb =>
    rw [hdb, catchupSids_of_creation hcreate]
    exact hs
  | notAdded _ _ hcreate hadd hfail hdb =>
    rcases addUserCatchup_cases hadd with ⟨rfl, -⟩ | ⟨_, _, _, -, -, -, -, -, hok, -⟩
    · rw [hdb, catchupSids_of_creation hcreate]
      exact hs
    · exact absurd hok hfail
  | handedOut hlogin hparams hcreate hadd _ hdb =>
    rcases addUserCatchup_cases hadd with
      ⟨-, hfail⟩ | ⟨user', x', c', huser, hx', hvalid, hwrite, hpush, -, rfl⟩
    · exact absurd rfl hfail
    · obtain ⟨x, hx, hout⟩ := handsOut_of_ok (congrArg Prod.fst hcreate)
      rw [hx, convertFromString_text] at hx'
      obtain rfl := Option.some.inj hx'
      rw [hdb, catchupSids_push hpush, catchupSids_of_creation hcreate]
      split_ifs with happend
      · -- It is appended to the catchups of this subscriber, which do not have it.
        obtain ⟨rfl, -⟩ := happend
        have hnew := hno _ _ x hparams hlogin huser hout (hx ▸ hvalid) hwrite
        exact List.nodup_append.mpr ⟨hs, List.nodup_singleton _, fun a ha b hb hab =>
          hnew (List.mem_singleton.mp hb ▸ hab ▸ ha)⟩
      · rw [List.append_nil]
        exact hs

/-- The other events leave the catchups distinct. -/
theorem distinct_action {e : Event} (hs : (catchupSids s.db user).Nodup)
    (he : ¬RepeatsCatchup user s e) : (catchupSids ((e.action).run s).2.db user).Nodup := by
  by_cases hcatchup : ∃ client sur id params, e = .request client sur ⟨id, .generateCatchup params⟩
  · obtain ⟨client, sur, id, params, rfl⟩ := hcatchup
    by_cases hopen : (s.clients client).any (fun c => c.kind = .subscriber) = true
    · rw [run_action_request hopen]
      obtain ⟨c, hc, -⟩ := (Option.any_eq_true _ _).mp hopen
      refine distinct_generate hc hs
        fun catGen auth x hparams hlogin huser hout hvalid hwrite hx => ?_
      subst hparams
      exact he ⟨hopen, auth, x, hlogin, huser, hout, hvalid, hwrite, hx⟩
    · rw [run_action_request_of_not hopen]
      exact hs
  · by_cases hdatabase : ∃ db, e = .database db
    · obtain ⟨db, rfl⟩ := hdatabase
      exact not_not.mp he
    · have hwrites : AnyWrites s.db ((e.action).run s).2.db :=
        writes_action (fun client sur id params h => hcatchup ⟨client, sur, id, params, h⟩)
          fun db h => hdatabase ⟨db, h⟩
      exact hs.sublist (CatchupsKept.of_writes hwrites user)

/-- A repeated catchup is there twice afterwards. -/
theorem not_distinct_action {e : Event} (he : RepeatsCatchup user s e) :
    ∃ s', step (some s) e = some s' ∧ ¬(catchupSids s'.db user).Nodup := by
  cases e with
  | database db => exact ⟨{ s with db := db }, rfl, he⟩
  | request client sur req =>
    obtain ⟨id, command⟩ := req
    cases command with
    | generateCatchup params =>
      cases params with
      | decoded catGen =>
        obtain ⟨hopen, auth, x, hlogin, huser, hout, hvalid, hwrite, hx⟩ := he
        obtain ⟨c, hc, -⟩ := (Option.any_eq_true _ _).mp hopen
        obtain ⟨created, hok, hcat⟩ := handsOut_iff.mp hout
        rcases hcreate : (requestedCreation s sur auth catGen).run s.db with ⟨o, db₁⟩
        obtain rfl : o = .ok created := (congrArg Prod.fst hcreate).symm.trans hok
        rw [← catchupSids_of_creation hcreate] at hx
        obtain ⟨hsome, htakes⟩ := takesCatchup_of_mem hx
        obtain ⟨c', hadd, hsids⟩ :=
          addUserCatchup_of_takes (x := x) hout.isValid hvalid huser hwrite htakes
        rw [if_pos hsome] at hsids
        have hrun : (Event.action (.request client sur ⟨id, .generateCatchup (.decoded catGen)⟩)).run
            s = (handleRequestGenerateCatchup sur client id (.decoded catGen)).run s :=
          run_action_request hopen
        have hways := generateRun hc sur id (.decoded catGen)
        rcases hres : (handleRequestGenerateCatchup sur client id (.decoded catGen)).run s with
          ⟨o, s'⟩
        rw [hres] at hways hrun
        cases hways with
        | closed hnone => exact absurd (hlogin.symm.trans hnone) (by simp)
        | refused hno => exact absurd rfl (hno catGen)
        | failed hlogin' hparams hcreate' hno =>
          obtain rfl := Option.some.inj (hlogin.symm.trans hlogin')
          obtain rfl := Params.decoded.inj hparams
          rw [hcreate, Prod.mk.injEq] at hcreate'
          exact absurd hcreate'.1.symm (hno created)
        | notAdded hlogin' hparams hcreate' hadd' hno =>
          obtain rfl := Option.some.inj (hlogin.symm.trans hlogin')
          obtain rfl := Params.decoded.inj hparams
          rw [hcreate, Prod.mk.injEq, Outcome.ok.injEq] at hcreate'
          obtain ⟨rfl, rfl⟩ := hcreate'
          rw [hcat, hadd, Prod.mk.injEq] at hadd'
          exact absurd hadd'.1.symm hno
        | handedOut hlogin' hparams hcreate' hadd' ho hdb =>
          obtain rfl := Option.some.inj (hlogin.symm.trans hlogin')
          obtain rfl := Params.decoded.inj hparams
          rw [hcreate, Prod.mk.injEq, Outcome.ok.injEq] at hcreate'
          obtain ⟨rfl, rfl⟩ := hcreate'
          rw [hcat, hadd, Prod.mk.injEq] at hadd'
          refine ⟨_, step_of_returns ?_, ?_⟩
          · rw [hrun]
            exact Outcome.returns_iff.mpr ho
          · rw [hrun, hdb, ← hadd'.2, hsids]
            intro hnodup
            exact (List.nodup_append.mp hnodup).2.2 x hx x (List.mem_singleton_self x) rfl
      | _ => exact he.elim
    | _ => exact he.elim
  | _ => exact he.elim

/-- No catchup of the subscriber is listed twice, whatever login the catalogue is asked for with. -/
def CatchupsListedOnce (user : Oid) (db : Database) : Prop :=
  ∀ env login sub r, findByEmail db login.login = some sub → sub.id = .oid user →
    clientGetChannels env db login = .ok r → (r.catchups.map fun cat => cat.streamId).Nodup

/-- The catchups of a subscriber are distinct, and none is listed twice, in every state of a run if
and only if no event of the run repeats one. -/
theorem catchups_distinct_iff (user : Oid) (start : State)
    (hstart : (catchupSids start.db user).Nodup) (es : List Event) :
    (∀ fs, fs <+: es → ∀ s, run step (some start) fs = some s →
        (catchupSids s.db user).Nodup ∧ CatchupsListedOnce user s.db) ↔
      Meets step (fun o e => ∀ s, o = some s → ¬RepeatsCatchup user s e) (some start) es := by
  refine forall_prefix_iff_meets
    (P := fun o : Option State => ∀ s, o = some s → (catchupSids s.db user).Nodup)
    (Q := fun o : Option State => ∀ s, o = some s →
      (catchupSids s.db user).Nodup ∧ CatchupsListedOnce user s.db) ?_ ?_ ?_ ?_ es
  · intro o ho s hs
    exact ⟨ho s hs, fun _ _ _ _ hsub hid hr => catchups_listed_once (ho s hs) hsub hid hr⟩
  · intro o e ho he s' hs'
    cases o with
    | none => cases hs'
    | some s =>
      rw [step_eq_some hs']
      exact distinct_action (ho s rfl) (he s rfl)
  · rintro o e ho hq s rfl he
    obtain ⟨s', hs', hnot⟩ := not_distinct_action he
    exact hnot (hq s' hs').1
  · rintro s hs
    obtain rfl := Option.some.inj hs
    exact hstart

end

/-! A subscriber that asks for a catchup twice. -/

namespace Sample

def newsStart : State :=
  State.initial { newsDatabase with subscribers := ⟨[viewer], nodup_viewer⟩ } endpoint
    ⟨"http://epg", true⟩ "locked"

def catchupRequest : SubscriberRequest :=
  ⟨some "2", .generateCatchup (.decoded ⟨(oid 2).text, "Evening news", 10, 20⟩)⟩

def catchupOnce : List Event :=
  [.accept 7 .subscriber, .request 7 sur (loginRequest (oid 5)), .request 7 sur catchupRequest]

end Sample

open Sample in
/-- The second time the catchup is found, and added again. -/
theorem catchup_twice :
    ∃ s s', run step (some newsStart) catchupOnce = some s ∧
      catchupSids s.db (oid 1) = [oid 15] ∧
      step (some s) (.request 7 sur catchupRequest) = some s' ∧
      catchupSids s'.db (oid 1) = [oid 15, oid 15] :=
  ⟨_, _, rfl, by decide, rfl, by decide⟩

open Sample in
theorem catchups_distinct_iff_sample :
    (∀ fs, fs <+: catchupOnce → ∀ s, run step (some newsStart) fs = some s →
        (catchupSids s.db (oid 1)).Nodup ∧ CatchupsListedOnce (oid 1) s.db) ↔
      Meets step (fun o e => ∀ s, o = some s → ¬RepeatsCatchup (oid 1) s e) (some newsStart)
        catchupOnce :=
  catchups_distinct_iff (oid 1) newsStart (by decide) catchupOnce

end LoadBalance
