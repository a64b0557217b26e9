import LoadBalance.Equiv.Activation
import LoadBalance.Equiv.DaemonLoop
import LoadBalance.Equiv.DistinctCatchups
import LoadBalance.Mongo.Equiv.Evolution

/-!
# What a run does to the database

All loops together write to the database by `Wrote`, by the creation of catchups and by the pushes
of these to subscribers (`within_serviceEvent`).  So as long as nobody else writes, a run of the
service changes the database by the policies only, whatever writes fail: no document goes away, and
no account changes but for its devices and arrays (`database_evolves`); and whatever a document
comes to point to is a stream that is there, and stays there (`no_new_dangling`). -/

namespace LoadBalance

open LoadBalance.Action

section

variable [Fastotv]

/-- An event that does not change the database from outside keeps it within every relation that
allows the writes of `Wrote` and what a request for a catchup does. -/
theorem within_database {R : Database → Database → Prop} [IsPreorder Database R]
    (hwrote : ∀ u db db', Wrote u db db' → R db db')
    (hcreate : ∀ (s : State) (sur : Surroundings) auth catGen created db₁,
      (requestedCreation s sur auth catGen).run s.db = (created, db₁) → R s.db db₁)
    (hadd : ∀ (s : State) (sur : Surroundings) auth catGen created db₁ added db₂,
      (requestedCreation s sur auth catGen).run s.db = (.ok created, db₁) →
      (addUserCatchup sur.toEnv auth created.cat.streamId).run db₁ = (added, db₂) → R db₁ db₂)
    {s : State} {e : Event} (hown : ∀ db, e ≠ .database db) : R s.db ((e.action).run s).2.db := by
  have hwrites : ∀ db db', AnyWrites db db' → R db db' :=
    fun _ _ h => h.rel fun u db db' _ => hwrote u db db'
  by_cases hcatchup : ∃ client sur id params,
      e = .request client sur ⟨id, .generateCatchup params⟩
  · obtain ⟨client, sur, id, params, rfl⟩ := hcatchup
    by_cases hopen : (s.clients client).any (fun c => c.kind = .subscriber) = true
    · obtain ⟨c, hc, -⟩ := (Option.any_eq_true _ _).mp hopen
      rw [run_action_request hopen]
      have hways := generateRun hc sur id params
      have hhandler : handleRequestCommand sur client ⟨id, .generateCatchup params⟩ =
          handleRequestGenerateCatchup sur client id params := rfl
      rw [hhandler]
      generalize (handleRequestGenerateCatchup sur client id params).run s = r at hways ⊢
      cases hways with
      | closed _ hdb =>
        rw [hdb]
        exact refl_of R _
      | refused => exact refl_of R _
      | failed _ _ hrun _ hdb =>
        rw [hdb]
        exact hcreate _ _ _ _ _ _ hrun
      | notAdded _ _ hrun hpush _ hdb =>
        rw [hdb]
        exact trans_of R (hcreate _ _ _ _ _ _ hrun) (hadd _ _ _ _ _ _ _ _ hrun hpush)
      | handedOut _ _ hrun hpush _ hdb =>
        rw [hdb]
        exact trans_of R (hcreate _ _ _ _ _ _ hrun) (hadd _ _ _ _ _ _ _ _ hrun hpush)
    · rw [run_action_request_of_not (by simpa using hopen)]
      exact refl_of R s.db
  · exact hwrites _ _ (writes_action (fun client sur id params h =>
      hcatchup ⟨client, sur, id, params, h⟩) hown)

variable [License] {s : Service} {e : ServiceEvent}

/-- The event is one of the balancer, not of somebody else who writes to the database. -/
def ServiceEvent.IsOwn : ServiceEvent → Prop
  | .other (.database _) _ => False
  | _ => True

/-- The same for the events of all loops. -/
theorem within_serviceEvent {R : Database → Database → Prop} [IsPreorder Database R]
    (hwrote : ∀ u db db', Wrote u db db' → R db db')
    (hcreate : ∀ (s : State) (sur : Surroundings) auth catGen created db₁,
      (requestedCreation s sur auth catGen).run s.db = (created, db₁) → R s.db db₁)
    (hadd : ∀ (s : State) (sur : Surroundings) auth catGen created db₁ added db₂,
      (requestedCreation s sur auth catGen).run s.db = (.ok created, db₁) →
      (addUserCatchup sur.toEnv auth created.cat.streamId).run db₁ = (added, db₂) → R db₁ db₂)
    (hown : e.IsOwn) : R s.db ((e.action).run s).2.db := by
  by_cases hother : ∃ e' he, e = .other e' he
  · obtain ⟨e', he, rfl⟩ := hother
    refine within_database (s := s.toState) hwrote hcreate hadd fun db hdb => ?_
    subst hdb
    exact hown
  · -- The loop of the daemon does not write.
    rw [(onlyTells_serviceEvent (fun e' he heq => hother ⟨e', he, heq⟩) s).db]
    exact refl_of R s.db

/-- And for their runs. -/
theorem within_serviceRun {R : Database → Database → Prop} [IsPreorder Database R]
    (hwrote : ∀ u db db', Wrote u db db' → R db db')
    (hcreate : ∀ (s : State) (sur : Surroundings) auth catGen created db₁,
      (requestedCreation s sur auth catGen).run s.db = (created, db₁) → R s.db db₁)
    (hadd : ∀ (s : State) (sur : Surroundings) auth catGen created db₁ added db₂,
      (requestedCreation s sur auth catGen).run s.db = (.ok created, db₁) →
      (addUserCatchup sur.toEnv auth created.cat.streamId).run db₁ = (added, db₂) → R db₁ db₂)
    {start : Service} {es : List ServiceEvent} (hown : ∀ e ∈ es, e.IsOwn)
    (hrun : run serviceStep (some start) es = some s) : R start.db s.db := by
  refine run_invariant_some (C := fun _ e => e.IsOwn) (P := fun s => R start.db s.db)
    (fun _ => rfl) (fun s e s' he hs' hs => ?_) (meets_iff_forall.mpr ?_) hrun
    (refl_of R start.db)
  · rw [(serviceStep_eq_some_iff.mp hs').2]
    exact trans_of R hs (within_serviceEvent hwrote hcreate hadd he)
  · rintro fs e gs rfl s -
    exact hown e (by simp)

theorem evolves_serviceRun {start : Service} {es : List ServiceEvent} (hown : ∀ e ∈ es, e.IsOwn)
    (hrun : run serviceStep (some start) es = some s) : Evolves start.db s.db := by
  refine within_serviceRun (fun _ _ _ => Evolves.of_wrote)
    (fun s sur auth catGen created db₁ h => ?_)
    (fun _ _ _ _ _ _ _ _ _ h => evolves_addUserCatchup h) hown hrun
  have hevolves : Evolves s.db ((createCatchup sur.toEnv s.catchupEndpoint auth catGen.streamId
      catGen.title catGen.start catGen.stop).run s.db).2 := evolves_createCatchup catGen.streamId
  rwa [h] at hevolves

/-- As long as nobody else writes, a run changes documents by the policies and inserts documents,
whichever of the writes fail, and does nothing else to the database. -/
theorem database_evolves (start s : Service) (es : List ServiceEvent) (hown : ∀ e ∈ es, e.IsOwn)
    (hrun : run serviceStep (some start) es = some s) : Evolves start.db s.db :=
  evolves_serviceRun hown hrun

/-- As long as nobody else writes, streams stay, and whatever an entry of a subscriber, a part of a
stream or a stream of a server newly points to is a stream that is there: a run makes no reference
dangle. -/
theorem no_new_dangling (start s : Service) (es : List ServiceEvent) (hown : ∀ e ∈ es, e.IsOwn)
    (hrun : run serviceStep (some start) es = some s) : PointsToExisting start.db s.db := by
  refine within_serviceRun (fun _ _ _ => PointsToExisting.of_wrote)
    (fun s sur auth catGen created db₁ h => (pointsToExisting_createCatchup h).1)
    (fun s sur auth catGen created db₁ added db₂ h hadd => ?_) hown hrun
  obtain ⟨x, hx, hstream⟩ := (pointsToExisting_createCatchup h).2 created rfl
  rw [hx] at hadd
  exact pointsToExisting_addUserCatchup hstream hadd

end

/-! A catchup that is created and added. -/

namespace Sample

def newsService : Service := Service.initial newsStart (some "key")

def catchupServed : List ServiceEvent :=
  [.other (.accept 7 .subscriber) trivial, .other (.request 7 sur (loginRequest (oid 5))) trivial,
    .other (.request 7 sur catchupRequest) trivial]

theorem isOwn_catchupServed : ∀ e ∈ catchupServed, e.IsOwn := by
  simp only [catchupServed, List.forall_mem_cons]
  exact ⟨trivial, trivial, trivial, List.forall_mem_nil _⟩

end Sample

open Sample in
theorem database_evolves_sample :
    ∃ s, run serviceStep (some newsService) catchupServed = some s ∧
      Evolves newsService.db s.db ∧ newsService.db.streams.findId? (oid 15) = none ∧
      s.db.HasStream (oid 15) :=
  ⟨_, rfl, database_evolves newsService _ catchupServed isOwn_catchupServed rfl, rfl, _, rfl⟩

open Sample in
theorem no_new_dangling_sample :
    ∃ s, run serviceStep (some newsService) catchupServed = some s ∧
      PointsToExisting newsService.db s.db ∧
      s.db.Points (.subscriber (.oid (oid 1)) userCatchupsField) (oid 15) :=
  ⟨_, rfl, no_new_dangling newsService _ catchupServed isOwn_catchupServed rfl, _,
    List.mem_singleton_self _, rfl, List.mem_singleton_self _⟩

end LoadBalance
