import LoadBalance.Equiv.OneCatchup
import Mathlib.Algebra.Order.Ring.Int

/-!
# How long a catchup records

`CreateOrFindCatchup` writes the two times of the request into the document of a new catchup, and
the difference in whole seconds as the time after which the recording stops by itself.  Nothing on
the way from the request compares the two times.  The document is sound exactly when the interval
is not empty and is shorter than `2^31` seconds (`catchup_durations_iff`).
-/

namespace LoadBalance

open LoadBalance.Action

/-! ### The whole seconds of an interval -/

/-- The interval `start, stop` in milliseconds is not empty, its length is a 64-bit number, and
`exit` is the number of its whole seconds. -/
structure SoundInterval (start stop : Timestamp) (exit : Int32) : Prop where
  lt : start < stop
  length : stop.toInt - start.toInt < 2 ^ 63
  seconds : exit.toInt = (stop.toInt - start.toInt) / 1000
  nonneg : 0 ≤ exit.toInt

/-- The numbers that are written. -/
theorem toInt_autoExit (start stop : Timestamp) :
    (((stop - start) / 1000).toInt32).toInt =
      (((stop.toInt - start.toInt).bmod (2 ^ 64)).tdiv 1000).bmod (2 ^ 32) := by
  rw [Int64.toInt_toInt32, Int64.toInt_div_of_ne_right _ _ (by decide), Int64.toInt_sub]
  rfl

/-- What is written is right exactly when the seconds are a 32-bit number. -/
theorem soundInterval_iff (start stop : Timestamp) :
    SoundInterval start stop ((stop - start) / 1000).toInt32 ↔
      start < stop ∧ stop.toInt - start.toInt < 2 ^ 31 * 1000 := by
  have hwritten := toInt_autoExit start stop
  have hrange : ∀ n : Int, 0 ≤ n → n < 2 ^ 63 → n.bmod (2 ^ 64) = n := fun n h0 h =>
    Int.bmod_eq_of_le (by omega) (by omega)
  rw [Int64.lt_iff_toInt_lt]
  constructor
  · rintro ⟨hlt, hlength, hseconds, -⟩
    rw [Int64.lt_iff_toInt_lt] at hlt
    refine ⟨hlt, ?_⟩
    -- A 32-bit number is less than `2^31`.
    have hbound := Int32.toInt_lt ((stop - start) / 1000).toInt32
    rw [hseconds] at hbound
    omega
  · rintro ⟨hlt, hshort⟩
    have hdiv : (stop.toInt - start.toInt).tdiv 1000 = (stop.toInt - start.toInt) / 1000 :=
      Int.tdiv_eq_ediv_of_nonneg (by omega)
    have hexact : (((stop - start) / 1000).toInt32).toInt = (stop.toInt - start.toInt) / 1000 := by
      rw [hwritten, hrange _ (by omega) (by omega), hdiv]
      exact Int.bmod_eq_of_le (by omega) (by omega)
    refine ⟨Int64.lt_iff_toInt_lt.mpr hlt, by omega, hexact, ?_⟩
    rw [hexact]
    omega

instance (start stop : Timestamp) (exit : Int32) : Decidable (SoundInterval start stop exit) :=
  decidable_of_iff (start < stop ∧ stop.toInt - start.toInt < 2 ^ 63 ∧
      exit.toInt = (stop.toInt - start.toInt) / 1000 ∧ 0 ≤ exit.toInt)
    ⟨fun ⟨lt, length, seconds, nonneg⟩ => ⟨lt, length, seconds, nonneg⟩,
      fun h => ⟨h.lt, h.length, h.seconds, h.nonneg⟩⟩

/-! ### The document -/

/-- The document has a start, a stop and a time after which it stops by itself, and these are
sound. -/
def DurationSound (d : Doc) : Prop :=
  match d.get? catchupStartField, d.get? catchupStopField, d.get? streamAutoExitField with
  | some (.dateTime start), some (.dateTime stop), some (.int32 exit) =>
    SoundInterval start stop exit
  | _, _, _ => False

instance (d : Doc) : Decidable (DurationSound d) := by
  unfold DurationSound
  split <;> infer_instance

section

variable [Fastotv]

theorem durationSound_newCatchupDoc {env : Env} {endpoint : CatchupEndpointInfo}
    {basedOn : ChannelInfo} {title : String} {start stop : Timestamp} {outputUrls : List OutputUri}
    {hdoc : idField ∉ Doc.keys (newCatchupDoc env endpoint basedOn title start stop outputUrls)} :
    DurationSound (StoredDoc.toDoc ⟨.oid env.fresh, _, hdoc⟩) ↔
      start < stop ∧ stop.toInt - start.toInt < 2 ^ 31 * 1000 :=
  soundInterval_iff start stop

/-- A stream that a request for a catchup adds is the document of this catchup. -/
theorem newStream_of_request {s : State} {client : ClientId} {sur : Surroundings} {id : RequestId}
    {catGen : CatchupGenerateInfo} {x : Oid} {d : StoredDoc}
    (hnew : s.db.streams.findId? x = none)
    (hd : ((Event.request client sur ⟨id, .generateCatchup (.decoded catGen)⟩).action.run
      s).2.db.streams.findId? x = some d) :
    x = sur.fresh ∧ ∃ auth ch bsid serverOid outputUrls c,
      findStream sur.toEnv s.db auth catGen.streamId = .ok ch ∧
      CatchupInserted sur.toEnv s.catchupEndpoint ch catGen.title catGen.start catGen.stop s.db bsid
        serverOid outputUrls c ∧
      d = ⟨.oid sur.fresh, newCatchupDoc sur.toEnv s.catchupEndpoint ch catGen.title catGen.start
        catGen.stop outputUrls, no_id_catchupDoc _ _ _ _ _ _ _⟩ := by
  by_cases hopen : (s.clients client).any (fun c => c.kind = .subscriber) = true
  · rw [run_action_request hopen] at hd
    obtain ⟨c, hc, -⟩ := (Option.any_eq_true _ _).mp hopen
    unfold handleRequestCommand at hd
    dsimp only at hd
    rcases streams_generate sur id (.decoded catGen) hc with
      ⟨auth, catGen', -, hparams, hstreams⟩ | ⟨-, hstreams⟩
    · obtain rfl := Params.decoded.inj hparams
      rw [hstreams] at hd
      rcases createCatchup_cases sur.toEnv s.catchupEndpoint auth catGen.streamId catGen.title
        catGen.start catGen.stop s.db with ⟨hdb, -⟩ | ⟨ch, hch, hrun⟩
      · rw [hdb, hnew] at hd
        cases hd
      · rw [hrun] at hd
        obtain ⟨hx, bsid, serverOid, outputUrls, c, hinserted, hdoc⟩ :=
          (catchupRun _ _ _ _ _ _ _).inserted hnew hd
        exact ⟨hx, auth, ch, bsid, serverOid, outputUrls, c, hch, hinserted, hdoc⟩
    · rw [hstreams, hnew] at hd
      cases hd
  · -- Nothing is done for a connection that is not there.
    rw [run_action_request_of_not hopen, hnew] at hd
    cases hd

/-! ### The request -/

/-- In whatever state a catchup is asked for: the document of a catchup that is new is sound if and
only if the times of the request are in order and less than `2^31` seconds apart. -/
theorem catchup_durations_iff (s : State) (client : ClientId) (sur : Surroundings) (id : RequestId)
    (catGen : CatchupGenerateInfo) (x : Oid) (d : StoredDoc)
    (hnew : s.db.streams.findId? x = none)
    (hd : ((Event.request client sur ⟨id, .generateCatchup (.decoded catGen)⟩).action.run
      s).2.db.streams.findId? x = some d) :
    DurationSound d.toDoc ↔
      catGen.start < catGen.stop ∧ catGen.stop.toInt - catGen.start.toInt < 2 ^ 31 * 1000 := by
  obtain ⟨-, -, ch, -, -, outputUrls, -, -, -, rfl⟩ := newStream_of_request hnew hd
  exact durationSound_newCatchupDoc

end

/-! A request for an interval that ends before it starts, one for an interval of `2^31` seconds, and
one for the news. -/

namespace Sample

def newsRequest (start stop : Timestamp) : Event :=
  .request 7 sur ⟨some "2", .generateCatchup (.decoded ⟨(oid 2).text, "Evening news", start, stop⟩)⟩

def newsWatched : List Event := [.accept 7 .subscriber, .request 7 sur (loginRequest (oid 5))]

/-- The subscriber is logged in. -/
def newsWatchedState : State := (run step (some newsStart) newsWatched).getD newsStart

end Sample

open Sample in
/-- Both are recorded. -/
theorem catchup_ends_before_start :
    ∃ s, run step (some newsStart) newsWatched = some s ∧
      s.db.streams.findId? (oid 15) = none ∧
      (∃ s' d, step (some s) (newsRequest 20 10) = some s' ∧
        s'.db.streams.findId? (oid 15) = some d ∧ ¬DurationSound d.toDoc) ∧
      ∃ s' d, step (some s) (newsRequest 0 (2 ^ 31 * 1000)) = some s' ∧
        s'.db.streams.findId? (oid 15) = some d ∧ ¬DurationSound d.toDoc :=
  ⟨_, rfl, rfl, ⟨_, _, rfl, rfl, by decide⟩, ⟨_, _, rfl, rfl, by decide⟩⟩

open Sample in
theorem catchup_durations_iff_sample :
    ∃ d, ((newsRequest 10 20).action.run newsWatchedState).2.db.streams.findId? (oid 15) = some d ∧
      DurationSound d.toDoc :=
  ⟨_, rfl, (catchup_durations_iff newsWatchedState 7 sur (some "2")
    ⟨(oid 2).text, "Evening news", 10, 20⟩ (oid 15) _ rfl rfl).mpr (by decide)⟩

end LoadBalance
