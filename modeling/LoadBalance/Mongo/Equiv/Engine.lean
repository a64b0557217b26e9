import LoadBalance.Library.Transition
import LoadBalance.Mongo.Engine

/-!
# The handles of the connection

Along every run of connecting and disconnecting the manager keeps all of its handles or none, and
each of them is there once (`handles_accounted`), so that nothing is destroyed twice.  What is there
besides was left behind by the attempts that found the streams but not the series or the requests,
one handle each, and by those that succeeded while the manager was connected.
-/

namespace LoadBalance

open LoadBalance.Action

section

variable {answers : DriverAnswers} {url dbName : String} {lazy : Bool} {base : Finset ℕ}
  {held : List ℕ} {heap : Heap}

/-- `Connect` gives a client. -/
def DriverAnswers.Connects (answers : DriverAnswers) (url : String) (lazy : Bool) : Prop :=
  url ≠ "" ∧ answers.uri = true ∧ answers.client = true ∧
    (lazy = true ∨ answers.serverStatus = true)

/-- The driver gives no client for the url, which is the end of the process when it is used. -/
def DriverAnswers.NullClient (answers : DriverAnswers) (url : String) : Prop :=
  url ≠ "" ∧ answers.uri = true ∧ answers.client = false

/-- A connection, or an error after which nothing is there that was not there before. -/
theorem run_connect (lazy : Bool) (hheap : heap.Owns base held) (hnull : ¬answers.NullClient url) :
    (answers.Connects url lazy ∧ ∃ client heap',
        (MongoEngine.connect answers url lazy).run heap = (.ok (some client), heap') ∧
        heap'.Owns base (client :: held)) ∨
      (¬answers.Connects url lazy ∧ ∃ err heap',
        (MongoEngine.connect answers url lazy).run heap = (.error err, heap') ∧
        heap'.Owns base held) := by
  unfold MongoEngine.connect
  by_cases hurl : url = ""
  · refine Or.inr ⟨fun h => h.1 hurl, .inval, heap, ?_, hheap⟩
    rw [if_pos hurl]
    rfl
  rw [if_neg hurl]
  cases huri : answers.uri with
  | false =>
    refine Or.inr ⟨fun h => ?_, .message "Invalid uri", heap, rfl, hheap⟩
    rw [h.2.1] at huri
    cases huri
  | true =>
    have hclient : answers.client = true := by
      by_contra hnot
      exact hnull ⟨hurl, huri, Bool.eq_false_iff.mpr hnot⟩
    obtain ⟨uri, heap₁, hrun₁, howns₁⟩ := Heap.run_create Error hheap
    obtain ⟨client, heap₂, hrun₂, howns₂⟩ := Heap.run_create Error howns₁
    obtain ⟨heap₃, hrun₃, howns₃⟩ := Heap.run_destroy Error
      (howns₂.perm (List.Perm.swap uri client held))
    rw [run_bind_of_ok hrun₁]
    dsimp only
    rw [hclient, run_bind_of_ok hrun₂, run_bind_of_ok hrun₃]
    by_cases hlazy : lazy = true
    · rw [if_pos hlazy]
      exact Or.inl ⟨⟨hurl, huri, hclient, Or.inl hlazy⟩, client, heap₃, rfl, howns₃⟩
    rw [if_neg hlazy]
    by_cases hstatus : answers.serverStatus = true
    · refine Or.inl ⟨⟨hurl, huri, hclient, Or.inr hstatus⟩, client, heap₃, ?_, howns₃⟩
      rw [run_bind_of_ok (run_value_some client heap₃), if_pos hstatus]
      rfl
    · obtain ⟨heap₄, hrun₄, howns₄⟩ := Heap.run_destroy Error howns₃
      refine Or.inr ⟨fun h => h.2.2.2.elim hlazy hstatus, .driver, heap₄, ?_, howns₄⟩
      rw [run_bind_of_ok (run_value_some client heap₃), if_neg hstatus, run_bind_of_ok hrun₄]
      rfl

/-- A collection, or an error after which nothing is there of what is destroyed. -/
theorem run_getCollection (name : String) {created rest : List ℕ} (hheap : heap.Owns base held)
    (hperm : held.Perm (created ++ rest)) :
    (answers.collection name ∧ ∃ collection heap',
        (getCollection answers name created).run heap = (.ok collection, heap') ∧
        heap'.Owns base (collection :: held)) ∨
      (¬answers.collection name ∧ ∃ err heap',
        (getCollection answers name created).run heap = (.error err, heap') ∧
        heap'.Owns base rest) := by
  unfold getCollection
  cases answers.collection name with
  | true =>
    obtain ⟨collection, heap', hrun, howns⟩ := Heap.run_create Error hheap
    refine Or.inl ⟨rfl, collection, heap', ?_, howns⟩
    rw [run_bind_of_ok hrun]
    rfl
  | false =>
    obtain ⟨heap', hrun, howns⟩ := Heap.run_destroyAll Error (hheap.perm hperm)
    refine Or.inr ⟨Bool.false_ne_true, .message ("Can't find " ++ name ++ " collection."), heap',
      ?_, howns⟩
    rw [run_bind_of_ok Heap.run_create_false]
    dsimp only
    rw [run_bind_of_ok hrun]
    rfl

instance : Decidable (answers.Connects url lazy) := inferInstanceAs (Decidable (_ ∧ _))

/-- The client and the first three collections are there. -/
def DriverAnswers.ReachesStreams (answers : DriverAnswers) (url dbName : String) (lazy : Bool) :
    Prop :=
  dbName ≠ "" ∧ answers.Connects url lazy ∧ answers.collection subscribersCollection = true ∧
    answers.collection serversCollection = true ∧ answers.collection streamsCollection = true

instance : Decidable (answers.ReachesStreams url dbName lazy) :=
  inferInstanceAs (Decidable (_ ∧ _))

/-- So are the other two. -/
def DriverAnswers.Opens (answers : DriverAnswers) (url dbName : String) (lazy : Bool) : Prop :=
  answers.ReachesStreams url dbName lazy ∧ answers.collection seriesCollection = true ∧
    answers.collection requestsCollection = true

instance : Decidable (answers.Opens url dbName lazy) := inferInstanceAs (Decidable (_ ∧ _))

/-- The handles that the manager keeps. -/
def DatabaseHandles.kept (c : DatabaseHandles) : List ℕ :=
  [c.requests, c.series, c.streams, c.servers, c.subscribers, c.client].reduceOption

/-- It keeps all of them. -/
def DatabaseHandles.Connected (c : DatabaseHandles) : Prop :=
  ∃ client subscribers servers streams series requests, c =
    ⟨some client, some subscribers, some servers, some streams, some series, some requests⟩

/-- All handles, or an error after which, of what was created, at most the collection of the streams
is left: it is exactly when this was not the one that is missing. -/
theorem run_openDatabase (lazy : Bool) (hheap : heap.Owns base held)
    (hnull : dbName ≠ "" → ¬answers.NullClient url) :
    (answers.Opens url dbName lazy ∧ ∃ c heap',
        (openDatabase answers url dbName lazy).run heap = (.ok c, heap') ∧ c.Connected ∧
        heap'.Owns base (c.kept ++ held)) ∨
      (¬answers.Opens url dbName lazy ∧ ∃ err left heap',
        (openDatabase answers url dbName lazy).run heap = (.error err, heap') ∧
        heap'.Owns base (left ++ held) ∧
        (left = [] ∧ ¬answers.ReachesStreams url dbName lazy ∨
          left.length = 1 ∧ answers.ReachesStreams url dbName lazy)) := by
  unfold openDatabase
  by_cases hname : dbName = ""
  · refine Or.inr ⟨fun h => h.1.1 hname, .inval, [], heap, ?_, hheap,
      Or.inl ⟨rfl, fun h => h.1 hname⟩⟩
    rw [if_pos hname]
    rfl
  rw [if_neg hname]
  rcases run_connect lazy hheap (hnull hname) with
    ⟨hconnects, client, heap₁, hrun₁, howns₁⟩ | ⟨hnot, err, heap₁, hrun₁, howns₁⟩
  swap
  · refine Or.inr ⟨fun h => hnot h.1.2.1, err, [], heap₁, ?_, howns₁,
      Or.inl ⟨rfl, fun h => hnot h.2.1⟩⟩
    rw [run_bind, hrun₁]
  rw [run_bind_of_ok hrun₁, run_bind_of_ok (run_value_some client heap₁)]
  rcases run_getCollection subscribersCollection howns₁ (List.Perm.refl ([client] ++ held)) with
    ⟨hsubscribers, scollection, heap₂, hrun₂, howns₂⟩ | ⟨hnot, err, heap₂, hrun₂, howns₂⟩
  swap
  · refine Or.inr ⟨fun h => hnot h.1.2.2.1, err, [], heap₂, ?_, howns₂,
      Or.inl ⟨rfl, fun h => hnot h.2.2.1⟩⟩
    rw [run_bind_of_error hrun₂]
  rw [run_bind_of_ok hrun₂]
  rcases run_getCollection serversCollection howns₂
      (List.Perm.refl ([scollection, client] ++ held)) with
    ⟨hservers, sercollection, heap₃, hrun₃, howns₃⟩ | ⟨hnot, err, heap₃, hrun₃, howns₃⟩
  swap
  · refine Or.inr ⟨fun h => hnot h.1.2.2.2.1, err, [], heap₃, ?_, howns₃,
      Or.inl ⟨rfl, fun h => hnot h.2.2.2.1⟩⟩
    rw [run_bind_of_error hrun₃]
  rw [run_bind_of_ok hrun₃]
  rcases run_getCollection streamsCollection howns₃
      (List.Perm.refl ([sercollection, scollection, client] ++ held)) with
    ⟨hstreams, stcollection, heap₄, hrun₄, howns₄⟩ | ⟨hnot, err, heap₄, hrun₄, howns₄⟩
  swap
  · refine Or.inr ⟨fun h => hnot h.1.2.2.2.2, err, [], heap₄, ?_, howns₄,
      Or.inl ⟨rfl, fun h => hnot h.2.2.2.2⟩⟩
    rw [run_bind_of_error hrun₄]
  rw [run_bind_of_ok hrun₄]
  have hreaches : answers.ReachesStreams url dbName lazy :=
    ⟨hname, hconnects, hsubscribers, hservers, hstreams⟩
  -- From here on the collection of the streams is not among what is destroyed.
  have hleft : List.Perm (stcollection :: ([sercollection, scollection, client] ++ held))
      ([sercollection, scollection, client] ++ (stcollection :: held)) := List.perm_middle.symm
  rcases run_getCollection seriesCollection howns₄ hleft with
    ⟨hseries, series, heap₅, hrun₅, howns₅⟩ | ⟨hnot, err, heap₅, hrun₅, howns₅⟩
  swap
  · refine Or.inr ⟨fun h => hnot h.2.1, err, [stcollection], heap₅, ?_, howns₅,
      Or.inr ⟨rfl, hreaches⟩⟩
    rw [run_bind_of_error hrun₅]
  rw [run_bind_of_ok hrun₅]
  have hleft' : List.Perm
      (series :: stcollection :: ([sercollection, scollection, client] ++ held))
      ([sercollection, scollection, series, client] ++ (stcollection :: held)) := by
    refine (hleft.cons series).trans ?_
    show List.Perm (series :: ([sercollection, scollection] ++ (client :: stcollection :: held)))
      ([sercollection, scollection] ++ (series :: client :: stcollection :: held))
    exact List.perm_middle.symm
  rcases run_getCollection requestsCollection howns₅ hleft' with
    ⟨hrequests, requests, heap₆, hrun₆, howns₆⟩ | ⟨hnot, err, heap₆, hrun₆, howns₆⟩
  swap
  · refine Or.inr ⟨fun h => hnot h.2.2, err, [stcollection], heap₆, ?_, howns₆,
      Or.inr ⟨rfl, hreaches⟩⟩
    rw [run_bind_of_error hrun₆]
  rw [run_bind_of_ok hrun₆]
  exact Or.inl ⟨⟨hreaches, hseries, hrequests⟩, _, heap₆, rfl,
    ⟨client, scollection, sercollection, stcollection, series, requests, rfl⟩, howns₆⟩

theorem run_connect_null (lazy : Bool) (hnull : answers.NullClient url)
    (hheap : heap.Owns base held) :
    ∃ heap', (MongoEngine.connect answers url lazy).run heap =
      (if lazy then .ok none else .abort, heap') := by
  obtain ⟨hurl, huri, hclient⟩ := hnull
  obtain ⟨uri, heap₁, hrun₁, howns₁⟩ := Heap.run_create Error hheap
  obtain ⟨heap₂, hrun₂, -⟩ := Heap.run_destroy Error howns₁
  refine ⟨heap₂, ?_⟩
  unfold MongoEngine.connect
  rw [if_neg hurl, huri, hclient, run_bind_of_ok hrun₁]
  dsimp only
  rw [run_bind_of_ok Heap.run_create_false, run_bind_of_ok hrun₂]
  cases lazy <;> rfl

/-- A null client is the end of the process. -/
theorem run_openDatabase_null (lazy : Bool) (hname : dbName ≠ "") (hnull : answers.NullClient url)
    (hheap : heap.Owns base held) :
    ((openDatabase answers url dbName lazy).run heap).1 = .abort := by
  obtain ⟨heap', hrun⟩ := run_connect_null lazy hnull hheap
  unfold openDatabase
  rw [if_neg hname, run_bind, hrun]
  cases lazy <;> rfl

/-! ### The manager -/

/-- The manager keeps no handle. -/
def DatabaseHandles.Closed (c : DatabaseHandles) : Prop := c = ⟨none, none, none, none, none, none⟩

/-- What is there is what the manager keeps, which is all or nothing, and what was left behind. -/
structure Accounted (left : ℕ) (c : DatabaseConnection) : Prop where
  whole : c.Connected ∨ c.Closed
  owns : ∃ base : Finset ℕ, base.card = left ∧ c.heap.Owns base c.kept

/-- How many handles an event leaves behind: the one of the streams when they are the last
collection that is found, and all that the manager kept when it connects anew. -/
def ConnectionEvent.leaves (c : DatabaseHandles) : ConnectionEvent → ℕ
  | .connect answers url dbName lazy =>
    if answers.Opens url dbName lazy then c.kept.length
    else if answers.ReachesStreams url dbName lazy then 1 else 0
  | .disconnect => 0

/-- The driver is handed a null pointer for the client. -/
def ConnectionEvent.Null : ConnectionEvent → Prop
  | .connect answers url dbName _ => dbName ≠ "" ∧ answers.NullClient url
  | .disconnect => False

variable {c c' : DatabaseConnection} {left : ℕ}

theorem run_driver {α : Type} (x : Action Heap Error α) : (driver x).run c =
    ((x.run c.heap).1, { c with heap := (x.run c.heap).2 }) := rfl

/-- An attempt to connect. -/
theorem accounted_connect (lazy : Bool) (hc : Accounted left c)
    (hnull : dbName ≠ "" → ¬answers.NullClient url) :
    ((connectToDatabase answers url dbName lazy).run c).1.Returns ∧
      Accounted (left + (ConnectionEvent.connect answers url dbName lazy).leaves c.toDatabaseHandles)
        ((connectToDatabase answers url dbName lazy).run c).2 := by
  obtain ⟨base, hcard, howns⟩ := hc.owns
  unfold connectToDatabase ConnectionEvent.leaves
  dsimp only
  rcases run_openDatabase lazy howns hnull with
    ⟨hopens, handles, heap', hrun, hconnected, howns'⟩ |
      ⟨hnot, err, lost, heap', hrun, howns', hlost⟩
  · have hdriver : (driver (openDatabase answers url dbName lazy)).run c =
        (.ok handles, { c with heap := heap' }) := by rw [run_driver, hrun]
    rw [run_bind_of_ok hdriver, if_pos hopens]
    refine ⟨trivial, Or.inl hconnected, base ∪ c.kept.toFinset, ?_, howns'.leave⟩
    rw [howns'.card_leave, hcard]
  · have hdriver : (driver (openDatabase answers url dbName lazy)).run c =
        (.error err, { c with heap := heap' }) := by rw [run_driver, hrun]
    have hleft := howns'.perm List.perm_append_comm
    rw [run_bind_of_error hdriver, if_neg hnot]
    refine ⟨trivial, hc.whole, base ∪ lost.toFinset, ?_, hleft.leave⟩
    rw [hleft.card_leave, hcard]
    rcases hlost with ⟨rfl, hreaches⟩ | ⟨hone, hreaches⟩
    · rw [if_neg hreaches, List.length_nil]
    · rw [if_pos hreaches, hone]

theorem run_destroyKept (handle : DatabaseHandles → Option ℕ)
    (forget : DatabaseHandles → DatabaseHandles) (handles : DatabaseHandles) {n : ℕ}
    {rest : List ℕ} (h : handle handles = some n) (howns : heap.Owns base (n :: rest)) :
    ∃ heap', (destroyKept handle forget).run ⟨handles, heap⟩ = (.ok (), ⟨forget handles, heap'⟩) ∧
      heap'.Owns base rest := by
  obtain ⟨heap', hrun, howns'⟩ := Heap.run_destroy Error howns
  refine ⟨heap', ?_, howns'⟩
  have hdriver : (driver (Heap.destroy n)).run ⟨handles, heap⟩ = (.ok (), ⟨handles, heap'⟩) := by
    rw [run_driver, hrun]
  unfold destroyKept
  rw [run_bind_of_ok (by rw [run_reads, h])]
  dsimp only
  rw [run_bind_of_ok hdriver]
  rfl

/-- Everything that is kept is destroyed, each handle once. -/
theorem accounted_disconnect (hc : Accounted left c) :
    (disconnect.run c).1 = .ok () ∧ (disconnect.run c).2.Closed ∧
      Accounted left (disconnect.run c).2 := by
  obtain ⟨base, hcard, howns⟩ := hc.owns
  obtain ⟨handles, heap⟩ := c
  unfold disconnect
  rcases hc.whole with ⟨client, subscribers, servers, streams, series, requests, hall⟩ | hnone
  · obtain rfl : handles = _ := hall
    have hkept : heap.Owns base [servers, streams, subscribers, series, requests, client] := by
      have hkept : heap.Owns base [requests, series, streams, servers, subscribers, client] := howns
      refine hkept.perm (List.perm_iff_count.mpr fun h => ?_)
      simp only [List.count_cons, List.count_nil]
      omega
    obtain ⟨heap₁, hrun₁, howns₁⟩ := run_destroyKept DatabaseHandles.servers
      (fun c => { c with servers := none })
      ⟨some client, some subscribers, some servers, some streams, some series, some requests⟩ rfl
        hkept
    obtain ⟨heap₂, hrun₂, howns₂⟩ := run_destroyKept DatabaseHandles.streams
      (fun c => { c with streams := none })
      ⟨some client, some subscribers, none, some streams, some series, some requests⟩ rfl howns₁
    obtain ⟨heap₃, hrun₃, howns₃⟩ := run_destroyKept DatabaseHandles.subscribers
      (fun c => { c with subscribers := none })
      ⟨some client, some subscribers, none, none, some series, some requests⟩ rfl howns₂
    obtain ⟨heap₄, hrun₄, howns₄⟩ := run_destroyKept DatabaseHandles.series
      (fun c => { c with series := none })
      ⟨some client, none, none, none, some series, some requests⟩ rfl howns₃
    obtain ⟨heap₅, hrun₅, howns₅⟩ := run_destroyKept DatabaseHandles.requests
      (fun c => { c with requests := none })
      ⟨some client, none, none, none, none, some requests⟩ rfl howns₄
    obtain ⟨heap₆, hrun₆, howns₆⟩ := run_destroyKept DatabaseHandles.client
      (fun c => { c with client := none })
      ⟨some client, none, none, none, none, none⟩ rfl howns₅
    rw [run_bind_of_ok hrun₁, run_bind_of_ok hrun₂, run_bind_of_ok hrun₃, run_bind_of_ok hrun₄,
      run_bind_of_ok hrun₅, hrun₆]
    exact ⟨rfl, rfl, Or.inr rfl, base, hcard, howns₆⟩
  · obtain rfl : handles = _ := hnone
    exact ⟨rfl, rfl, Or.inr rfl, base, hcard, howns⟩

/-! ### Runs -/

theorem connectionStep_eq_some_iff {e : ConnectionEvent} :
    connectionStep (some c) e = some c' ↔
      ((e.action).run c).1.Returns ∧ c' = ((e.action).run c).2 := by
  unfold connectionStep
  rw [Option.bind_eq_bind, Option.bind_some]
  refine next_eq_some_iff (fun a s h => ?_) (fun err s h => ?_) fun s h => ?_
  · rw [h]
  · rw [h]
  · rw [h]

/-- An event is the end of the process exactly when the driver is handed a null pointer. -/
theorem accounted_step {e : ConnectionEvent} (hc : Accounted left c) :
    (e.Null ∧ connectionStep (some c) e = none) ∨
      (¬e.Null ∧ ∃ c', connectionStep (some c) e = some c' ∧
        Accounted (left + e.leaves c.toDatabaseHandles) c' ∧ (e = .disconnect → c'.Closed)) := by
  cases e with
  | connect answers url dbName lazy =>
    by_cases hnull : dbName ≠ "" ∧ answers.NullClient url
    · refine Or.inl ⟨hnull, ?_⟩
      obtain ⟨base, -, howns⟩ := hc.owns
      have hopen := run_openDatabase_null lazy hnull.1 hnull.2 howns
      have habort : ((connectToDatabase answers url dbName lazy).run c).1 = .abort := by
        unfold connectToDatabase
        rw [run_bind, run_driver, hopen]
      refine Option.eq_none_iff_forall_ne_some.mpr fun c' hc' => ?_
      exact Outcome.returns_iff.mp (connectionStep_eq_some_iff.mp hc').1 habort
    · obtain ⟨hreturns, hafter⟩ := accounted_connect lazy hc
        fun hname hclient => hnull ⟨hname, hclient⟩
      refine Or.inr ⟨hnull, _, connectionStep_eq_some_iff.mpr ⟨hreturns, rfl⟩, hafter, ?_⟩
      intro h
      cases h
  | disconnect =>
    obtain ⟨hok, hclosed, hafter⟩ := accounted_disconnect hc
    refine Or.inr ⟨id, _, connectionStep_eq_some_iff.mpr ⟨?_, rfl⟩, hafter, fun _ => hclosed⟩
    show (disconnect.run c).1.Returns
    rw [hok]
    trivial

/-- How many handles a run leaves behind. -/
def leavesAlong : Option DatabaseConnection → List ConnectionEvent → ℕ
  | _, [] => 0
  | none, _ => 0
  | some c, e :: es => e.leaves c.toDatabaseHandles + leavesAlong (connectionStep (some c) e) es

theorem accounted_run (es : List ConnectionEvent) (hc : Accounted left c) :
    ((∃ e ∈ es, e.Null) ∧ run connectionStep (some c) es = none) ∨
      ((∀ e ∈ es, ¬e.Null) ∧ ∃ c', run connectionStep (some c) es = some c' ∧
        Accounted (left + leavesAlong (some c) es) c' ∧
        (es.getLast? = some .disconnect → c'.Closed)) := by
  induction es generalizing left c with
  | nil => exact Or.inr ⟨by simp, c, rfl, hc, by simp⟩
  | cons e es ih =>
    rcases accounted_step hc with ⟨hnull, hgone⟩ | ⟨hnot, c₁, hstep, hc₁, hclosed⟩
    · refine Or.inl ⟨⟨e, List.mem_cons_self, hnull⟩, ?_⟩
      rw [run_cons, hgone, run_gone fun _ => rfl]
    · rw [run_cons, hstep, leavesAlong, hstep, ← Nat.add_assoc]
      rcases ih hc₁ with ⟨⟨e', he', hnull⟩, hgone⟩ | ⟨hnone, c', hrun, hc', hlast⟩
      · exact Or.inl ⟨⟨e', List.mem_cons_of_mem _ he', hnull⟩, hgone⟩
      · refine Or.inr ⟨List.forall_mem_cons.mpr ⟨hnot, hnone⟩, c', hrun, hc', ?_⟩
        cases es with
        | nil =>
          intro he
          obtain rfl : c₁ = c' := Option.some.inj hrun
          exact hclosed (Option.some.inj he)
        | cons e' es => exact hlast

/-- A run of connecting and disconnecting ends with the process exactly when the driver is handed a
null pointer.  Otherwise the manager keeps all its handles or none, and none right after it was
disconnected; each of them is there, once; and what is there besides is what the run left behind. -/
theorem handles_accounted (es : List ConnectionEvent) :
    ((∃ e ∈ es, e.Null) ∧ run connectionStep (some .initial) es = none) ∨
      ((∀ e ∈ es, ¬e.Null) ∧ ∃ c, run connectionStep (some .initial) es = some c ∧
        (c.Connected ∨ c.Closed) ∧ (es.getLast? = some .disconnect → c.Closed) ∧
        c.kept.Nodup ∧ (∀ h ∈ c.kept, h ∈ c.heap.live) ∧
        c.heap.live.card = c.kept.length + leavesAlong (some .initial) es) := by
  have hinitial : Accounted 0 DatabaseConnection.initial :=
    ⟨Or.inr rfl, ∅, rfl, Heap.Owns.of_empty⟩
  rcases accounted_run es hinitial with hgone | ⟨hnone, c, hrun, hc, hlast⟩
  · exact Or.inl hgone
  · obtain ⟨base, hcard, howns⟩ := hc.owns
    refine Or.inr ⟨hnone, c, hrun, hc.whole, hlast, howns.nodup, fun h => howns.mem, ?_⟩
    rw [howns.card, hcard, Nat.zero_add, Nat.add_comm]

end

end LoadBalance
