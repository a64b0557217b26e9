import LoadBalance.Mongo.Equiv.Catchup

/-!
# Which catchup a request is given

`createCatchup` looks the channel up and leaves the rest to `createOrFindCatchup`.  A request that
succeeds is given a catchup: the first part of the channel that is the broadcast, or the one that
was created for it (`HandsOut`, `handsOut_iff`).  The subscribers are not written to.
-/

namespace LoadBalance

open LoadBalance.Action

section

variable [Fastotv] {env : Env} {endpoint : CatchupEndpointInfo} {auth : ServerDBAuthInfo}
  {db db' : Database} {title : String} {start stop : Timestamp}

/-! ### Finding a part -/

/-- A part that is found is a stream of this broadcast that decodes as a catchup. -/
theorem findPart_eq_some {parts : List StreamId} {orig : CatchupInfo}
    (h : findPart env db title start stop parts = .ok (some orig)) :
    ∃ chan ∈ parts, ∃ x sdoc scan, convertFromString env.beyond chan = some x ∧
      db.streams.findId? x = some sdoc ∧ sameBroadcast sdoc.toDoc title start stop = true ∧
      catchupDecoder.accepted env.uninit sdoc.toDoc .catchup = .ok scan ∧
      orig = catchupDecoder.info scan {} ∧ orig.streamId = x.text := by
  induction parts with
  | nil => cases h
  | cons chan parts ih =>
    have hlater : findPart env db title start stop parts = .ok (some orig) →
        ∃ chan' ∈ chan :: parts, _ := fun h =>
      let ⟨chan', hmem, hfound⟩ := ih h
      ⟨chan', List.mem_cons_of_mem _ hmem, hfound⟩
    unfold findPart at h
    cases hsdoc : (convertFromString env.beyond chan).bind db.streams.findId? with
    | none =>
      rw [hsdoc] at h
      exact hlater h
    | some sdoc =>
      rw [hsdoc] at h
      dsimp only at h
      split_ifs at h with hsame
      · rcases hdec : makeCatchupInfo env.uninit sdoc.toDoc .catchup {} with ⟨info, visible⟩ | _ | _
        · -- This part is the catchup.
          rw [hdec] at h
          obtain rfl := Option.some.inj (Outcome.ok.inj h)
          obtain ⟨x, hx, hfound⟩ := Option.bind_eq_some_iff.mp hsdoc
          rw [← decode_catchupDecoder] at hdec
          obtain ⟨scan, hscan, hinfo, -⟩ := StreamDecoder.decode_eq_ok.mp hdec
          obtain ⟨o, hid, hsid⟩ := StreamDecoder.streamId_of_accepted (u := {}) hscan
          rw [Collection.id_of_findId? hfound, Bson.oid.injEq] at hid
          subst hid
          rw [hinfo] at hsid
          exact ⟨chan, List.mem_cons_self, x, sdoc, scan, hx, hfound, hsame, hscan, hinfo.symm,
            hsid⟩
        · rw [hdec] at h
          exact hlater h
        · rw [hdec] at h
          cases h
      · exact hlater h

/-! ### The call -/

/-- A creation does not write to the subscribers, nor to the series and the requests. -/
theorem CatchupRun.subscribers {basedOn : ChannelInfo} {o : Outcome Error CreatedCatchup}
    (h : CatchupRun env endpoint basedOn title start stop db o db') :
    db'.subscribers = db.subscribers := by
  cases h <;> rfl

theorem createOrFindCatchup_found {basedOn : ChannelInfo} {orig : CatchupInfo}
    (hpart : findPart env db title start stop basedOn.parts = .ok (some orig)) :
    (createOrFindCatchup env endpoint basedOn title start stop).run db =
      (.ok ⟨"", orig, false⟩, db) := by
  unfold createOrFindCatchup
  rw [run_bind, run_reads, hpart]
  rfl

/-- A call that knows the channel, the outputs and the server, and whose writes go through,
creates the catchup. -/
theorem createOrFindCatchup_created {basedOn : ChannelInfo} {bsid serverOid : Oid}
    {outputUrls : List OutputUri} {c c' : Collection}
    (hlinked : CatchupLinked env endpoint basedOn title start stop db bsid serverOid outputUrls c c')
    (hwrite : env.write .attachServer = true) :
    ((createOrFindCatchup env endpoint basedOn title start stop).run db).1 =
      .ok ⟨serverOid.text, catchupCopy basedOn env.fresh.text title
        (makeUrlsFromOutput (catchupUrls env endpoint outputUrls)) start stop, true⟩ := by
  have hways := catchupRun env endpoint basedOn title start stop db
  generalize ((createOrFindCatchup env endpoint basedOn title start stop).run db).1 = o at hways ⊢
  generalize ((createOrFindCatchup env endpoint basedOn title start stop).run db).2 = db' at hways
  cases hways with
  | found hpart => exact absurd (hpart.symm.trans hlinked.part) (by simp)
  | refused _ hno => exact absurd hlinked.toCatchupInserted (hno _ _ _ _)
  | unlinked hinserted hfail =>
    obtain ⟨rfl, rfl, rfl, rfl⟩ := hinserted.unique hlinked.toCatchupInserted
    rcases hfail with hfail | hnone
    · exact absurd (hfail.symm.trans hlinked.linkWrite) (by simp)
    · exact absurd (hnone.symm.trans hlinked.link) (by simp)
  | unattached _ hfail => exact absurd (hfail.symm.trans hwrite) (by simp)
  | created hlinked' =>
    obtain ⟨rfl, rfl, rfl, rfl⟩ := hlinked'.toCatchupInserted.unique hlinked.toCatchupInserted
    rfl

/-- The call stops before it writes, or it finds the channel and goes on with it. -/
theorem createCatchup_cases (env : Env) (endpoint : CatchupEndpointInfo) (auth : ServerDBAuthInfo)
    (sid : StreamId) (title : String) (start stop : Timestamp) (db : Database) :
    (((createCatchup env endpoint auth sid title start stop).run db).2 = db ∧
      (∀ c, ((createCatchup env endpoint auth sid title start stop).run db).1 ≠ .ok c) ∧
      ∀ ch, findStream env db auth sid ≠ .ok ch) ∨
    ∃ ch, findStream env db auth sid = .ok ch ∧
      (createCatchup env endpoint auth sid title start stop).run db =
        (createOrFindCatchup env endpoint ch title start stop).run db := by
  unfold createCatchup
  split_ifs with hrefused
  · refine Or.inl ⟨rfl, by simp, fun ch h => ?_⟩
    unfold findStream findInfo findUserStream at h
    rw [if_pos hrefused] at h
    cases h
  · rw [run_bind, run_reads]
    cases hch : findStream env db auth sid with
    | ok ch => exact Or.inr ⟨ch, rfl, rfl⟩
    | error err => exact Or.inl ⟨rfl, by simp, by simp⟩
    | abort => exact Or.inl ⟨rfl, by simp, by simp⟩

theorem subscribers_createCatchup (sid : StreamId) :
    ((createCatchup env endpoint auth sid title start stop).run db).2.subscribers =
      db.subscribers := by
  rcases createCatchup_cases env endpoint auth sid title start stop db with
    ⟨hdb, -⟩ | ⟨ch, -, hrun⟩
  · rw [hdb]
  · rw [hrun]
    exact (catchupRun env endpoint ch title start stop db).subscribers

/-- The request is given the catchup with this id: one that its channel has already, or a new
one. -/
inductive HandsOut (env : Env) (endpoint : CatchupEndpointInfo) (db : Database)
    (auth : ServerDBAuthInfo) (catGen : CatchupGenerateInfo) : Oid → Prop where
  | cached {ch : ChannelInfo} {orig : CatchupInfo} {x : Oid}
      (hch : findStream env db auth catGen.streamId = .ok ch)
      (hpart : findPart env db catGen.title catGen.start catGen.stop ch.parts = .ok (some orig))
      (hx : orig.streamId = x.text) : HandsOut env endpoint db auth catGen x
  | new {ch : ChannelInfo} {bsid serverOid : Oid} {outputUrls : List OutputUri} {c c' : Collection}
      (hch : findStream env db auth catGen.streamId = .ok ch)
      (hlinked : CatchupLinked env endpoint ch catGen.title catGen.start catGen.stop db bsid
        serverOid outputUrls c c')
      (hwrite : env.write .attachServer = true) : HandsOut env endpoint db auth catGen env.fresh

/-- These are the catchups that the call succeeds with. -/
theorem handsOut_iff {catGen : CatchupGenerateInfo} {x : Oid} :
    HandsOut env endpoint db auth catGen x ↔
      ∃ created, ((createCatchup env endpoint auth catGen.streamId catGen.title catGen.start
        catGen.stop).run db).1 = .ok created ∧ created.cat.streamId = x.text := by
  rcases createCatchup_cases env endpoint auth catGen.streamId catGen.title catGen.start
    catGen.stop db with ⟨-, hno, hnone⟩ | ⟨ch, hch, hrun⟩
  · constructor
    · rintro (⟨hch, -, -⟩ | ⟨hch, -, -⟩)
      · exact absurd hch (hnone _)
      · exact absurd hch (hnone _)
    · rintro ⟨created, h, -⟩
      exact absurd h (hno created)
  · rw [hrun]
    constructor
    · rintro (⟨hch', hpart, hx⟩ | ⟨hch', hlinked, hwrite⟩)
      · obtain rfl := Outcome.ok.inj (hch.symm.trans hch')
        rw [createOrFindCatchup_found hpart]
        exact ⟨_, rfl, hx⟩
      · obtain rfl := Outcome.ok.inj (hch.symm.trans hch')
        exact ⟨_, createOrFindCatchup_created hlinked hwrite, rfl⟩
    · have hways := catchupRun env endpoint ch catGen.title catGen.start catGen.stop db
      rintro ⟨created, hok, hx⟩
      rw [hok] at hways
      generalize ((createOrFindCatchup env endpoint ch catGen.title catGen.start
        catGen.stop).run db).2 = db' at hways
      cases hways with
      | found hpart => exact .cached hch hpart hx
      | refused hno => exact absurd rfl (hno created)
      | created hlinked hwrite =>
        obtain rfl := Oid.text_injective hx
        exact .new hch hlinked hwrite

/-- A call that succeeds hands out a catchup. -/
theorem handsOut_of_ok {catGen : CatchupGenerateInfo} {created : CreatedCatchup}
    (h : ((createCatchup env endpoint auth catGen.streamId catGen.title catGen.start
      catGen.stop).run db).1 = .ok created) :
    ∃ x, created.cat.streamId = x.text ∧ HandsOut env endpoint db auth catGen x := by
  have hid : ∃ x : Oid, created.cat.streamId = x.text := by
    rcases createCatchup_cases env endpoint auth catGen.streamId catGen.title catGen.start
      catGen.stop db with ⟨-, hno, -⟩ | ⟨ch, -, hrun⟩
    · exact absurd h (hno created)
    · have hways := catchupRun env endpoint ch catGen.title catGen.start catGen.stop db
      rw [← hrun, h] at hways
      generalize ((createCatchup env endpoint auth catGen.streamId catGen.title catGen.start
        catGen.stop).run db).2 = db' at hways
      cases hways with
      | found hpart =>
        obtain ⟨-, -, x, -, -, -, -, -, -, -, hx⟩ := findPart_eq_some hpart
        exact ⟨x, hx⟩
      | refused hno => exact absurd rfl (hno created)
      | created => exact ⟨env.fresh, rfl⟩
  obtain ⟨x, hx⟩ := hid
  exact ⟨x, hx, handsOut_iff.mpr ⟨created, h, hx⟩⟩

/-- Only a valid login is handed anything. -/
theorem HandsOut.isValid {catGen : CatchupGenerateInfo} {x : Oid}
    (h : HandsOut env endpoint db auth catGen x) : auth.isValid = true := by
  by_contra hvalid
  have hfind : findStream env db auth catGen.streamId = .error .inval := by
    unfold findStream findInfo findUserStream
    rw [if_pos (by simp [hvalid])]
    rfl
  cases h with
  | cached hch => exact absurd (hfind.symm.trans hch) (by simp)
  | new hch => exact absurd (hfind.symm.trans hch) (by simp)

end

end LoadBalance
