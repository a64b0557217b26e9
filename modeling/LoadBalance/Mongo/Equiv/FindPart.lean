import LoadBalance.Mongo.Equiv.Parts

/-!
# The first part that is a broadcast

`findPart` takes the first part that has the title, the start and the stop and decodes as a catchup
(`FirstPart`).  Whether a document decodes is not a matter of the locals that the decoder starts
with, nor of the number of its views, nor of its own parts (`AlikeDoc`).  So the part that is found
stays the same when views are counted and parts are pushed (`FirstPart.congr`, `FirstPart.insert`).
-/

namespace LoadBalance

/-! ### Branches that decide alike -/

section

variable [Fastotv]

open LoadBalance.Field StreamField

theorem uniform_catchupFields : ∀ fd ∈ catchupFields, fd.Uniform := by
  have houtput : epgOutput.Uniform := by
    intro s t v
    simp only [epgOutput]
    cases getOutputUrlData v <;> rfl
  have hparts : StreamField.parts.Uniform := uniform_onArray fun s t a =>
    Outcome.void_bind_congr rfl fun _ _ _ _ => rfl
  simp only [catchupFields, List.forall_mem_cons]
  exact ⟨uniform_onOid, uniform_onArray fun _ _ _ => rfl, uniform_onInt32, uniform_onInt32,
    uniform_onUtf8, uniform_onUtf8, uniform_onBool, hparts, uniform_onArray fun _ _ _ => rfl,
    uniform_onBool, uniform_onDateTime, uniform_onDateTime, uniform_onUtf8, houtput,
    uniform_onBool, by simp⟩

theorem nodup_keys_catchupFields : (catchupFields.map Field.key).Nodup := by
  have hkeys : catchupFields.map Field.key = [streamIdField, streamGroupsField, streamIarcField,
      streamViewCountField, channelTvgIdField, streamNameField, streamHaveAudioField,
      streamPartsField, streamMetaUrlsField, streamHaveVideoField, catchupStartField,
      catchupStopField, channelTvgLogoField, streamOutputField, streamVisibleField] := rfl
  rw [hkeys]
  decide

/-- A document is accepted as a catchup, or refused in one of the two ways. -/
def catchupVerdict (uninit : Uninit) (sdoc : Doc) : Outcome Unit Unit :=
  (catchupDecoder.accepted uninit sdoc .catchup).void

theorem catchupVerdict_congr {uninit uninit' : Uninit} {d d' : Doc}
    (hd : List.Forall₂ (TakenAlike catchupFields) d d') :
    catchupVerdict uninit d = catchupVerdict uninit' d' := by
  unfold catchupVerdict StreamDecoder.accepted scanDoc
  refine void_foldlM_congr hd fun t t' n => ?_
  dsimp only
  split_ifs <;> rfl

/-- What the locals are at the start does not matter. -/
theorem catchupVerdict_uninit (uninit uninit' : Uninit) (d : Doc) :
    catchupVerdict uninit d = catchupVerdict uninit' d :=
  catchupVerdict_congr (List.forall₂_same.mpr fun f _ => takenAlike_refl uniform_catchupFields f)

/-! ### Changes that decide nothing -/

/-- Two documents that are the same to a search among the parts. -/
structure AlikeDoc (d d' : StoredDoc) : Prop where
  broadcast : ∀ title start stop,
    sameBroadcast d'.toDoc title start stop = sameBroadcast d.toDoc title start stop
  verdict : ∀ uninit, catchupVerdict uninit d'.toDoc = catchupVerdict uninit d.toDoc

theorem AlikeDoc.refl (d : StoredDoc) : AlikeDoc d d := ⟨fun _ _ _ => rfl, fun _ => rfl⟩

omit [Fastotv] in
theorem sameBroadcast_set {d d' : StoredDoc} {k : String} {v : Bson}
    (hfields : d'.fields = d.fields.set k v) (hk : k ∉ [streamNameField, catchupStartField,
      catchupStopField]) (title : String) (start stop : Timestamp) :
    sameBroadcast d'.toDoc title start stop = sameBroadcast d.toDoc title start stop := by
  simp only [List.mem_cons, List.not_mem_nil, or_false, not_or] at hk
  obtain ⟨hname, hstart, hstop⟩ := hk
  have hget : ∀ {k'}, k' ≠ idField → k' ≠ k → d'.toDoc.get? k' = d.toDoc.get? k' := by
    intro k' hid hne
    rw [StoredDoc.get?_toDoc hid, StoredDoc.get?_toDoc hid, hfields, Doc.get?_set_ne _ _ hne]
  unfold sameBroadcast
  rw [hget (by decide) (Ne.symm hname), hget (by decide) (Ne.symm hstart),
    hget (by decide) (Ne.symm hstop)]

/-- A view that is counted. -/
theorem AlikeDoc.of_views {d d' : StoredDoc} {i j : Int32} (hid : d'.id = d.id)
    (hget : d.fields.get? streamViewCountField = some (.int32 i))
    (hfields : d'.fields = d.fields.set streamViewCountField (.int32 j)) : AlikeDoc d d' := by
  refine ⟨sameBroadcast_set hfields (by decide), fun uninit => ?_⟩
  refine (catchupVerdict_congr ?_).symm
  unfold StoredDoc.toDoc
  rw [hfields, hid]
  refine .cons (takenAlike_refl uniform_catchupFields _)
    (Doc.forall₂_set (takenAlike_refl uniform_catchupFields) hget ⟨rfl, fun fd hfd hkey s t => ?_⟩)
  obtain rfl := List.inj_on_of_nodup_map nodup_keys_catchupFields hfd
    (show StreamField.viewCount ∈ catchupFields by simp [catchupFields]) hkey
  rfl

/-- A part that is pushed. -/
theorem AlikeDoc.of_push {d d' : StoredDoc} {x : Oid} {v : Bson} (hid : d'.id = d.id)
    (hpush : pushOp (.oid x) (d.fields.get? streamPartsField) = some v)
    (hfields : d'.fields = d.fields.set streamPartsField v) : AlikeDoc d d' := by
  refine ⟨sameBroadcast_set hfields (by decide), fun uninit => ?_⟩
  have hmem : StreamField.parts ∈ catchupFields := by simp [catchupFields]
  cases hget : d.fields.get? streamPartsField with
  | none =>
    rw [hget] at hpush
    obtain rfl := Option.some.inj hpush
    unfold catchupVerdict StreamDecoder.accepted scanDoc StoredDoc.toDoc
    rw [hfields, hid, Doc.set_of_get?_none hget, ← List.cons_append]
    refine void_foldlM_append StreamField.parts rfl rfl (fun t => ⟨_, rfl⟩) fun t t' n => ?_
    dsimp only
    split_ifs <;> rfl
  | some w =>
    rw [hget] at hpush
    cases w with
    | array a =>
      obtain rfl := Option.some.inj hpush
      refine (catchupVerdict_congr ?_).symm
      unfold StoredDoc.toDoc
      rw [hfields, hid]
      refine .cons (takenAlike_refl uniform_catchupFields _)
        (Doc.forall₂_set (takenAlike_refl uniform_catchupFields) hget
          ⟨rfl, fun fd hfd hkey s t => ?_⟩)
      obtain rfl := List.inj_on_of_nodup_map nodup_keys_catchupFields hfd hmem hkey
      -- The new element is an object id.
      show ((oidTexts a) >>= _).void = ((oidTexts (a ++ [.oid x])) >>= _).void
      unfold oidTexts
      rw [List.mapM_append, bind_assoc]
      exact Outcome.void_bind_congr rfl fun _ _ _ _ => rfl
    | _ => cases hpush

/-! ### The parts of a changed document -/

omit [Fastotv] in
theorem partOids_set_ne {d : Doc} {k : String} {v : Bson} (hk : k ≠ streamPartsField) :
    partOids (d.set k v) = partOids d := by
  induction d with
  | nil =>
    show partOids [(k, v)] = _
    rw [partOids_cons, if_neg hk]
    rfl
  | cons f d ih =>
    obtain ⟨k', v'⟩ := f
    unfold Doc.set
    split_ifs with hk'
    · subst hk'
      rw [partOids_cons, partOids_cons, if_neg hk, if_neg hk]
    · rw [partOids_cons, partOids_cons, ih]

variable {db db' : Database} {title : String} {start stop : Timestamp} {x y : Oid} {as bs : List Oid}

/-- The part is the broadcast. -/
def Acceptable (db : Database) (title : String) (start stop : Timestamp) (x : Oid) : Prop :=
  ∃ d, db.streams.findId? x = some d ∧ sameBroadcast d.toDoc title start stop = true ∧
    ∀ uninit, catchupVerdict uninit d.toDoc = .ok ()

/-- The part is passed over. -/
def Rejected (db : Database) (title : String) (start stop : Timestamp) (x : Oid) : Prop :=
  ∀ d, db.streams.findId? x = some d → sameBroadcast d.toDoc title start stop = true →
    ∀ uninit, catchupVerdict uninit d.toDoc = .error ()

theorem Acceptable.not_rejected (hx : Acceptable db title start stop x) :
    ¬Rejected db title start stop x := by
  intro hrejected
  obtain ⟨d, hd, hsame, hok⟩ := hx
  have hno := (hok ⟨0, 0, 0, 0, 0⟩).symm.trans (hrejected d hd hsame _)
  cases hno

/-- The first part of a list that is not passed over is the broadcast. -/
inductive FirstPart (db : Database) (title : String) (start stop : Timestamp) :
    List Oid → Oid → Prop where
  | head {x : Oid} {xs : List Oid} (hx : Acceptable db title start stop x) :
      FirstPart db title start stop (x :: xs) x
  | tail {x y : Oid} {xs : List Oid} (hy : Rejected db title start stop y)
      (hx : FirstPart db title start stop xs x) : FirstPart db title start stop (y :: xs) x

theorem Acceptable.congr (hx : Acceptable db title start stop x)
    (h : Option.Rel AlikeDoc (db.streams.findId? x) (db'.streams.findId? x)) :
    Acceptable db' title start stop x := by
  obtain ⟨d, hd, hsame, hverdict⟩ := hx
  rw [hd] at h
  generalize hd' : db'.streams.findId? x = o at h
  cases h with
  | some halike =>
    exact ⟨_, hd', by rw [halike.broadcast, hsame], fun uninit => by rw [halike.verdict, hverdict]⟩

theorem Rejected.congr (hx : Rejected db title start stop x)
    (h : Option.Rel AlikeDoc (db.streams.findId? x) (db'.streams.findId? x)) :
    Rejected db' title start stop x := by
  intro d' hd' hsame uninit
  rw [hd'] at h
  generalize hd : db.streams.findId? x = o at h
  cases h with
  | some halike =>
    rw [halike.verdict]
    exact hx _ hd (by rw [← halike.broadcast, hsame]) uninit

/-- The part that is found stays the same while the documents are alike. -/
theorem FirstPart.congr (hx : FirstPart db title start stop as x)
    (h : ∀ y ∈ as, Option.Rel AlikeDoc (db.streams.findId? y) (db'.streams.findId? y)) :
    FirstPart db' title start stop as x := by
  induction hx with
  | head hx => exact .head (hx.congr (h _ List.mem_cons_self))
  | tail hy _ ih =>
    exact .tail (hy.congr (h _ List.mem_cons_self)) (ih fun z hz => h z (List.mem_cons_of_mem _ hz))

theorem FirstPart.unique (hx : FirstPart db title start stop as x)
    (hy : FirstPart db title start stop as y) : x = y := by
  induction hx with
  | head hx =>
    cases hy with
    | head => rfl
    | tail hrejected => exact absurd hrejected hx.not_rejected
  | tail hrejected _ ih =>
    cases hy with
    | head hy => exact absurd hrejected hy.not_rejected
    | tail _ hy => exact ih hy

/-- Nor does another part matter that comes behind, or is passed over. -/
theorem FirstPart.insert (hx : FirstPart db title start stop (as ++ bs) x)
    (hy : bs ≠ [] → Rejected db title start stop y) :
    FirstPart db title start stop (as ++ y :: bs) x := by
  induction as with
  | nil =>
    cases bs with
    | nil => cases hx
    | cons b bs => exact .tail (hy (List.cons_ne_nil _ _)) hx
  | cons a as ih =>
    cases hx with
    | head hx => exact .head hx
    | tail ha hx => exact .tail ha (ih hx)

variable {env : Env} {xs : List Oid}

/-- The verdict on one part of the search. -/
theorem verdict_of_makeCatchupInfo (env : Env) (u : UserStreamInfo) {d : StoredDoc}
    (uninit : Uninit) :
    catchupVerdict uninit d.toDoc = (makeCatchupInfo env.uninit d.toDoc .catchup u).void := by
  rw [catchupVerdict_uninit uninit env.uninit, ← decode_catchupDecoder, StreamDecoder.decode_eq]
  unfold catchupVerdict
  cases catchupDecoder.accepted env.uninit d.toDoc .catchup <;> rfl

/-- What the search does with its first part. -/
theorem findPart_cons_cases (env : Env) (db : Database) (title : String) (start stop : Timestamp)
    (x : Oid) (parts : List StreamId) :
    (Rejected db title start stop x ∧ findPart env db title start stop (x.text :: parts) =
      findPart env db title start stop parts) ∨
    (Acceptable db title start stop x ∧ ∃ orig, orig.streamId = x.text ∧
      findPart env db title start stop (x.text :: parts) = .ok (some orig)) ∨
    ((¬Rejected db title start stop x ∧ ¬Acceptable db title start stop x) ∧
      findPart env db title start stop (x.text :: parts) = .abort) := by
  rw [findPart, convertFromString_text, Option.bind_some]
  cases hd : db.streams.findId? x with
  | none => exact Or.inl ⟨fun d h => absurd (hd.symm.trans h) (by simp), rfl⟩
  | some d =>
    dsimp only
    have hdoc : ∀ d', db.streams.findId? x = some d' → d' = d :=
      fun d' h => Option.some.inj (h.symm.trans hd)
    split_ifs with hsame
    · have hverdict := verdict_of_makeCatchupInfo env {} (d := d)
      cases hdec : makeCatchupInfo env.uninit d.toDoc .catchup {} with
      | ok r =>
        obtain ⟨orig, visible⟩ := r
        rw [hdec] at hverdict
        refine Or.inr (Or.inl ⟨⟨d, hd, hsame, hverdict⟩, orig, ?_, rfl⟩)
        rw [← decode_catchupDecoder] at hdec
        obtain ⟨scan, hscan, hinfo, -⟩ := StreamDecoder.decode_eq_ok.mp hdec
        obtain ⟨o, hid, hsid⟩ := StreamDecoder.streamId_of_accepted (u := {}) hscan
        rw [Collection.id_of_findId? hd, Bson.oid.injEq] at hid
        rw [hid, ← hsid, ← hinfo]
        rfl
      | error e =>
        rw [hdec] at hverdict
        exact Or.inl ⟨fun d' h _ => hdoc d' h ▸ hverdict, rfl⟩
      | abort =>
        rw [hdec] at hverdict
        refine Or.inr (Or.inr ⟨?_, rfl⟩)
        refine ⟨fun hrejected => ?_, fun ⟨d', hd', _, hok⟩ => ?_⟩
        · exact absurd ((hrejected d hd hsame env.uninit).symm.trans (hverdict _))
            (by simp [Outcome.void])
        · rw [hdoc d' hd'] at hok
          exact absurd ((hok env.uninit).symm.trans (hverdict _)) (by simp [Outcome.void])
    · refine Or.inl ⟨fun d' h hsame' => ?_, rfl⟩
      rw [hdoc d' h] at hsame'
      exact absurd hsame' hsame

end

end LoadBalance
