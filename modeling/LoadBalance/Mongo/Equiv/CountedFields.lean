import LoadBalance.Mongo.Equiv.ExactDecoders

/-!
# What the count of a channel or a VOD says

The decoders of channels and VODs accept a document of a proxy type when two of the counted fields
are missing, whichever they are.  Meant are `have_audio` and `have_video`, whose locals are set
before the walk; of a document that misses two others an info is made whose components were never
read (`counted_fields_iff`).
-/

namespace LoadBalance

open LoadBalance.Field

section

variable [Fastotv] {uninit : Uninit} {d : Doc}

/-! ### The tables -/

def channelRows : List FieldRow :=
  [⟨streamIdField, true, .oid⟩, ⟨streamGroupsField, true, .array⟩, ⟨streamIarcField, true, .int32⟩,
    ⟨streamViewCountField, true, .int32⟩, ⟨channelTvgIdField, true, .utf8⟩,
    ⟨streamNameField, true, .utf8⟩, ⟨streamHaveAudioField, true, .bool⟩,
    ⟨streamPartsField, false, .array⟩, ⟨streamMetaUrlsField, false, .array⟩,
    ⟨streamHaveVideoField, true, .bool⟩, ⟨channelTvgLogoField, true, .utf8⟩,
    ⟨streamOutputField, true, .array⟩, ⟨streamVisibleField, false, .bool⟩]

def vodRows : List FieldRow :=
  [⟨streamIdField, true, .oid⟩, ⟨streamGroupsField, true, .array⟩, ⟨streamIarcField, true, .int32⟩,
    ⟨streamViewCountField, true, .int32⟩, ⟨streamNameField, true, .utf8⟩,
    ⟨vodDescriptionField, true, .utf8⟩, ⟨vodPrviewIconField, true, .utf8⟩,
    ⟨streamOutputField, true, .array⟩, ⟨streamHaveAudioField, true, .bool⟩,
    ⟨streamPartsField, false, .array⟩, ⟨streamMetaUrlsField, false, .array⟩,
    ⟨streamHaveVideoField, true, .bool⟩, ⟨vodTrailerUrlField, true, .utf8⟩,
    ⟨vodUserScoreField, true, .double⟩, ⟨vodPrimeDateField, true, .dateTime⟩,
    ⟨vodCountryField, true, .utf8⟩, ⟨vodDurationField, true, .int32⟩, ⟨vodTypeField, true, .int32⟩,
    ⟨streamVisibleField, false, .bool⟩]

open StreamField in
theorem checks_channelFields (hparts : ObjectIds d streamPartsField) :
    List.Forall₂ (fun fd r => Field.Checks fd r d) channelFields channelRows := by
  have houtput : Field.Checks epgOutput ⟨streamOutputField, true, .array⟩ d :=
    ⟨rfl, rfl, fun v _ t => by cases v <;> rfl⟩
  unfold channelFields channelRows
  exact .cons checks_onOid (.cons checks_onArray_ok (.cons checks_onInt32 (.cons checks_onInt32
    (.cons checks_onUtf8 (.cons checks_onUtf8 (.cons checks_onBool (.cons (checks_parts hparts)
    (.cons checks_onArray_ok (.cons checks_onBool (.cons checks_onUtf8 (.cons houtput
    (.cons checks_onBool .nil))))))))))))

open StreamField in
theorem checks_vodFields (hparts : ObjectIds d streamPartsField) :
    List.Forall₂ (fun fd r => Field.Checks fd r d) vodFields vodRows := by
  have houtput : Field.Checks movieOutput ⟨streamOutputField, true, .array⟩ d :=
    ⟨rfl, rfl, fun v _ t => by cases v <;> rfl⟩
  unfold vodFields vodRows
  exact .cons checks_onOid (.cons checks_onArray_ok (.cons checks_onInt32 (.cons checks_onInt32
    (.cons checks_onUtf8 (.cons checks_onUtf8 (.cons checks_onUtf8 (.cons houtput
    (.cons checks_onBool (.cons (checks_parts hparts) (.cons checks_onArray_ok (.cons checks_onBool
    (.cons checks_onUtf8 (.cons checks_onDouble (.cons checks_onDateTime (.cons checks_onUtf8
    (.cons checks_onInt32 (.cons checks_onInt32 (.cons checks_onBool .nil))))))))))))))))))

/-! ### Names -/

/-- The locals of the walk over a channel by the names of the fields. -/
def channelByName (uninit : Uninit) (g : String → Option Bson) : StreamScan :=
  { catchupByName uninit g with start := uninit.start, stop := uninit.stop }

/-- The locals of the walk over a VOD by the names of the fields. -/
def vodByName (uninit : Uninit) (g : String → Option Bson) : StreamScan :=
  { catchupByName uninit g with
    epg := Fastotv.epgInfo
    start := uninit.start
    stop := uninit.stop
    mov :=
      { name := match g streamNameField with
          | some (.utf8 x) => cstr x
          | _ => Fastotv.movieInfo.name
        description := match g vodDescriptionField with
          | some (.utf8 x) => cstr x
          | _ => Fastotv.movieInfo.description
        previewIcon := match g vodPrviewIconField with
          | some (.utf8 x) => Fastotv.gurl (cstr x)
          | _ => Fastotv.movieInfo.previewIcon
        urls := match (g streamOutputField).bind getOutputUrlData with
          | some urls => makeUrlsFromOutput urls
          | none => Fastotv.movieInfo.urls
        trailerUrl := match g vodTrailerUrlField with
          | some (.utf8 x) => Fastotv.gurl (cstr x)
          | _ => Fastotv.movieInfo.trailerUrl
        userScore := match g vodUserScoreField with
          | some (.double x) => x
          | _ => Fastotv.movieInfo.userScore
        primeDate := match g vodPrimeDateField with
          | some (.dateTime t) => t
          | _ => Fastotv.movieInfo.primeDate
        country := match g vodCountryField with
          | some (.utf8 x) => cstr x
          | _ => Fastotv.movieInfo.country
        duration := match g vodDurationField with
          | some (.int32 i) => i
          | _ => Fastotv.movieInfo.duration
        type := match g vodTypeField with
          | some (.int32 i) => i
          | _ => Fastotv.movieInfo.type } }

open StreamField in
theorem readsByName_channelFields (uninit : Uninit) :
    ReadsByName channelFields (channelByName uninit) where
  known := by
    simp only [channelFields, List.forall_mem_cons]
    refine ⟨builds_onOid fun _ _ _ => rfl, builds_onArray fun g a t hg h => ?_,
      builds_onInt32 fun _ _ _ => rfl, builds_onInt32 fun _ _ _ => rfl,
      builds_onUtf8 fun _ _ _ => rfl, builds_onUtf8 fun _ _ _ => rfl,
      builds_onBool fun _ _ _ => rfl, builds_onArray fun g a t hg h => ?_,
      builds_onArray fun g a t hg h => ?_, builds_onBool fun _ _ _ => rfl,
      builds_onUtf8 fun _ _ _ => rfl, fun g v t hg h => ?_, builds_onBool fun _ _ _ => rfl,
      by simp⟩
    · have hnone : (channelByName uninit g).groups = [] := by
        simp [channelByName, catchupByName, hg]
      rw [hnone] at h
      exact (Outcome.ok.inj h).symm
    · have hnone : (channelByName uninit g).parts = [] := by
        simp [channelByName, catchupByName, hg]
      obtain ⟨ps, hps, h⟩ := Outcome.bind_eq_ok.mp h
      rw [hnone] at h
      rw [← Outcome.ok.inj h, eq_arrayIds_of_oidTexts hps]
      rfl
    · have hnone : (channelByName uninit g).metaUrls = [] := by
        simp [channelByName, catchupByName, hg]
      rw [hnone] at h
      exact (Outcome.ok.inj h).symm
    · cases v <;> simp only [epgOutput, getOutputUrlData, Outcome.ok.injEq, reduceCtorEq] at h
      exact h.symm
  congr g g' h := by
    simp only [channelFields, List.forall_mem_cons] at h
    obtain ⟨h₁, h₂, h₃, h₄, h₅, h₆, h₇, h₈, h₉, h₁₀, h₁₁, h₁₂, h₁₃, -⟩ := h
    simp only [StreamField.id, groups, iarc, viewCount, tvgId, displayName, haveAudio,
      StreamField.parts, metaUrlsField, haveVideo, iconUrl, epgOutput,
      visible] at h₁ h₂ h₃ h₄ h₅ h₆ h₇ h₈ h₉ h₁₀ h₁₁ h₁₂ h₁₃
    unfold channelByName catchupByName
    dsimp only
    rw [h₁, h₂, h₃, h₄, h₅, h₆, h₇, h₈, h₉, h₁₀, h₁₁, h₁₂, h₁₃]

open StreamField in
theorem readsByName_vodFields (uninit : Uninit) : ReadsByName vodFields (vodByName uninit) where
  known := by
    simp only [vodFields, List.forall_mem_cons]
    refine ⟨builds_onOid fun _ _ _ => rfl, builds_onArray fun g a t hg h => ?_,
      builds_onInt32 fun _ _ _ => rfl, builds_onInt32 fun _ _ _ => rfl,
      builds_onUtf8 fun _ _ _ => rfl, builds_onUtf8 fun _ _ _ => rfl,
      builds_onUtf8 fun _ _ _ => rfl, fun g v t hg h => ?_, builds_onBool fun _ _ _ => rfl,
      builds_onArray fun g a t hg h => ?_, builds_onArray fun g a t hg h => ?_,
      builds_onBool fun _ _ _ => rfl, builds_onUtf8 fun _ _ _ => rfl,
      builds_onDouble fun _ _ _ => rfl, builds_onDateTime fun _ _ _ => rfl,
      builds_onUtf8 fun _ _ _ => rfl, builds_onInt32 fun _ _ _ => rfl,
      builds_onInt32 fun _ _ _ => rfl, builds_onBool fun _ _ _ => rfl, by simp⟩
    · have hnone : (vodByName uninit g).groups = [] := by simp [vodByName, catchupByName, hg]
      rw [hnone] at h
      exact (Outcome.ok.inj h).symm
    · cases v <;> simp only [movieOutput, getOutputUrlData, Outcome.ok.injEq, reduceCtorEq] at h
      exact h.symm
    · have hnone : (vodByName uninit g).parts = [] := by simp [vodByName, catchupByName, hg]
      obtain ⟨ps, hps, h⟩ := Outcome.bind_eq_ok.mp h
      rw [hnone] at h
      rw [← Outcome.ok.inj h, eq_arrayIds_of_oidTexts hps]
      rfl
    · have hnone : (vodByName uninit g).metaUrls = [] := by simp [vodByName, catchupByName, hg]
      rw [hnone] at h
      exact (Outcome.ok.inj h).symm
  congr g g' h := by
    simp only [vodFields, List.forall_mem_cons] at h
    obtain ⟨h₁, h₂, h₃, h₄, h₅, h₆, h₇, h₈, h₉, h₁₀, h₁₁, h₁₂, h₁₃, h₁₄, h₁₅, h₁₆, h₁₇, h₁₈,
      h₁₉, -⟩ := h
    simp only [StreamField.id, groups, iarc, viewCount, movieName, description, previewIcon,
      movieOutput, haveAudio, StreamField.parts, metaUrlsField, haveVideo, trailerUrl, userScore,
      primeDate, country, duration, vodType, visible]
      at h₁ h₂ h₃ h₄ h₅ h₆ h₇ h₈ h₉ h₁₀ h₁₁ h₁₂ h₁₃ h₁₄ h₁₅ h₁₆ h₁₇ h₁₈ h₁₉
    unfold vodByName catchupByName
    dsimp only
    rw [h₁, h₂, h₃, h₄, h₅, h₆, h₇, h₈, h₉, h₁₀, h₁₁, h₁₂, h₁₃, h₁₄, h₁₅, h₁₆, h₁₇, h₁₈, h₁₉]

/-! ### Null pointers -/

omit [Fastotv] in
/-- An element that is no object id is a null pointer. -/
theorem oidTexts_eq_abort {a : List Bson} (h : ¬∀ e ∈ a, ∃ o, e = .oid o) :
    oidTexts a = .abort := by
  induction a with
  | nil => exact absurd (by simp) h
  | cons e a ih =>
    unfold oidTexts at ih ⊢
    rw [List.mapM_cons]
    cases hoid : e.asOid? with
    | none => rfl
    | some o =>
      have hrest : ¬∀ e ∈ a, ∃ o, e = .oid o := fun hall =>
        h (List.forall_mem_cons.mpr ⟨⟨o, Bson.asOid?_eq_some.mp hoid⟩, hall⟩)
      rw [ih hrest]
      rfl

section nullElements

variable {σ : Type} {fs : List (Field σ)} {rows : List FieldRow} {k : String}

omit [Fastotv] in
/-- An array that the branch hands a null pointer of on ends the walk. -/
theorem scanField_of_nullArray (fd : Field σ) (hfd : fs.find? (·.key = k) = some fd)
    (hread : ∀ s a, oidTexts a = .abort → fd.read s (.array a) = .abort) {a : List Bson}
    (ha : ¬∀ e ∈ a, ∃ o, e = .oid o) (s : σ × ℕ) : scanField fs s (k, .array a) = .abort := by
  unfold scanField
  rw [hfd]
  dsimp only
  rw [hread _ _ (oidTexts_eq_abort ha)]
  rfl

/-- The walk comes to an array under this name with an element that is no object id: the fields
before it are of their types. -/
def NullElement (rows : List FieldRow) (k : String) (d : Doc) : Prop :=
  ∃ pre a post, d = pre ++ (k, .array a) :: post ∧ WellTyped rows pre ∧
    ¬∀ e ∈ a, ∃ o, e = .oid o

/-- The decoder follows the table, and hands the elements of one of the arrays on as object ids. -/
structure ReadsOids (fs : List (Field σ)) (rows : List FieldRow) (k : String) : Prop where
  checks : ∀ d, ObjectIds d k → List.Forall₂ (fun fd r => Field.Checks fd r d) fs rows
  nodup : (rows.map FieldRow.key).Nodup
  null : ∀ a, (¬∀ e ∈ a, ∃ o, e = .oid o) → ∀ s, scanField fs s (k, .array a) = .abort

omit [Fastotv] in
theorem nullElement_cons (hrows : (rows.map FieldRow.key).Nodup) {f : String × Bson}
    (hf : ObjectIds [f] k) :
    NullElement rows k (f :: d) ↔ isTyped rows f = true ∧ NullElement rows k d := by
  constructor
  · rintro ⟨pre, a, post, hd, htyped, ha⟩
    cases pre with
    | nil =>
      obtain ⟨rfl, rfl⟩ := List.cons.inj hd
      exact absurd (hf a List.mem_cons_self) ha
    | cons g pre =>
      obtain ⟨rfl, rfl⟩ := List.cons.inj hd
      rw [wellTyped_iff hrows, List.forall_mem_cons] at htyped
      exact ⟨htyped.1, pre, a, post, rfl, (wellTyped_iff hrows).mpr htyped.2, ha⟩
  · rintro ⟨hf, pre, a, post, rfl, htyped, ha⟩
    refine ⟨f :: pre, a, post, rfl, (wellTyped_iff hrows).mpr ?_, ha⟩
    exact List.forall_mem_cons.mpr ⟨hf, (wellTyped_iff hrows).mp htyped⟩

omit [Fastotv] in
/-- The walk ends in a null pointer exactly where it comes to one. -/
theorem scanDoc_eq_abort_iff (h : ReadsOids fs rows k) (s : σ) (d : Doc) :
    scanDoc fs s d = .abort ↔ NullElement rows k d := by
  unfold scanDoc
  generalize (s, 0) = s
  induction d generalizing s with
  | nil =>
    refine iff_of_false (by simp) ?_
    rintro ⟨pre, a, post, hd, -⟩
    simp at hd
  | cons f d ih =>
    rw [List.foldlM_cons]
    by_cases hids : ObjectIds [f] k
    · rw [nullElement_cons h.nodup hids]
      rcases scanField_of_checks (h.checks [f] hids) (List.mem_singleton_self f) s with
        ⟨htyped, t, ht⟩ | ⟨hno, herr⟩
      · rw [ht, Outcome.ok_bind, ih, and_iff_right htyped]
      · rw [herr]
        exact iff_of_false (by simp) (by simp [hno])
    · simp only [ObjectIds, List.mem_singleton, not_forall] at hids
      obtain ⟨a, rfl, e, he, hne⟩ := hids
      have ha : ¬∀ e ∈ a, ∃ o, e = .oid o := fun hall => hne (hall e he)
      rw [h.null a ha]
      exact iff_of_true rfl ⟨[], a, d, rfl, fun _ _ _ hv => absurd hv List.not_mem_nil, ha⟩

omit [Fastotv] in
/-- On a document with fields of the right types the walk comes to every array. -/
theorem nullElement_of_wellTyped (htyped : WellTyped rows d) (hnull : ¬ObjectIds d k) :
    NullElement rows k d := by
  simp only [ObjectIds, not_forall] at hnull
  obtain ⟨a, ha, e, he, hne⟩ := hnull
  obtain ⟨pre, post, rfl⟩ := List.append_of_mem ha
  refine ⟨pre, a, post, rfl, fun r hr v hv => ?_, fun hall => hne (hall e he)⟩
  exact htyped r hr v (List.mem_append_left _ hv)

end nullElements

omit [Fastotv] in
theorem read_parts_of_null (s : StreamScan) (a : List Bson) (ha : oidTexts a = .abort) :
    StreamField.parts.read s (.array a) = .abort := by
  show (oidTexts a >>= fun ps => Outcome.ok { s with parts := s.parts ++ ps }) = .abort
  rw [ha]
  rfl

/-- A table of the branches of a stream decoder that looks at the parts. -/
structure TableOf (fields : List (Field StreamScan)) (rows : List FieldRow)
    (build : Uninit → (String → Option Bson) → StreamScan) : Prop where
  checks : ∀ d, ObjectIds d streamPartsField →
    List.Forall₂ (fun fd r => Field.Checks fd r d) fields rows
  parts : fields.find? (·.key = streamPartsField) = some StreamField.parts
  nodup : (rows.map FieldRow.key).Nodup
  reads : ∀ uninit, ReadsByName fields (build uninit)
  init : ∀ uninit, build uninit (fun _ => none) = StreamScan.init uninit

theorem tableOf_channel : TableOf channelFields channelRows channelByName where
  checks _ := checks_channelFields
  parts := rfl
  nodup := by decide
  reads := readsByName_channelFields
  init _ := rfl

theorem tableOf_vod : TableOf vodFields vodRows vodByName where
  checks _ := checks_vodFields
  parts := rfl
  nodup := by decide
  reads := readsByName_vodFields
  init _ := rfl

section walk

variable {fields : List (Field StreamScan)} {rows : List FieldRow}
  {build : Uninit → (String → Option Bson) → StreamScan}

theorem TableOf.readsOids (h : TableOf fields rows build) :
    ReadsOids fields rows streamPartsField where
  checks := h.checks
  nodup := h.nodup
  null _ ha := scanField_of_nullArray _ h.parts read_parts_of_null ha

/-- The walk ends in a null pointer when the parts have an element that is no object id. -/
theorem scanDoc_of_nullPart (h : TableOf fields rows build) (htyped : WellTyped rows d)
    (hnull : ¬ObjectIds d streamPartsField) (s : StreamScan) : scanDoc fields s d = .abort :=
  (scanDoc_eq_abort_iff h.readsOids s d).mpr (nullElement_of_wellTyped htyped hnull)

variable {α : Type} {accepts : ℕ → Bool} {info : StreamScan → UserStreamInfo → α}

/-- A document with fields of the right types is accepted when its parts are object ids and the
number of the counted fields is one that is accepted; the info is made of what the names are looked
up to. -/
theorem decodeStream_cases (accepts : ℕ → Bool) (info : StreamScan → UserStreamInfo → α)
    (uninit : Uninit) (h : TableOf fields rows build) (hd : d.keys.Nodup) (htyped : WellTyped rows d)
    (u : UserStreamInfo) :
    (ObjectIds d streamPartsField ∧ ∃ n,
        n + (missing rows d).length = (rows.filter (·.counted)).length ∧
        decodeStream fields accepts info uninit d u =
          if accepts n then .ok (info (build uninit d.get?) u, (build uninit d.get?).visible)
          else .error ()) ∨
      (¬ObjectIds d streamPartsField ∧ decodeStream fields accepts info uninit d u = .abort) := by
  unfold decodeStream
  by_cases hids : ObjectIds d streamPartsField
  · rcases scanDoc_of_checks (h.checks d hids) h.nodup hd (StreamScan.init uninit) with
      ⟨-, t, n, hscan, hcount⟩ | ⟨hno, -⟩
    · refine Or.inl ⟨hids, n, hcount, ?_⟩
      rw [hscan, Outcome.ok_bind]
      dsimp only
      rw [← h.init uninit] at hscan
      rw [scanDoc_byName (h.reads uninit) hd hscan]
    · exact absurd htyped hno
  · refine Or.inr ⟨hids, ?_⟩
    rw [scanDoc_of_nullPart h htyped hids]
    rfl

/-! ### What the count is to say -/

/-- One of the two fields that a proxy may do without. -/
def IsFlag (k : String) : Prop := k = streamHaveAudioField ∨ k = streamHaveVideoField

/-- What is asked of a decoder on a document: that it accepts nothing with missing data, but for the
two flags of a proxy, and that the id, the name and the urls of an info were read. -/
structure NoMissingData (decode : UserStreamInfo → Outcome Unit (α × Bool)) (proxy : Prop)
    (rows : List FieldRow) (d : Doc) (sid : α → StreamId) (name : α → String)
    (urls : α → List Gurl) : Prop where
  plain : ∀ u, ¬proxy → ((∃ r, decode u = .ok r) ↔
    ∀ r ∈ rows, r.counted = true → (d.get? r.key).isSome = true)
  needed : ∀ u, proxy → (∃ r, decode u = .ok r) → ∀ k ∈ missing rows d, IsFlag k
  tolerated : ∀ u, proxy → (∀ k, k ∈ missing rows d ↔ IsFlag k) → ∃ r, decode u = .ok r
  shown : ∀ u info visible, decode u = .ok (info, visible) → ∃ o x a,
    d.get? streamIdField = some (.oid o) ∧ sid info = o.text ∧
    d.get? streamNameField = some (.utf8 x) ∧ name info = cstr x ∧
    d.get? streamOutputField = some (.array a) ∧
      urls info = makeUrlsFromOutput (a.filterMap outputUri?)

/-- When it is so: two fields that a proxy misses are the two flags, and a document that is to be
accepted has object ids for its parts. -/
def CountTells (proxy : Prop) (rows : List FieldRow) (d : Doc) : Prop :=
  (proxy → (missing rows d).length = 2 → ObjectIds d streamPartsField →
      ∀ k ∈ missing rows d, IsFlag k) ∧
    ((¬proxy ∧ missing rows d = []) ∨ (proxy ∧ ∀ k, k ∈ missing rows d ↔ IsFlag k) →
      ObjectIds d streamPartsField)

omit [Fastotv] in
theorem length_missing_of_flags (hrows : (rows.map FieldRow.key).Nodup)
    (h : ∀ k, k ∈ missing rows d ↔ IsFlag k) : (missing rows d).length = 2 := by
  have hnodup : (missing rows d).Nodup := hrows.sublist (List.filter_sublist.map _)
  have hflags : [streamHaveAudioField, streamHaveVideoField].Nodup := by decide
  have hperm : (missing rows d).Perm [streamHaveAudioField, streamHaveVideoField] := by
    refine (List.perm_ext_iff_of_nodup hnodup hflags).mpr fun k => ?_
    rw [h k]
    simp [IsFlag]
  exact hperm.length_eq

variable {sid : α → StreamId} {name : α → String} {urls : α → List Gurl} {proxy : Prop}

/-- On documents with fields of the right types the decoder is as asked exactly when the count tells
which fields are missing. -/
theorem noMissingData_iff (h : TableOf fields rows build) (hd : d.keys.Nodup)
    (htyped : WellTyped rows d)
    (haccepts : ∀ n m, n + m = (rows.filter (·.counted)).length →
      (accepts n = true ↔ m = 0 ∨ (proxy ∧ m = 2)))
    (hshown : (∀ k ∈ missing rows d, IsFlag k) → ∀ u, ∃ o x a,
      d.get? streamIdField = some (.oid o) ∧ sid (info (build uninit d.get?) u) = o.text ∧
      d.get? streamNameField = some (.utf8 x) ∧ name (info (build uninit d.get?) u) = cstr x ∧
      d.get? streamOutputField = some (.array a) ∧
        urls (info (build uninit d.get?) u) = makeUrlsFromOutput (a.filterMap outputUri?)) :
    NoMissingData (decodeStream fields accepts info uninit d) proxy rows d sid name urls ↔
      CountTells proxy rows d := by
  have hcases := decodeStream_cases accepts info uninit h hd htyped
  have hiff : ∀ u, (∃ r, decodeStream fields accepts info uninit d u = .ok r) ↔
      ObjectIds d streamPartsField ∧
        (missing rows d = [] ∨ (proxy ∧ (missing rows d).length = 2)) := by
    intro u
    rw [← List.length_eq_zero_iff]
    rcases hcases u with ⟨hids, n, hcount, hdec⟩ | ⟨hids, hdec⟩
    · rw [hdec, ← haccepts n _ hcount]
      cases accepts n <;> simp [hids]
    · rw [hdec]
      simp [hids]
  have hinfo : ∀ u i visible, decodeStream fields accepts info uninit d u = .ok (i, visible) →
      i = info (build uninit d.get?) u := by
    intro u i visible hr
    rcases hcases u with ⟨-, n, -, hdec⟩ | ⟨-, hdec⟩
    · rw [hdec] at hr
      split_ifs at hr
      exact (congrArg Prod.fst (Outcome.ok.inj hr)).symm
    · rw [hdec] at hr
      cases hr
  constructor
  · intro hlaw
    refine ⟨fun hproxy htwo hids => ?_, ?_⟩
    · exact hlaw.needed {} hproxy ((hiff {}).mpr ⟨hids, Or.inr ⟨hproxy, htwo⟩⟩)
    · rintro (⟨hplain, hnone⟩ | ⟨hproxy, hflags⟩)
      · exact ((hiff {}).mp ((hlaw.plain {} hplain).mpr (missing_eq_nil.mp hnone))).1
      · exact ((hiff {}).mp (hlaw.tolerated {} hproxy hflags)).1
  · rintro ⟨htwo, hparts⟩
    have hneeded : ∀ u, (∃ r, decodeStream fields accepts info uninit d u = .ok r) →
        ∀ k ∈ missing rows d, IsFlag k := by
      intro u hok
      obtain ⟨hids, hnone | ⟨hproxy, hlength⟩⟩ := (hiff u).mp hok
      · rw [hnone]
        simp
      · exact htwo hproxy hlength hids
    refine ⟨fun u hplain => ?_, fun u _ => hneeded u, fun u hproxy hflags => ?_, ?_⟩
    · rw [← missing_eq_nil, hiff u]
      constructor
      · rintro ⟨-, hnone | ⟨hproxy, -⟩⟩
        · exact hnone
        · exact absurd hproxy hplain
      · exact fun hnone => ⟨hparts (Or.inl ⟨hplain, hnone⟩), Or.inl hnone⟩
    · refine (hiff u).mpr ⟨hparts (Or.inr ⟨hproxy, hflags⟩), Or.inr ⟨hproxy, ?_⟩⟩
      exact length_missing_of_flags h.nodup hflags
    · intro u i visible hok
      rw [hinfo u i visible hok]
      exact hshown (hneeded u ⟨_, hok⟩) u

end walk

/-! ### The two decoders -/

/-- The decoder of the channels is as asked. -/
def ChannelComplete (uninit : Uninit) (d : Doc) (st : StreamType) : Prop :=
  NoMissingData (makeChannelInfo uninit d st) (st = .proxy) channelRows d
    (fun info => info.streamId) (fun info => info.epg.displayName) (fun info => info.epg.urls)

/-- The decoder of the VODs is as asked. -/
def VodComplete (uninit : Uninit) (d : Doc) (st : StreamType) : Prop :=
  NoMissingData (makeVodInfo uninit d st) (st = .vodProxy) vodRows d
    (fun info => info.streamId) (fun info => info.movie.name) (fun info => info.movie.urls)

/-- On a document without repeated keys whose fields are of the types that are checked, each decoder
refuses what has missing data exactly when the count tells which fields are missing. -/
theorem counted_fields_iff (uninit : Uninit) (d : Doc) (st : StreamType) (hd : d.keys.Nodup) :
    (WellTyped channelRows d →
      (ChannelComplete uninit d st ↔ CountTells (st = .proxy) channelRows d)) ∧
    (WellTyped vodRows d →
      (VodComplete uninit d st ↔ CountTells (st = .vodProxy) vodRows d)) := by
  have hflag : ∀ {rows}, (∀ k ∈ missing rows d, IsFlag k) → ∀ k, ¬IsFlag k → k ∉ missing rows d :=
    fun hall k hno hk => hno (hall k hk)
  have hid : ¬IsFlag streamIdField := by unfold IsFlag; decide
  have hname : ¬IsFlag streamNameField := by unfold IsFlag; decide
  have houtput : ¬IsFlag streamOutputField := by unfold IsFlag; decide
  refine ⟨fun htyped => ?_, fun htyped => ?_⟩
  · show NoMissingData (decodeStream channelFields (channelDecoder.accepts st) channelDecoder.info
      uninit d) _ _ _ _ _ _ ↔ _
    refine noMissingData_iff tableOf_channel hd htyped (fun n m hnm => ?_) fun hall u => ?_
    · have htotal : n + m = 10 := hnm
      have hnone : n = checkSumChannel ↔ m = 0 := by unfold checkSumChannel; omega
      have htwo : n = checkSumChannel - 2 ↔ m = 2 := by unfold checkSumChannel; omega
      simp only [channelDecoder, Bool.or_eq_true, Bool.and_eq_true, decide_eq_true_eq, hnone, htwo]
    · obtain ⟨o, ho⟩ := exists_oid (hflag hall _ hid) htyped (by decide)
      obtain ⟨x, hx⟩ := exists_utf8 (hflag hall _ hname) htyped (by decide)
      obtain ⟨a, ha⟩ := exists_array (hflag hall _ houtput) htyped (by decide)
      refine ⟨o, x, a, ho, ?_, hx, ?_, ha, ?_⟩
      · show (catchupByName uninit d.get?).sidStr = o.text
        simp only [catchupByName, ho]
      · show (catchupByName uninit d.get?).epg.displayName = cstr x
        simp only [catchupByName, hx]
      · show (catchupByName uninit d.get?).epg.urls = _
        simp only [catchupByName, ha, Option.bind_some, getOutputUrlData]
  · show NoMissingData (decodeStream vodFields (vodDecoder.accepts st) vodDecoder.info
      uninit d) _ _ _ _ _ _ ↔ _
    refine noMissingData_iff tableOf_vod hd htyped (fun n m hnm => ?_) fun hall u => ?_
    · have htotal : n + m = 16 := hnm
      have hnone : n = checkSumVod ↔ m = 0 := by unfold checkSumVod; omega
      have htwo : n = checkSumVod - 2 ↔ m = 2 := by unfold checkSumVod; omega
      simp only [vodDecoder, Bool.or_eq_true, Bool.and_eq_true, decide_eq_true_eq, hnone, htwo]
    · obtain ⟨o, ho⟩ := exists_oid (hflag hall _ hid) htyped (by decide)
      obtain ⟨x, hx⟩ := exists_utf8 (hflag hall _ hname) htyped (by decide)
      obtain ⟨a, ha⟩ := exists_array (hflag hall _ houtput) htyped (by decide)
      refine ⟨o, x, a, ho, ?_, hx, ?_, ha, ?_⟩
      · show (catchupByName uninit d.get?).sidStr = o.text
        simp only [catchupByName, ho]
      · show (vodByName uninit d.get?).mov.name = cstr x
        simp only [vodByName, hx]
      · show (vodByName uninit d.get?).mov.urls = _
        simp only [vodByName, ha, Option.bind_some, getOutputUrlData]

end

/-! A proxy channel without a name and without an output. -/

namespace Sample

def namelessChannel : Doc :=
  [(streamIdField, .oid (oid 2)), (streamGroupsField, .array []), (streamIarcField, .int32 3),
    (streamViewCountField, .int32 0), (channelTvgIdField, .utf8 "news"),
    (streamHaveAudioField, .bool true), (streamHaveVideoField, .bool true),
    (channelTvgLogoField, .utf8 "http://logo")]

theorem wellTyped_namelessChannel : WellTyped channelRows namelessChannel := by
  rw [wellTyped_iff (by decide)]
  decide

end Sample

open Sample in
/-- It is accepted, with the name and the urls that the locals happen to have. -/
theorem nameless_channel_accepted :
    namelessChannel.keys.Nodup ∧ WellTyped channelRows namelessChannel ∧
      missing channelRows namelessChannel = [streamNameField, streamOutputField] ∧
      ¬ChannelComplete env.uninit namelessChannel .proxy := by
  refine ⟨by decide, wellTyped_namelessChannel, by decide, fun h => ?_⟩
  have hok : ∃ r, makeChannelInfo env.uninit namelessChannel .proxy {} = .ok r := ⟨_, rfl⟩
  have hflag := h.needed {} rfl hok streamNameField (by decide)
  unfold IsFlag at hflag
  exact absurd hflag (by decide)

open Sample in
theorem counted_fields_iff_sample :
    ChannelComplete env.uninit namelessChannel .proxy ↔
      CountTells (StreamType.proxy = .proxy) channelRows namelessChannel :=
  (counted_fields_iff env.uninit namelessChannel .proxy (by decide)).1 wellTyped_namelessChannel

end LoadBalance
