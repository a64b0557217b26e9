import LoadBalance.Mongo.Equiv.UserCatchups

/-!
# The place a channel is served from

`ClientFindHttpDirectoryOrUrlForChannel` looks for the stream in the arrays `streams`, `vods` and
`catchups`, one after another, and decides in each of its three blocks anew what is served.  The
blocks of `streams` and `vods` give up on an output without an `http_root`, the one of `catchups`
falls back to its url.  So the answer is the expected one exactly when the search gets to the
stream and the output has an `http_root`, or `catchups` is the array the stream is found in
(`channel_source_iff`).
-/

namespace LoadBalance

/-! ### The search in an array -/

/-- The array has an entry of the stream. -/
def Lists (a : List Bson) (s : Oid) : Prop := ∃ e ∈ a, entrySid? e = some s

/-- No null pointer is met on the way to the first entry of the stream, or to the end. -/
def Reaches (a : List Bson) (s : Oid) : Prop :=
  ∀ e ∈ a.takeWhile fun e => entrySid? e ≠ some s, ¬NullSid e

section

variable {s : Oid} {e : Bson} {a : List Bson}

theorem reaches_cons_of_eq (h : entrySid? e = some s) : Reaches (e :: a) s := by
  unfold Reaches
  rw [List.takeWhile_cons_of_neg (by simp [h])]
  simp

theorem reaches_cons_of_ne (h : entrySid? e ≠ some s) :
    Reaches (e :: a) s ↔ ¬NullSid e ∧ Reaches a s := by
  unfold Reaches
  rw [List.takeWhile_cons_of_pos (by simp [h]), List.forall_mem_cons]

theorem lists_cons_of_ne (h : entrySid? e ≠ some s) : Lists (e :: a) s ↔ Lists a s := by
  unfold Lists
  simp [h]

/-- The entry is one of the stream with this text for its id. -/
def HasSid (sid : StreamId) (e : Bson) : Prop := ∃ o, entrySid? e = some o ∧ o.text = sid

theorem hasSid_text : HasSid s.text e ↔ entrySid? e = some s := by
  constructor
  · rintro ⟨o, ho, htext⟩
    rwa [Oid.text_inj.mp htext] at ho
  · exact fun h => ⟨s, h, rfl⟩

/-- One entry of the search: the stream is found, a null pointer is met, or the search goes on. -/
theorem findEntry_cons (sid : StreamId) (e : Bson) (a : List Bson) :
    (∃ o, entrySid? e = some o ∧ o.text = sid ∧ findEntry sid (e :: a) = .ok (some o)) ∨
      (¬HasSid sid e ∧ NullSid e ∧ findEntry sid (e :: a) = .abort) ∨
      (¬HasSid sid e ∧ ¬NullSid e ∧ findEntry sid (e :: a) = findEntry sid a) := by
  cases e with
  | document rec =>
    have hnull : NullSid (.document rec) ↔
        ∃ v, Doc.get? rec userStreamIdField = some v ∧ v.asOid? = none := by
      constructor
      · rintro ⟨rec', v, heq, h⟩
        cases heq
        exact ⟨v, h⟩
      · rintro ⟨v, h⟩
        exact ⟨rec, v, rfl, h⟩
    rw [hnull]
    unfold HasSid entrySid?
    rw [findEntry]
    dsimp only
    cases hget : Doc.get? rec userStreamIdField with
    | none => exact Or.inr (Or.inr ⟨by simp, by simp, rfl⟩)
    | some v =>
      cases hoid : v.asOid? with
      | none => exact Or.inr (Or.inl ⟨by simp [hoid], ⟨v, rfl, hoid⟩, by simp [hoid]⟩)
      | some o =>
        have hread : ¬∃ w, some v = some w ∧ w.asOid? = none := by
          rintro ⟨w, hw, hnone⟩
          obtain rfl := Option.some.inj hw
          rw [hoid] at hnone
          cases hnone
        by_cases ho : o.text = sid
        · exact Or.inl ⟨o, by simp [hoid], ho, by simp [hoid, ho]⟩
        · exact Or.inr (Or.inr ⟨by simp [hoid, ho], hread, by simp [hoid, ho]⟩)
  | _ => exact Or.inr (Or.inr ⟨by simp [HasSid, entrySid?], by simp [NullSid], rfl⟩)

/-- What the search in an array gives. -/
theorem findEntry_cases (s : Oid) (a : List Bson) :
    (Reaches a s ∧ Lists a s ∧ findEntry s.text a = .ok (some s)) ∨
      (Reaches a s ∧ ¬Lists a s ∧ findEntry s.text a = .ok none) ∨
      (¬Reaches a s ∧ findEntry s.text a = .abort) := by
  induction a with
  | nil => exact Or.inr (Or.inl ⟨by simp [Reaches], by simp [Lists], rfl⟩)
  | cons e a ih =>
    rcases findEntry_cons s.text e a with
      ⟨o, heq, htext, hfound⟩ | ⟨hne, hnull, habort⟩ | ⟨hne, hread, hgo⟩
    · obtain rfl := Oid.text_inj.mp htext
      exact Or.inl ⟨reaches_cons_of_eq heq, ⟨e, List.mem_cons_self, heq⟩, hfound⟩
    · rw [hasSid_text] at hne
      exact Or.inr (Or.inr ⟨fun h => ((reaches_cons_of_ne hne).mp h).1 hnull, habort⟩)
    · rw [hasSid_text] at hne
      have hreaches : Reaches (e :: a) s ↔ Reaches a s := by
        rw [reaches_cons_of_ne hne, and_iff_right hread]
      rw [hreaches, lists_cons_of_ne hne, hgo]
      exact ih

end

/-! ### One block -/

section

variable [Fastotv] {env : Env} {db : Database} {doc : Doc} {arr : String} {s : Oid}
  {sdoc : StoredDoc} {st : StreamType} {cid : ChannelId} {out : OutputUri}

/-- What is to be served of an output: its directory when that is there, its url otherwise. -/
def expectedSource (env : Env) (out : OutputUri) : HttpSource :=
  match out.httpRoot.filter env.isDirectoryExist with
  | some dir => .directory dir
  | none => .url out.url

/-- The types that are not served from a directory. -/
def StreamType.IsRemote (st : StreamType) : Prop :=
  st = .proxy ∨ st = .vodProxy ∨ st = .codRelay ∨ st = .codEncode ∨ st = .vodRelay ∨
    st = .vodEncode

/-- The blocks of `streams` and `vods` want an `http_root`. -/
theorem streamSource_of_findOutput {proxyType : StreamType} (hproxy : st ≠ proxyType)
    (hout : findOutput sdoc.toDoc cid = some out) :
    streamSource env proxyType cid sdoc.toDoc st =
      if out.httpRoot.isSome then some (expectedSource env out) else none := by
  unfold streamSource getHttpRootFromStream getUrlFromStream expectedSource
  rw [if_neg hproxy, hout]
  cases hroot : out.httpRoot with
  | none => simp [hroot]
  | some dir => by_cases hdir : env.isDirectoryExist dir = true <;> simp [hroot, hdir, Option.filter]

/-- The block of `catchups` does not. -/
theorem catchupSource_of_findOutput (hst : ¬st.IsRemote)
    (hout : findOutput sdoc.toDoc cid = some out) :
    catchupSource env cid sdoc.toDoc st = some (expectedSource env out) := by
  simp only [StreamType.IsRemote, not_or] at hst
  obtain ⟨h₁, h₂, h₃, h₄, h₅, h₆⟩ := hst
  unfold catchupSource getHttpRootFromStream getUrlFromStream expectedSource
  rw [if_neg (by simp [h₁, h₂]), hout]
  simp only [h₃, h₄, h₅, h₆, or_self, if_false, Option.bind_some, Option.map_some]
  cases out.httpRoot.filter env.isDirectoryExist <;> rfl

omit [Fastotv] in
/-- What a block does for a stream that has a document with a class: the source is `src`, unless
the block gives up on it. -/
theorem findSourceIn_cases {source : Doc → StreamType → Option HttpSource} {src : HttpSource}
    {b : Bool} (hsdoc : db.streams.findId? s = some sdoc) (hst : streamType? sdoc.toDoc = some st)
    (hsource : source sdoc.toDoc st = if b then some src else none) (doc : Doc) (arr : String) :
    (Reaches (arrayField doc arr) s ∧ Lists (arrayField doc arr) s ∧
        findSourceIn db doc arr s.text source =
          if b then .ok (some src) else .error (.message "Cant parse stream urls")) ∨
      (Reaches (arrayField doc arr) s ∧ ¬Lists (arrayField doc arr) s ∧
        findSourceIn db doc arr s.text source = .ok none) ∨
      (¬Reaches (arrayField doc arr) s ∧ findSourceIn db doc arr s.text source = .abort) := by
  unfold findSourceIn
  rcases findEntry_cases s (arrayField doc arr) with ⟨hr, hl, h⟩ | ⟨hr, hl, h⟩ | ⟨hr, h⟩
  · refine Or.inl ⟨hr, hl, ?_⟩
    rw [h, Outcome.ok_bind]
    dsimp only
    rw [hsdoc]
    dsimp only
    rw [hst]
    dsimp only
    rw [hsource]
    cases b <;> rfl
  · refine Or.inr (Or.inl ⟨hr, hl, ?_⟩)
    rw [h]
    rfl
  · refine Or.inr (Or.inr ⟨hr, ?_⟩)
    rw [h]
    rfl

/-! ### The three blocks -/

omit [Fastotv] in
/-- Where the search for a stream ends: in the first of the arrays that lists it, when no null
pointer is met before. -/
inductive SourceIn (doc : Doc) (s : Oid) : String → Prop where
  | streams (hr : Reaches (arrayField doc userStreamsField) s)
      (hl : Lists (arrayField doc userStreamsField) s) : SourceIn doc s userStreamsField
  | vods (hr₁ : Reaches (arrayField doc userStreamsField) s)
      (hl₁ : ¬Lists (arrayField doc userStreamsField) s)
      (hr : Reaches (arrayField doc userVodsField) s)
      (hl : Lists (arrayField doc userVodsField) s) : SourceIn doc s userVodsField
  | catchups (hr₁ : Reaches (arrayField doc userStreamsField) s)
      (hl₁ : ¬Lists (arrayField doc userStreamsField) s)
      (hr₂ : Reaches (arrayField doc userVodsField) s)
      (hl₂ : ¬Lists (arrayField doc userVodsField) s)
      (hr : Reaches (arrayField doc userCatchupsField) s)
      (hl : Lists (arrayField doc userCatchupsField) s) : SourceIn doc s userCatchupsField

omit [Fastotv] in
/-- What is found in the catchups is in no other array. -/
theorem SourceIn.not_lists (h : SourceIn doc s arr) (harr : arr = userCatchupsField) :
    ¬Lists (arrayField doc userStreamsField) s ∧ ¬Lists (arrayField doc userVodsField) s := by
  cases h with
  | streams => exact absurd harr (by decide)
  | vods => exact absurd harr (by decide)
  | catchups _ hl₁ _ hl₂ => exact ⟨hl₁, hl₂⟩

/-- One of the arrays of the subscriber lists the stream. -/
def ListsStream (doc : Doc) (s : Oid) : Prop :=
  ∃ arr ∈ [userStreamsField, userVodsField, userCatchupsField], Lists (arrayField doc arr) s

/-- Of a stream that one of the arrays lists, is not remote and has the output, the expected source
is given if and only if the search gets to it and the output has an `http_root`, or it is found
in the catchups. -/
theorem channel_source_iff (env : Env) (db : Database) (auth : AuthInfo) (sub sdoc : StoredDoc)
    (s : Oid) (st : StreamType) (cid : ChannelId) (out : OutputUri)
    (hauth : Fastotv.authValid auth = true) (hsid : s.text ≠ Fastotv.invalidStreamId)
    (hsub : findByEmail db auth.login = some sub) (hlists : ListsStream sub.toDoc s)
    (hsdoc : db.streams.findId? s = some sdoc) (htype : streamType? sdoc.toDoc = some st)
    (hst : ¬st.IsRemote) (hout : findOutput sdoc.toDoc cid = some out) :
    clientFindHttpDirectoryOrUrlForChannel env db auth s.text cid = .ok (expectedSource env out) ↔
      ∃ arr, SourceIn sub.toDoc s arr ∧ (out.httpRoot.isSome ∨ arr = userCatchupsField) := by
  have hproxy : st ≠ .proxy := fun h => hst (Or.inl h)
  have hvodProxy : st ≠ .vodProxy := fun h => hst (Or.inr (Or.inl h))
  unfold clientFindHttpDirectoryOrUrlForChannel
  rw [if_neg (by simp [hauth, hsid]), hsub]
  dsimp only
  rcases findSourceIn_cases hsdoc htype (streamSource_of_findOutput hproxy hout)
    sub.toDoc userStreamsField with ⟨hr₁, hl₁, h₁⟩ | ⟨hr₁, hl₁, h₁⟩ | ⟨hr₁, h₁⟩
  · -- The stream is in the array `streams`.
    have hiff : (∃ arr, SourceIn sub.toDoc s arr ∧
        (out.httpRoot.isSome = true ∨ arr = userCatchupsField)) ↔ out.httpRoot.isSome = true := by
      constructor
      · rintro ⟨arr, hfound, hroot | harr⟩
        · exact hroot
        · exact absurd hl₁ (hfound.not_lists harr).1
      · exact fun hroot => ⟨_, .streams hr₁ hl₁, Or.inl hroot⟩
    rw [h₁, hiff]
    cases out.httpRoot <;> simp
  · rw [h₁, Outcome.ok_bind]
    dsimp only
    rcases findSourceIn_cases hsdoc htype (streamSource_of_findOutput hvodProxy hout)
      sub.toDoc userVodsField with ⟨hr₂, hl₂, h₂⟩ | ⟨hr₂, hl₂, h₂⟩ | ⟨hr₂, h₂⟩
    · -- It is in the array `vods`, and not in `streams`.
      have hiff : (∃ arr, SourceIn sub.toDoc s arr ∧
          (out.httpRoot.isSome = true ∨ arr = userCatchupsField)) ↔ out.httpRoot.isSome = true := by
        constructor
        · rintro ⟨arr, hfound, hroot | harr⟩
          · exact hroot
          · exact absurd hl₂ (hfound.not_lists harr).2
        · exact fun hroot => ⟨_, .vods hr₁ hl₁ hr₂ hl₂, Or.inl hroot⟩
      rw [h₂, hiff]
      cases out.httpRoot <;> simp
    · rw [h₂, Outcome.ok_bind]
      dsimp only
      rcases findSourceIn_cases (b := true) hsdoc htype (catchupSource_of_findOutput hst hout)
        sub.toDoc userCatchupsField with ⟨hr₃, hl₃, h₃⟩ | ⟨hr₃, hl₃, h₃⟩ | ⟨hr₃, h₃⟩
      · -- It is in the array `catchups` only.
        rw [h₃]
        exact iff_of_true rfl ⟨_, .catchups hr₁ hl₁ hr₂ hl₂ hr₃ hl₃, Or.inr rfl⟩
      · -- No array lists it.
        obtain ⟨arr, harr, hlists⟩ := hlists
        simp only [List.mem_cons, List.not_mem_nil, or_false] at harr
        rcases harr with rfl | rfl | rfl
        · exact absurd hlists hl₁
        · exact absurd hlists hl₂
        · exact absurd hlists hl₃
      · rw [h₃]
        refine iff_of_false (by simp) ?_
        rintro ⟨arr, hfound, -⟩
        cases hfound with
        | streams _ hl => exact hl₁ hl
        | vods _ _ _ hl => exact hl₂ hl
        | catchups _ _ _ _ hr => exact hr₃ hr
    · rw [h₂]
      refine iff_of_false (by simp) ?_
      rintro ⟨arr, hfound, -⟩
      cases hfound with
      | streams _ hl => exact hl₁ hl
      | vods _ _ hr => exact hr₂ hr
      | catchups _ _ hr => exact hr₂ hr
  · rw [h₁]
    refine iff_of_false (by simp) ?_
    rintro ⟨arr, hfound, -⟩
    cases hfound with
    | streams hr => exact hr₁ hr
    | vods hr => exact hr₁ hr
    | catchups hr => exact hr₁ hr

end

/-! A channel with an output that has no `http_root`. -/

namespace Sample

def outputDoc : StoredDoc where
  id := .oid (oid 2)
  fields := [(streamClsField, .utf8 relayStr),
    (streamOutputField, .array [.document [(streamOutputUrlsIdField, .int32 1),
      (streamOutputUrlsUriField, .utf8 "http://host/1.m3u8")]])]
  no_id := by simp only [Doc.keys, List.map_cons, List.map_nil]; decide

/-- The subscriber has the channel in this array. -/
def sourceDatabase (arr : String) (h : arr ≠ idField) : Database :=
  database (subscriber arr h [userStreamEntry (oid 2)]) [outputDoc] (List.nodup_singleton _)

def sampleOutput : OutputUri := ⟨1, Fastotv.gurl "http://host/1.m3u8", none, none⟩

end Sample

open Sample in
/-- The array `streams` lists the channel and nothing is found to serve; were it listed in the
array `catchups`, it would be the url. -/
theorem source_depends_on_array :
    streamType? outputDoc.toDoc = some .relay ∧
      findOutput outputDoc.toDoc 1 = some sampleOutput ∧
      clientFindHttpDirectoryOrUrlForChannel env
        (sourceDatabase userStreamsField userStreams_ne_id) auth (oid 2).text 1 =
          .error (.message "Cant parse stream urls") ∧
      clientFindHttpDirectoryOrUrlForChannel env
        (sourceDatabase userCatchupsField userCatchups_ne_id) auth (oid 2).text 1 =
          .ok (expectedSource env sampleOutput) := by
  decide

open Sample in
theorem channel_source_iff_sample :
    clientFindHttpDirectoryOrUrlForChannel env
        (sourceDatabase userStreamsField userStreams_ne_id) auth (oid 2).text 1 =
          .ok (expectedSource env sampleOutput) ↔
      ∃ arr, SourceIn (subscriber userStreamsField userStreams_ne_id
        [userStreamEntry (oid 2)]).toDoc (oid 2) arr ∧
          (sampleOutput.httpRoot.isSome ∨ arr = userCatchupsField) := by
  refine channel_source_iff env _ auth _ outputDoc (oid 2) .relay 1 sampleOutput (by decide)
    (by decide) rfl ?_ rfl (by decide) (by simp [StreamType.IsRemote]) (by decide)
  exact ⟨userStreamsField, by simp, .document (userStreamEntry (oid 2)), List.mem_singleton_self _,
    rfl⟩

end LoadBalance
