import LoadBalance.Mongo.Equiv.AlikeStreams
import LoadBalance.Mongo.Equiv.UserCatchups
import LoadBalance.Mongo.Equiv.UserState

/-!
# Watching a stream

The setters leave in the database what `ClientGetChannels` lists a stream by: its `sid` and its
`private` flag in the arrays of the subscribers, and the stream's document up to its counter
(`KeptBy`).  The decoders take the counter for an int32 only.  So a stream that was listed stays
listed exactly when each view of it that is counted finds an int32 with room for it
(`listed_kept_iff`): the one beyond is stored as an int64, and then no list has the stream any more.
-/

namespace LoadBalance

open LoadBalance.Action

/-! ### The lists -/

/-- The lists of streams in a catalogue. -/
inductive StreamList where
  | chans
  | vods
  | pchans
  | pvods
  | catchups
deriving DecidableEq, Repr

namespace StreamList

/-- The ids of the streams in a list. -/
def ids (r : Catalogue) : StreamList → List StreamId
  | chans => r.chans.map fun x => x.streamId
  | vods => r.vods.map fun x => x.streamId
  | pchans => r.pchans.map fun x => x.streamId
  | pvods => r.pvods.map fun x => x.streamId
  | catchups => r.catchups.map fun x => x.streamId

/-- The array of the subscriber that the list is made from. -/
def array : StreamList → String
  | chans | pchans => userStreamsField
  | vods | pvods => userVodsField
  | catchups => userCatchupsField

/-- Whether the list has streams of this visibility. -/
def shows : StreamList → Bool → Bool
  | chans | pchans => fun visible => visible
  | _ => fun _ => true

/-- Whether the list has streams with this `private` flag. -/
def takes : StreamList → Bool → Bool
  | chans | vods => fun priv => !priv
  | pchans | pvods => fun priv => priv
  | catchups => fun _ => true

/-- What the infos of the list are. -/
def Info : StreamList → Type
  | chans | pchans => ChannelInfo
  | vods | pvods => VodInfo
  | catchups => CatchupInfo

/-- The decoder of its streams. -/
def decoder [Fastotv] : (l : StreamList) → StreamDecoder l.Info
  | chans | pchans => channelDecoder
  | vods | pvods => vodDecoder
  | catchups => catchupDecoder

end StreamList

/-- Each list still has the streams that it had. -/
def StillLists (r r' : Catalogue) : Prop := ∀ l : StreamList, l.ids r ⊆ l.ids r'

section

variable [Fastotv]

/-- What was listed for a subscriber is listed for it later, in the same list. -/
def StaysListed (db db' : Database) : Prop :=
  ∀ env env' auth r, clientGetChannels env db auth = .ok r →
    ∃ r', clientGetChannels env' db' auth = .ok r' ∧ StillLists r r'

/-- The stream is listed for some subscriber. -/
def Listed (db : Database) (s : Oid) : Prop :=
  ∃ (env : Env) (auth : AuthInfo) (r : Catalogue) (l : StreamList),
    clientGetChannels env db auth = .ok r ∧ s.text ∈ l.ids r

/-- The call counts a view of the stream. -/
def SetRequest.Counts (r : SetRequest) (db : Database) (s : Oid) : Prop :=
  ∃ info u st, r.call = .recent info ∧ Fastotv.recentValid info = true ∧
    r.env.write .incViews = true ∧ SetterFinds r.env r.auth info.channel db u s st

omit [Fastotv] in
/-- The counter of the stream is an int32 and not the last one. -/
def HasRoom (db : Database) (s : Oid) : Prop :=
  ∃ d i, db.streams.findId? s = some d ∧ d.fields.get? streamViewCountField = some (.int32 i) ∧
    i ≠ Int32.maxValue

/-- If the call counts a view of one of these streams, the counter has room for it. -/
def CountsFit (L : Oid → Prop) (db : Database) (r : SetRequest) : Prop :=
  ∀ s, r.Counts db s → L s → HasRoom db s

/-! ### What a list is made of -/

variable {env : Env} {db : Database} {auth : AuthInfo} {r : Catalogue}

/-- The entry is shown in the list, as the stream `o`. -/
def StreamList.Shows (l : StreamList) (uninit : Uninit) (db : Database) (e : Bson) (o : Oid) :
    Prop :=
  ∃ rec sdoc st s, entryStream db e = some (rec, sdoc, st) ∧
    l.decoder.accepted uninit sdoc.toDoc st = .ok s ∧ l.shows s.visible = true ∧
    l.takes (makeUserStreamInfo (behind [userStreamIdField] rec)).priv = true ∧ sdoc.id = .oid o

/-- The ids in the part of a walk that is chosen by the `private` flag. -/
theorem mem_walk_ids {α : Type} (D : StreamDecoder α) {uninit : Uninit} {shows p : Bool → Bool}
    {a : List Bson} {l : List (Bool × α)}
    (h : walk (listedInfo db (D.decode uninit) shows) a = .ok l) (x : StreamId) :
    (∃ y ∈ l, p y.1 = true ∧ (D.base y.2).streamId = x) ↔
      ∃ e ∈ a, ∃ o, (∃ rec sdoc st s, entryStream db e = some (rec, sdoc, st) ∧
        D.accepted uninit sdoc.toDoc st = .ok s ∧ shows s.visible = true ∧
        p (makeUserStreamInfo (behind [userStreamIdField] rec)).priv = true ∧
        sdoc.id = .oid o) ∧ x = o.text := by
  constructor
  · rintro ⟨y, hy, hp, rfl⟩
    obtain ⟨e, he, rec, sdoc, st, s, hes, hs, hshows, rfl⟩ := (mem_walk_listedInfo_iff D h).mp hy
    obtain ⟨o, ho, htext⟩ := StreamDecoder.streamId_of_accepted
      (u := makeUserStreamInfo (behind [userStreamIdField] rec)) hs
    exact ⟨e, he, o, ⟨rec, sdoc, st, s, hes, hs, hshows, hp, ho⟩, htext⟩
  · rintro ⟨e, he, o, ⟨rec, sdoc, st, s, hes, hs, hshows, hp, hid⟩, rfl⟩
    refine ⟨_, (mem_walk_listedInfo_iff D h).mpr
      ⟨e, he, rec, sdoc, st, s, hes, hs, hshows, rfl⟩, hp, ?_⟩
    obtain ⟨o', ho', htext⟩ := StreamDecoder.streamId_of_accepted
      (u := makeUserStreamInfo (behind [userStreamIdField] rec)) hs
    rw [hid, Bson.oid.injEq] at ho'
    rw [htext, ho']

omit [Fastotv] in
theorem mem_map_withPrivate {α β : Type} {priv : Bool} {l : List (Bool × α)} {f : α → β} {x : β} :
    x ∈ (withPrivate priv l).map f ↔ ∃ y ∈ l, y.1 = priv ∧ f y.2 = x := by
  simp only [List.mem_map, mem_withPrivate]
  constructor
  · rintro ⟨y, hy, rfl⟩
    exact ⟨_, hy, rfl, rfl⟩
  · rintro ⟨⟨p, y⟩, hy, rfl, rfl⟩
    exact ⟨y, hy, rfl⟩

/-- The streams in a list are those of the entries of its array that it shows. -/
theorem mem_ids_iff {sub : StoredDoc} (h : clientGetChannels env db auth = .ok r)
    (hsub : findByEmail db auth.login = some sub) (l : StreamList) (x : StreamId) :
    x ∈ l.ids r ↔ ∃ e ∈ arrayField sub.toDoc l.array, ∃ o, l.Shows env.uninit db e o ∧
      x = o.text := by
  obtain ⟨-, sub', hsub', chans, vods, catchups, series, requests, hc, hv, hca, -, -, rfl⟩ :=
    clientGetChannels_eq_ok.mp h
  obtain rfl := Option.some.inj (hsub.symm.trans hsub')
  cases l with
  | chans =>
    refine Iff.trans ?_ (mem_walk_ids channelDecoder (p := fun b => !b) hc x)
    show x ∈ (withPrivate false chans).map _ ↔ _
    rw [mem_map_withPrivate]
    simp only [Bool.not_eq_true']
    rfl
  | vods =>
    refine Iff.trans ?_ (mem_walk_ids vodDecoder (p := fun b => !b) hv x)
    show x ∈ (withPrivate false vods).map _ ↔ _
    rw [mem_map_withPrivate]
    simp only [Bool.not_eq_true']
    rfl
  | pchans =>
    refine Iff.trans ?_ (mem_walk_ids channelDecoder (p := fun b => b) hc x)
    exact mem_map_withPrivate
  | pvods =>
    refine Iff.trans ?_ (mem_walk_ids vodDecoder (p := fun b => b) hv x)
    exact mem_map_withPrivate
  | catchups =>
    refine Iff.trans ?_ (mem_walk_ids catchupDecoder (p := fun _ => true) hca x)
    show x ∈ (catchups.map Prod.snd).map _ ↔ _
    simp only [List.map_map, List.mem_map, Function.comp_apply, true_and]
    rfl

/-! ### What is kept -/

omit [Fastotv] in
/-- The entry is about the same stream, and its `private` flag is read alike. -/
def KeptEntry (e e' : Bson) : Prop :=
  e' = e ∨ ∃ rec rec', e = .document rec ∧ e' = .document rec' ∧
    Doc.get? rec' userStreamIdField = Doc.get? rec userStreamIdField ∧
    (makeUserStreamInfo (behind [userStreamIdField] rec')).priv =
      (makeUserStreamInfo (behind [userStreamIdField] rec)).priv

/-- The subscriber has the same entries, and its other fields as they were. -/
structure KeptSubscriber (d d' : StoredDoc) : Prop where
  entries : ∀ l : StreamList,
    List.Forall₂ KeptEntry (arrayField d.toDoc l.array) (arrayField d'.toDoc l.array)
  others : ∀ k, (∀ l : StreamList, k ≠ l.array) → d'.toDoc.get? k = d.toDoc.get? k

/-- The stream has its type, when `p` is so what a decoder makes of it up to the counter, and in any
case no null pointer that was not there before. -/
structure KeptStream (p : Prop) (d d' : StoredDoc) : Prop where
  type : streamType? d'.toDoc = streamType? d.toDoc
  alike : p → AlikeStream False d d'
  returns : ∀ (l : StreamList) uninit uninit' st, l.decoder.accepted uninit d.toDoc st ≠ .abort →
    l.decoder.accepted uninit' d'.toDoc st ≠ .abort

/-- What the setters keep, when the views of the streams in `L` are counted in counters with room
for them. -/
structure KeptBy (L : Oid → Prop) (db db' : Database) : Prop where
  subscribers : List.Forall₂ KeptSubscriber db.subscribers.docs db'.subscribers.docs
  streams : ∀ s, Option.Rel (KeptStream (L s)) (db.streams.findId? s) (db'.streams.findId? s)
  series : db'.series = db.series

omit [Fastotv] in
theorem KeptEntry.trans {e e' e'' : Bson} (h : KeptEntry e e') (h' : KeptEntry e' e'') :
    KeptEntry e e'' := by
  rcases h with rfl | ⟨rec, rec', rfl, rfl, hsid, hpriv⟩
  · exact h'
  rcases h' with rfl | ⟨rec₂, rec'', hrec, rfl, hsid', hpriv'⟩
  · exact Or.inr ⟨rec, rec', rfl, rfl, hsid, hpriv⟩
  · obtain rfl := Bson.document.inj hrec
    exact Or.inr ⟨rec, rec'', rfl, rfl, hsid'.trans hsid, hpriv'.trans hpriv⟩

omit [Fastotv] in
theorem KeptSubscriber.refl (d : StoredDoc) : KeptSubscriber d d :=
  ⟨fun _ => forall₂_refl (R := KeptEntry) (fun _ => Or.inl rfl) _, fun _ _ => rfl⟩

omit [Fastotv] in
theorem KeptSubscriber.trans {d d' d'' : StoredDoc} (h : KeptSubscriber d d')
    (h' : KeptSubscriber d' d'') : KeptSubscriber d d'' :=
  ⟨fun l => forall₂_trans (fun _ _ _ h h' => h.trans h') (h.entries l) (h'.entries l),
    fun k hk => (h'.others k hk).trans (h.others k hk)⟩

theorem KeptStream.of_alike {p : Prop} {d d' : StoredDoc} (h : AlikeStream False d d') :
    KeptStream p d d' := by
  refine ⟨h.type, fun _ => h, fun l uninit uninit' st hne habort => hne ?_⟩
  have hu : ¬True → uninit' = uninit := fun h => absurd trivial h
  have hrel := h.accepted l.decoder hu st
  rw [habort] at hrel
  exact hrel.eq_abort

theorem KeptStream.trans {p : Prop} {d d' d'' : StoredDoc} (h : KeptStream p d d')
    (h' : KeptStream p d' d'') : KeptStream p d d'' :=
  ⟨h'.type.trans h.type, fun hp => (h.alike hp).trans (h'.alike hp),
    fun l uninit _ st hne => h'.returns l uninit _ st (h.returns l _ uninit st hne)⟩

instance {L : Oid → Prop} : IsPreorder Database (KeptBy L) where
  refl _ := ⟨forall₂_refl KeptSubscriber.refl _,
    fun _ => optionRel_refl (fun d => .of_alike (.refl d)) _, rfl⟩
  trans _ _ _ h h' :=
    ⟨forall₂_trans (fun _ _ _ h h' => h.trans h') h.subscribers h'.subscribers,
      fun s => optionRel_trans (fun _ _ _ h h' => h.trans h') (h.streams s) (h'.streams s),
      h'.series.trans h.series⟩

/-! ### The entries -/

section entries

omit [Fastotv]

variable {rec : Doc} {field : String} {v : Bson} {s : Oid}

/-- The flag is looked for behind the favorite. -/
theorem priv_makeUserStreamInfo (iter : Doc) : (makeUserStreamInfo iter).priv =
    ((Doc.get? (behind [favoriteField] iter) privateField).map Bson.asBool).getD false := by
  simp [makeUserStreamInfo, iterFind_fst]

/-- What a setter sets is not looked at for the `private` flag, and stands in its place. -/
theorem KeptEntry.set (hsid : field ≠ userStreamIdField) (hpriv : field ≠ privateField) :
    KeptEntry (.document rec) (.document (Doc.set rec field v)) := by
  refine Or.inr ⟨rec, _, rfl, rfl, Doc.get?_set_ne _ _ hsid.symm, ?_⟩
  have hbehind : ∀ iter : Doc,
      Doc.get? (behind [favoriteField] (Doc.set iter field v)) privateField =
        Doc.get? (behind [favoriteField] iter) privateField := by
    intro iter
    by_cases hfavorite : favoriteField = field
    · rw [← hfavorite, Doc.behind_set_self]
    · rcases Doc.behind_set_ne iter v hfavorite with h | h
      · rw [h]
      · rw [h, Doc.get?_set_ne _ _ hpriv.symm]
  rw [priv_makeUserStreamInfo, priv_makeUserStreamInfo]
  rcases Doc.behind_set_ne rec v hsid.symm with h | h
  · rw [h]
  · rw [h, hbehind]

theorem forall₂_setElementOp (hsid : field ≠ userStreamIdField) (hpriv : field ≠ privateField)
    {old : Option Bson} {new : Bson}
    (h : setElementOp userStreamIdField s field v old = some new) :
    ∃ a a', old = some (.array a) ∧ new = .array a' ∧ List.Forall₂ KeptEntry a a' := by
  have hrefl : ∀ e, KeptEntry e e := fun _ => Or.inl rfl
  unfold setElementOp at h
  split at h
  · next a =>
    obtain ⟨a', ha', rfl⟩ := Option.map_eq_some_iff.mp h
    refine ⟨a, a', rfl, rfl, ?_⟩
    rcases modifyFirst_cases ha' with ⟨-, rfl⟩ | ⟨as, e, e', bs, rfl, -, -, hset, rfl⟩
    · exact forall₂_refl hrefl _
    · refine List.rel_append (forall₂_refl hrefl as) (.cons ?_ (forall₂_refl hrefl bs))
      split at hset
      · obtain rfl := Option.some.inj hset
        exact .set hsid hpriv
      · cases hset
  · cases h

theorem StreamList.array_ne_id (l : StreamList) : l.array ≠ idField := by
  cases l <;> decide

theorem exists_array_eq (st : StreamType) : ∃ l : StreamList, userArrayField st = l.array := by
  unfold userArrayField
  split_ifs
  · exact ⟨.vods, rfl⟩
  · exact ⟨.catchups, rfl⟩
  · exact ⟨.chans, rfl⟩

theorem KeptSubscriber.of_set {d d' : StoredDoc} {l : StreamList} {new : Bson}
    (hid : d'.id = d.id) (hfields : d'.fields = d.fields.set l.array new)
    (hsid : field ≠ userStreamIdField) (hpriv : field ≠ privateField)
    (h : setElementOp userStreamIdField s field v (d.fields.get? l.array) = some new) :
    KeptSubscriber d d' := by
  have hother : ∀ k, k ≠ l.array → d'.toDoc.get? k = d.toDoc.get? k := by
    intro k hk
    by_cases hkid : k = idField
    · rw [hkid, StoredDoc.get?_toDoc_id, StoredDoc.get?_toDoc_id, hid]
    · rw [StoredDoc.get?_toDoc hkid, StoredDoc.get?_toDoc hkid, hfields, Doc.get?_set_ne _ _ hk]
  refine ⟨fun l' => ?_, fun k hk => hother k (hk l)⟩
  unfold arrayField
  by_cases hl : l'.array = l.array
  · obtain ⟨a, a', hold, rfl, hkept⟩ := forall₂_setElementOp hsid hpriv h
    rw [hl, StoredDoc.get?_toDoc l.array_ne_id, StoredDoc.get?_toDoc l.array_ne_id, hold, hfields,
      Doc.get?_set_self]
    exact hkept
  · rw [hother _ hl]
    exact forall₂_refl (R := KeptEntry) (fun _ => Or.inl rfl) _

end entries

variable {L : Oid → Prop} {db' : Database}

/-- A setter's positional update. -/
theorem keptBy_setEntry {u s : Oid} {st : StreamType} {field : String} {v : Bson} {c : Collection}
    (hsid : field ≠ userStreamIdField) (hpriv : field ≠ privateField)
    (h : db.subscribers.update (userHasStream u s (userArrayField st)) (userArrayField st)
      (userArrayField_ne_id st) (setElementOp userStreamIdField s field v) = some c) :
    KeptBy L db (db.set .subscribers c) := by
  obtain ⟨l, hl⟩ := exists_array_eq st
  refine ⟨Collection.forall₂_update KeptSubscriber.refl h fun d d' new _ _ hset hid hfields => ?_,
    fun s => optionRel_refl (fun d => .of_alike (.refl d)) _, rfl⟩
  rw [hl] at hset hfields
  exact .of_set hid hfields hsid hpriv hset

/-! ### The counter -/

section counter

variable {fields : List (Field StreamScan)} {d : Doc} {v : Bson}

/-- The branch of the counter takes an int32 and nothing else. -/
theorem scanField_viewCount_ne_abort (hfields : fields ⊆ streamFields) (s : StreamScan × ℕ)
    (v : Bson) : scanField fields s (streamViewCountField, v) ≠ .abort := by
  unfold scanField
  dsimp only
  cases hfd : fields.find? (·.key = streamViewCountField) with
  | none => simp
  | some fd =>
    have hkey : fd.key = streamViewCountField := by simpa using List.find?_some hfd
    obtain rfl := eq_viewCount_of_mem (hfields (List.mem_of_find?_eq_some hfd)) hkey
    cases v <;> exact nofun

theorem scanField_viewCount_ok (hfields : fields ⊆ streamFields)
    (hmem : StreamField.viewCount ∈ fields) {s s' : StreamScan × ℕ}
    (h : scanField fields s (streamViewCountField, v) = .ok s') :
    (∃ i, v = .int32 i) ∧ s'.2 = s.2 + 1 := by
  unfold scanField at h
  dsimp only at h
  cases hfd : fields.find? (·.key = streamViewCountField) with
  | none =>
    have hne : StreamField.viewCount.key ≠ streamViewCountField := by
      simpa using List.find?_eq_none.mp hfd _ hmem
    exact absurd rfl hne
  | some fd =>
    have hkey : fd.key = streamViewCountField := by simpa using List.find?_some hfd
    obtain rfl := eq_viewCount_of_mem (hfields (List.mem_of_find?_eq_some hfd)) hkey
    rw [hfd] at h
    obtain ⟨t, hread, h⟩ := Outcome.bind_eq_ok.mp h
    obtain rfl := Outcome.ok.inj h
    cases v with
    | int32 i => exact ⟨⟨i, rfl⟩, rfl⟩
    | _ => cases hread

/-- A view that is counted makes no null pointer. -/
theorem foldlM_ne_abort_of_inc {u : Prop} (hfields : fields ⊆ streamFields)
    (hmem : StreamField.viewCount ∈ fields) (hv : incOp (d.get? streamViewCountField) = some v)
    {s t : StreamScan} {n : ℕ} (hst : s.Alike False u t)
    (h : d.foldlM (scanField fields) (s, n) ≠ .abort) :
    (d.set streamViewCountField v).foldlM (scanField fields) (t, n) ≠ .abort := by
  induction d generalizing s t n with
  | nil =>
    show [(streamViewCountField, v)].foldlM _ _ ≠ _
    rw [List.foldlM_cons, ne_eq, Outcome.bind_eq_abort, not_or]
    exact ⟨scanField_viewCount_ne_abort hfields _ v, by simp⟩
  | cons f d ih =>
    rw [Doc.get?_cons] at hv
    rw [Doc.set_cons]
    split_ifs at hv ⊢ with hk hk' hk'
    · -- The first counter is the one that is changed.
      obtain ⟨k, w⟩ := f
      obtain rfl : k = streamViewCountField := hk
      rcases incOp_cases hv with ⟨hw, -⟩ | ⟨i, hw, -, rfl⟩ | ⟨-, hv⟩
      · cases hw
      · obtain rfl := Option.some.inj hw
        have hwalk := rel_foldlM_scanField (n := n)
          (.cons (alikeField_viewCount hfields (i := i) (j := i + 1))
            (forall₂_refl (alikeField_refl hfields) d)) hst
        intro habort
        rw [habort] at hwalk
        exact h hwalk.eq_abort
      · -- It is an int32 no more, which is an error.
        rw [List.foldlM_cons, ne_eq, Outcome.bind_eq_abort, not_or]
        refine ⟨scanField_viewCount_ne_abort hfields _ v, ?_⟩
        rintro ⟨s', hs', -⟩
        obtain ⟨⟨j, rfl⟩, -⟩ := scanField_viewCount_ok hfields hmem hs'
        exact absurd rfl (hv j)
    · exact absurd hk.symm hk'
    · exact absurd hk'.symm hk
    · rw [List.foldlM_cons] at h ⊢
      have hf := rel_scanField (n := n) (alikeField_refl hfields f) hst
      intro habort
      rcases Outcome.bind_eq_abort.mp habort with hhead | ⟨⟨t', m⟩, hhead, htail⟩
      · rw [hhead] at hf
        exact h (by rw [hf.eq_abort]; rfl)
      · rw [hhead] at hf
        obtain ⟨⟨s', n'⟩, hs, hst', rfl⟩ := hf.eq_ok
        rw [hs, Outcome.ok_bind] at h
        exact ih hv hst' h htail

theorem StreamList.viewCount_mem (l : StreamList) :
    StreamField.viewCount ∈ l.decoder.fields := by
  cases l
  · simp [decoder, channelDecoder, channelFields]
  · simp [decoder, vodDecoder, vodFields]
  · simp [decoder, channelDecoder, channelFields]
  · simp [decoder, vodDecoder, vodFields]
  · simp [decoder, catchupDecoder, catchupFields]

/-- No two counts that follow each other are accepted. -/
theorem StreamList.not_accepts_succ (l : StreamList) {st : StreamType} {n : ℕ}
    (h : l.decoder.accepts st n = true) : l.decoder.accepts st (n + 1) = false := by
  have hsum : checkSumChannel = 10 ∧ checkSumVod = 16 := ⟨rfl, rfl⟩
  have hchannel : channelDecoder.accepts st n = true →
      channelDecoder.accepts st (n + 1) = false := by
    simp only [channelDecoder, Bool.or_eq_true, Bool.and_eq_true, decide_eq_true_eq,
      Bool.or_eq_false_iff, Bool.and_eq_false_iff, decide_eq_false_iff_not]
    rintro (h | ⟨-, h⟩)
    · exact ⟨by omega, Or.inr (by omega)⟩
    · exact ⟨by omega, Or.inr (by omega)⟩
  have hvod : vodDecoder.accepts st n = true → vodDecoder.accepts st (n + 1) = false := by
    simp only [vodDecoder, Bool.or_eq_true, Bool.and_eq_true, decide_eq_true_eq,
      Bool.or_eq_false_iff, Bool.and_eq_false_iff, decide_eq_false_iff_not]
    rintro (h | ⟨-, h⟩)
    · exact ⟨by omega, Or.inr (by omega)⟩
    · exact ⟨by omega, Or.inr (by omega)⟩
  have hcatchup : catchupDecoder.accepts st n = true →
      catchupDecoder.accepts st (n + 1) = false := by
    simp only [catchupDecoder, decide_eq_true_eq, decide_eq_false_iff_not]
    intro h
    omega
  cases l with
  | chans | pchans => exact hchannel h
  | vods | pvods => exact hvod h
  | catchups => exact hcatchup h

/-- A document that was accepted and still is when a view was counted: the counter had room. -/
theorem StreamList.room_of_accepted (l : StreamList) {d d' : StoredDoc} {uninit : Uninit}
    {st : StreamType} {s s' : StreamScan} (hid : d'.id = d.id)
    (hfields : d'.fields = d.fields.set streamViewCountField v)
    (hv : incOp (d.fields.get? streamViewCountField) = some v)
    (h : l.decoder.accepted uninit d.toDoc st = .ok s)
    (h' : l.decoder.accepted uninit d'.toDoc st = .ok s') :
    ∃ i, d.fields.get? streamViewCountField = some (.int32 i) ∧ i ≠ Int32.maxValue := by
  have hmem' : (streamViewCountField, v) ∈ d'.toDoc := by
    rw [StoredDoc.toDoc, hfields]
    exact List.mem_cons_of_mem _ (Doc.mem_set_self _ _ _)
  obtain ⟨n', hscan'⟩ := StreamDecoder.scan_of_accepted h'
  obtain ⟨t, t', ht⟩ := scanField_of_mem hscan' hmem'
  obtain ⟨⟨j, rfl⟩, -⟩ := scanField_viewCount_ok l.decoder.fields_subset l.viewCount_mem ht
  rcases incOp_cases hv with ⟨hnone, -⟩ | ⟨i, hi, hmax, -⟩ | ⟨-, hno⟩
  · -- Without a counter before, one field more is counted.
    exfalso
    rw [Doc.set_of_get?_none hnone] at hfields
    unfold StreamDecoder.accepted scanDoc at h h'
    unfold StoredDoc.toDoc at h h'
    rw [hfields, hid, ← List.cons_append, List.foldlM_append] at h'
    obtain ⟨⟨s₁, n⟩, hwalk, hcount⟩ := Outcome.bind_eq_ok.mp h
    rw [hwalk, Outcome.ok_bind] at h'
    obtain ⟨⟨s₂, m⟩, hlast, hcount'⟩ := Outcome.bind_eq_ok.mp h'
    rw [List.foldlM_cons] at hlast
    obtain ⟨s₃, hlast, hend⟩ := Outcome.bind_eq_ok.mp hlast
    obtain rfl := Outcome.ok.inj hend
    obtain rfl : m = n + 1 :=
      (scanField_viewCount_ok l.decoder.fields_subset l.viewCount_mem hlast).2
    dsimp only at hcount hcount'
    split_ifs at hcount hcount' with hn hn'
    rw [l.not_accepts_succ hn] at hn'
    cases hn'
  · exact ⟨i, hi, hmax⟩
  · exact absurd rfl (hno j)

/-- A document that is accepted has a counter that can be incremented. -/
theorem StreamList.incOp_isSome_of_accepted (l : StreamList) {d : StoredDoc} {uninit : Uninit}
    {st : StreamType} {s : StreamScan} (h : l.decoder.accepted uninit d.toDoc st = .ok s) :
    (incOp (d.fields.get? streamViewCountField)).isSome := by
  cases hget : d.fields.get? streamViewCountField with
  | none => rfl
  | some w =>
    obtain ⟨n, hscan⟩ := StreamDecoder.scan_of_accepted h
    obtain ⟨t, t', ht⟩ := scanField_of_mem hscan (List.mem_cons_of_mem _ (Doc.mem_of_get? hget))
    obtain ⟨⟨j, rfl⟩, -⟩ := scanField_viewCount_ok l.decoder.fields_subset l.viewCount_mem ht
    rfl

end counter

theorem StreamDecoder.accepted_eq_abort {α : Type} {D : StreamDecoder α} {uninit : Uninit}
    {sdoc : Doc} {st : StreamType} : D.accepted uninit sdoc st = .abort ↔
      scanDoc D.fields (StreamScan.init uninit) sdoc = .abort := by
  unfold StreamDecoder.accepted
  rw [Outcome.bind_eq_abort]
  constructor
  · rintro (h | ⟨⟨s, n⟩, -, h⟩)
    · exact h
    · dsimp only at h
      split_ifs at h
  · exact Or.inl

theorem KeptStream.of_inc {p : Prop} {d d' : StoredDoc} {v : Bson} (hid : d'.id = d.id)
    (hfields : d'.fields = d.fields.set streamViewCountField v)
    (hv : incOp (d.fields.get? streamViewCountField) = some v)
    (hroom : p → ∃ i, d.fields.get? streamViewCountField = some (.int32 i) ∧
      i ≠ Int32.maxValue) : KeptStream p d d' := by
  refine ⟨streamType?_of_fields (by rw [hfields, Doc.get?_set_ne _ _ (by decide)]), fun hp => ?_,
    fun l uninit uninit' st => ?_⟩
  · obtain ⟨i, hi, hmax⟩ := hroom hp
    rw [hi] at hv
    rcases incOp_cases hv with ⟨hnone, -⟩ | ⟨i', -, -, rfl⟩ | ⟨-, hno⟩
    · cases hnone
    · exact .of_views hid hi hfields
    · obtain rfl := Option.some.inj hv
      exact absurd (if_neg hmax) (hno _)
  · rw [ne_eq, StreamDecoder.accepted_eq_abort, ne_eq, StreamDecoder.accepted_eq_abort]
    have hdoc : d'.toDoc = d.toDoc.set streamViewCountField v := by
      unfold StoredDoc.toDoc
      have hne : idField ≠ streamViewCountField := by decide
      rw [Doc.set_cons, if_neg hne, hid, hfields]
    unfold scanDoc
    rw [hdoc]
    refine foldlM_ne_abort_of_inc l.decoder.fields_subset l.viewCount_mem ?_
      (alike_init (u := True) fun hu => absurd trivial hu)
    rwa [StoredDoc.get?_toDoc (by decide)]

/-- A view that is counted. -/
theorem keptBy_incViews {s : Oid} {c : Collection} (hroom : L s → HasRoom db s)
    (h : db.streams.update (StoredDoc.hasId s) streamViewCountField viewCount_ne_id incOp =
      some c) :
    KeptBy L db (db.set .streams c) := by
  refine ⟨forall₂_refl KeptSubscriber.refl _, fun x => ?_, rfl⟩
  show Option.Rel _ (db.streams.findId? x) (c.findId? x)
  have hquery : ∀ d : StoredDoc, d.hasId s = true → d.id = .oid s :=
    fun d hd => StoredDoc.hasId_iff.mp hd
  rcases Collection.update_cases hquery h with
    ⟨-, rfl⟩ | ⟨d, d', v, hd, -, hv, hid, hfields, hd', hother⟩
  · exact optionRel_refl (fun d => .of_alike (.refl d)) _
  · by_cases hx : x = s
    · subst hx
      rw [hd, hd']
      refine .some (.of_inc hid hfields hv fun hL => ?_)
      obtain ⟨d₀, i, hd₀, hi, hmax⟩ := hroom hL
      obtain rfl := Option.some.inj (hd.symm.trans hd₀)
      exact ⟨i, hi, hmax⟩
    · rw [hother x hx]
      exact optionRel_refl (fun d => .of_alike (.refl d)) _

/-! ### The calls -/

section calls

omit [Fastotv]

variable {channel : StreamId} {field : String} {v : Bson} {s : Oid} {login : ServerDBAuthInfo}

/-- A setter that comes to its end has found what it looks up, and leaves the streams alone. -/
theorem finds_of_setUserStreamField
    (h : (setUserStreamField env login channel field v).run db = (.ok s, db')) :
    (∃ u st, SetterFinds env login channel db u s st) ∧ db'.streams = db.streams := by
  by_cases hfinds : ∃ u s st, SetterFinds env login channel db u s st
  · obtain ⟨u, s', st, hfinds⟩ := hfinds
    rw [run_setUserStreamField_of_finds hfinds] at h
    obtain ⟨hs, rfl⟩ := Prod.mk.inj h
    obtain rfl := Outcome.ok.inj hs
    refine ⟨⟨u, st, hfinds⟩, ?_⟩
    rcases hw : (mongoUpdate env .setEntry .subscribers (userHasStream u s' (userArrayField st))
      (userArrayField st) (userArrayField_ne_id st)
      (setElementOp userStreamIdField s' field v)).run db with ⟨o, db₁⟩
    rcases writeBack_cases hw with ⟨-, c, -, -, rfl⟩ | ⟨-, -, rfl⟩ <;> rfl
  · simp only [not_exists] at hfinds
    obtain ⟨err, herr⟩ := run_setUserStreamField_of_not_finds hfinds field v
    rw [herr] at h
    cases (Prod.mk.inj h).1

end calls

theorem keptBy_setUserStreamField {login : ServerDBAuthInfo} {field : String}
    (hsid : field ≠ userStreamIdField) (hpriv : field ≠ privateField) (channel : StreamId)
    (v : Bson) : Within (KeptBy L) (setUserStreamField env login channel field v) := by
  unfold setUserStreamField
  refine within_bind (within_orFail _ _) fun sid => ?_
  refine within_bind (within_reads _) fun sdoc => ?_
  refine within_bind (within_orFail _ _) fun sdoc => ?_
  refine within_bind (within_orFail _ _) fun st => ?_
  refine within_bind (within_orFail _ _) fun oid => ?_
  refine within_bind (within_attempt fun db => ?_) fun _ => within_pure _
  exact rel_writeBack fun _ c hc => keptBy_setEntry hsid hpriv hc

/-- A call whose view, if it counts one of a stream in `L`, finds room. -/
theorem keptBy_applySet {req : SetRequest} (h : CountsFit L db req) :
    KeptBy L db (applySet db req) := by
  obtain ⟨env, login, call⟩ := req
  unfold applySet SetRequest.action
  cases call with
  | favorite info =>
    dsimp only
    unfold setFavorite
    split_ifs
    · exact refl_of (KeptBy L) db
    · exact within_bind (keptBy_setUserStreamField (by decide) (by decide) _ _)
        (fun _ => within_pure _) db
  | interrupt info =>
    dsimp only
    unfold setInterruptTime
    split_ifs
    · exact refl_of (KeptBy L) db
    · exact within_bind (keptBy_setUserStreamField (by decide) (by decide) _ _)
        (fun _ => within_pure _) db
  | recent info =>
    dsimp only
    unfold setRecent
    split_ifs with hvalid
    · exact refl_of (KeptBy L) db
    · refine rel_bind (keptBy_setUserStreamField (by decide) (by decide) _ _ db)
        fun s db₁ hrun => rel_attempt ?_
      obtain ⟨⟨u, st, hfinds⟩, hstreams⟩ := finds_of_setUserStreamField hrun
      refine rel_writeBack fun hwrite c hc => keptBy_incViews (fun hL => ?_) hc
      obtain ⟨d, i, hd, hi, hmax⟩ :=
        h s ⟨info, u, st, rfl, by simpa using hvalid, hwrite, hfinds⟩ hL
      exact ⟨d, i, by rw [hstreams, hd], hi, hmax⟩

/-! ### What stays listed -/

section serials

open LoadBalance.Field SerialField

theorem uniform_serialFields : ∀ fd ∈ serialFields, fd.Uniform := by
  have hepisodes : SerialField.episodes.Uniform := uniform_onArray fun s t a =>
    Outcome.void_bind_congr rfl fun _ _ _ _ => rfl
  simp only [serialFields, List.forall_mem_cons]
  exact ⟨uniform_onOid, uniform_onArray fun _ _ _ => rfl, uniform_onInt32, uniform_onUtf8,
    uniform_onUtf8, uniform_onUtf8, hepisodes, uniform_onBool, by simp⟩

/-- Whether a serial decodes is not a matter of what the locals happen to start with. -/
theorem makeSerialInfo_void (uninit uninit' : Uninit) (sdoc : Doc) :
    (makeSerialInfo uninit sdoc).void = (makeSerialInfo uninit' sdoc).void := by
  unfold makeSerialInfo scanDoc
  refine void_foldlM_congr (forall₂_refl (takenAlike_refl uniform_serialFields) sdoc) ?_
  intro t t' n
  dsimp only
  split_ifs <;> rfl

end serials

variable {e e' : Bson}

/-- What two entries stand for: the same stream, with the same `private` flag. -/
def SameEntry (L : Oid → Prop) (x y : Doc × StoredDoc × StreamType) : Prop :=
  (makeUserStreamInfo (behind [userStreamIdField] y.1)).priv =
      (makeUserStreamInfo (behind [userStreamIdField] x.1)).priv ∧
    (∃ o, x.2.1.id = .oid o ∧ y.2.1.id = .oid o ∧ KeptStream (L o) x.2.1 y.2.1) ∧ y.2.2 = x.2.2

theorem KeptBy.rel_entryStream (h : KeptBy L db db') (he : KeptEntry e e') :
    Option.Rel (SameEntry L) (entryStream db e) (entryStream db' e') := by
  have hdocs : ∀ rec rec', Doc.get? rec' userStreamIdField = Doc.get? rec userStreamIdField →
      (makeUserStreamInfo (behind [userStreamIdField] rec')).priv =
        (makeUserStreamInfo (behind [userStreamIdField] rec)).priv →
      Option.Rel (SameEntry L) (entryStream db (.document rec))
        (entryStream db' (.document rec')) := by
    intro rec rec' hsid hpriv
    unfold entryStream
    dsimp only
    rw [hsid]
    refine optionRel_bind (optionRel_refl (R := Eq) (fun _ => rfl) _) ?_
    rintro o _ rfl
    refine optionRel_bind (optionRel_and (h.streams o) (fun _ => Collection.id_of_findId?)
      fun _ => Collection.id_of_findId?) ?_
    rintro d d' ⟨hd, hd', hkept⟩
    rw [hkept.type]
    refine optionRel_bind (optionRel_refl (R := Eq) (fun _ => rfl) _) ?_
    rintro st _ rfl
    exact .some ⟨hpriv, ⟨o, hd, hd', hkept⟩, rfl⟩
  rcases he with rfl | ⟨rec, rec', rfl, rfl, hsid, hpriv⟩
  · cases e' with
    | document rec => exact hdocs rec rec rfl rfl
    | _ => exact .none
  · exact hdocs rec rec' hsid hpriv

omit [Fastotv] in
theorem KeptEntry.nullSid (he : KeptEntry e e') (h : NullSid e') : NullSid e := by
  rcases he with rfl | ⟨rec, rec', rfl, rfl, hsid, -⟩
  · exact h
  · obtain ⟨rec₁, v, hrec, hv, hnull⟩ := h
    obtain rfl := Bson.document.inj hrec
    exact ⟨rec, v, rfl, hsid ▸ hv, hnull⟩

theorem KeptBy.readable {l : StreamList} {uninit uninit' : Uninit} (h : KeptBy L db db')
    (he : KeptEntry e e') (hread : Readable (l.decoder.decode uninit) db e) :
    Readable (l.decoder.decode uninit') db' e' := by
  refine ⟨fun hnull => hread.1 (he.nullSid hnull), fun rec' d' st' hes' => ?_⟩
  have hrel := h.rel_entryStream he
  rw [hes'] at hrel
  generalize hes : entryStream db e = x at hrel
  cases hrel with
  | some hsame =>
    obtain ⟨-, ⟨o, -, -, hkept⟩, hst⟩ := hsame
    have hreturns := hread.2 _ _ _ hes
    rw [ne_eq, StreamDecoder.decode_eq_abort] at hreturns ⊢
    dsimp only at hst hkept
    rw [hst]
    exact hkept.returns l _ _ _ hreturns

/-- A stream of `L` that an entry is shown as stays so. -/
theorem KeptBy.shows {l : StreamList} {uninit uninit' : Uninit} {o : Oid} (h : KeptBy L db db')
    (he : KeptEntry e e') (ho : L o) (hshows : l.Shows uninit db e o) :
    l.Shows uninit' db' e' o := by
  obtain ⟨rec, d, st, s, hes, hacc, hvisible, htakes, hid⟩ := hshows
  have hrel := h.rel_entryStream he
  rw [hes] at hrel
  generalize hes' : entryStream db' e' = y at hrel
  cases hrel with
  | @some x y hsame =>
    obtain ⟨hpriv, ⟨o', hid₁, hid₂, hkept⟩, hst⟩ := hsame
    obtain rfl := Bson.oid.inj (hid.symm.trans hid₁)
    have hu : ¬True → uninit' = uninit := fun h => absurd trivial h
    have hacc' := (hkept.alike ho).accepted l.decoder hu st
    rw [hacc] at hacc'
    generalize hx : l.decoder.accepted uninit' y.2.1.toDoc st = z at hacc'
    cases hacc' with
    | @ok _ s' hss =>
      obtain ⟨views, parts, start, stop, rfl, -, -⟩ := hss
      obtain rfl : y.2.2 = st := hst
      exact ⟨y.1, y.2.1, y.2.2, _, hes', hx, hvisible, hpriv ▸ htakes, hid₂⟩

/-- What the setters keep is enough. -/
theorem staysListed_of_keptBy (h : KeptBy (Listed db) db db') : StaysListed db db' := by
  intro env env' auth r hr
  obtain ⟨hauth, sub, hsub, hnull⟩ := clientGetChannels_returns_iff.mp ⟨r, hr⟩
  have hrel : Option.Rel KeptSubscriber (findByEmail db auth.login)
      (findByEmail db' auth.login) := by
    refine rel_find? h.subscribers fun d d' hd => ?_
    unfold Doc.fieldMatches
    rw [hd.others emailField (by intro l; cases l <;> decide)]
  rw [hsub] at hrel
  generalize hsub' : findByEmail db' auth.login = x at hrel
  cases hrel with
  | @some _ sub' hkept =>
    have hothers : ∀ k, (∀ l : StreamList, k ≠ l.array) →
        arrayField sub'.toDoc k = arrayField sub.toDoc k := by
      intro k hk
      unfold arrayField
      rw [hkept.others k hk]
    have hentry : ∀ (l : StreamList), ∀ e' ∈ arrayField sub'.toDoc l.array,
        ∃ e ∈ arrayField sub.toDoc l.array, KeptEntry e e' :=
      fun l e' he' => exists_of_forall₂_right (hkept.entries l) he'
    have hnull' : NoNullIds env' db' sub'.toDoc := by
      refine ⟨fun e' he' => ?_, fun e' he' => ?_, fun e' he' => ?_, fun e he => ?_, fun e he => ?_⟩
      · obtain ⟨e, he, hee⟩ := hentry .chans e' he'
        exact h.readable (l := .chans) hee (hnull.streams e he)
      · obtain ⟨e, he, hee⟩ := hentry .vods e' he'
        exact h.readable (l := .vods) hee (hnull.vods e he)
      · obtain ⟨e, he, hee⟩ := hentry .catchups e' he'
        exact h.readable (l := .catchups) hee (hnull.catchups e he)
      · rw [hothers seriesField (by intro l; cases l <;> decide)] at he
        obtain ⟨sid, rfl, hserial⟩ := hnull.series e he
        refine ⟨sid, rfl, fun sdoc hsdoc habort => hserial sdoc (h.series ▸ hsdoc) ?_⟩
        have hvoid := makeSerialInfo_void env'.uninit env.uninit sdoc.toDoc
        rw [habort] at hvoid
        cases hm : makeSerialInfo env.uninit sdoc.toDoc with
        | abort => rfl
        | ok _ | error _ => rw [hm] at hvoid; cases hvoid
      · rw [hothers requestsField (by intro l; cases l <;> decide)] at he
        exact hnull.requests e he
    obtain ⟨r', hr'⟩ := clientGetChannels_returns_iff.mpr ⟨hauth, sub', hsub', hnull'⟩
    refine ⟨r', hr', fun l x hx => ?_⟩
    obtain ⟨e, he, o, hshows, rfl⟩ := (mem_ids_iff hr hsub l x).mp hx
    obtain ⟨e', he', hee⟩ := exists_of_forall₂_left (hkept.entries l) he
    exact (mem_ids_iff hr' hsub' l _).mpr
      ⟨e', he', o, h.shows hee ⟨env, auth, r, l, hr, hx⟩ hshows, rfl⟩

/-! ### And what does not -/

/-- A stream that is shown has a document that is accepted. -/
theorem StreamList.Shows.accepted {l : StreamList} {uninit : Uninit} {o : Oid}
    (h : l.Shows uninit db e o) :
    ∃ d st s, db.streams.findId? o = some d ∧ streamType? d.toDoc = some st ∧
      l.decoder.accepted uninit d.toDoc st = .ok s := by
  obtain ⟨rec, d, st, s, hes, hacc, -, -, hid⟩ := h
  obtain ⟨-, oid, -, hd, hst⟩ := entryStream_eq_some.mp hes
  obtain rfl := Bson.oid.inj (hid.symm.trans (Collection.id_of_findId? hd))
  exact ⟨d, st, s, hd, hst, hacc⟩

/-- What a call that counts a view does to the streams. -/
theorem streams_applySet {req : SetRequest} {s : Oid} (h : req.Counts db s) :
    (∃ c, db.streams.update (StoredDoc.hasId s) streamViewCountField viewCount_ne_id incOp =
        some c ∧ (applySet db req).streams = c) ∨
      db.streams.update (StoredDoc.hasId s) streamViewCountField viewCount_ne_id incOp = none := by
  obtain ⟨env, login, call⟩ := req
  obtain ⟨info, u, st, rfl, hvalid, hwrite, hfinds⟩ := h
  dsimp only at hwrite hfinds
  have hrun := run_setUserStreamField_of_finds hfinds recentField (.dateTime info.timestamp)
  obtain ⟨-, hstreams⟩ := finds_of_setUserStreamField hrun
  unfold applySet SetRequest.action
  dsimp only
  unfold setRecent
  rw [if_neg (by simp [hvalid]), run_bind_of_ok hrun, run_attempt]
  generalize ((mongoUpdate env .setEntry .subscribers (userHasStream u s (userArrayField st))
    (userArrayField st) (userArrayField_ne_id st) (setElementOp userStreamIdField s recentField
    (.dateTime info.timestamp))).run db).2 = db₁ at hstreams ⊢
  rw [← hstreams]
  rcases hw : (mongoUpdate env .incViews .streams (StoredDoc.hasId s) streamViewCountField
    viewCount_ne_id incOp).run db₁ with ⟨o, db₂⟩
  rcases writeBack_cases hw with ⟨-, c, hc, rfl, rfl⟩ | ⟨hno, -, -⟩
  · exact Or.inl ⟨c, hc, rfl⟩
  · refine Or.inr (hno.resolve_left ?_)
    rw [hwrite]
    decide

/-- A view for which there is no room takes the stream out of the lists. -/
theorem countsFit_of_staysListed {db₀ : Database} {req : SetRequest}
    (hkept : KeptBy (Listed db₀) db₀ db) (hstays : StaysListed db₀ (applySet db req)) :
    CountsFit (Listed db₀) db req := by
  intro s hcounts hlisted
  obtain ⟨env, auth, r, l, hr, hs⟩ := id hlisted
  obtain ⟨r', hr', hstill⟩ := hstays env env auth r hr
  obtain ⟨-, sub, hsub, -⟩ := clientGetChannels_returns_iff.mp ⟨r, hr⟩
  obtain ⟨-, sub', hsub', -⟩ := clientGetChannels_returns_iff.mp ⟨r', hr'⟩
  obtain ⟨e, -, o, hshows, htext⟩ := (mem_ids_iff hr hsub l _).mp hs
  obtain rfl := Oid.text_injective htext
  obtain ⟨e', -, o', hshows', htext'⟩ := (mem_ids_iff hr' hsub' l _).mp (hstill l hs)
  obtain rfl := Oid.text_injective htext'
  -- It was accepted before the call, and is after it.
  have hshown : l.Shows env.uninit db e s := hkept.shows (.inl rfl) hlisted hshows
  obtain ⟨d, st, scan, hd, hst, hacc⟩ := hshown.accepted
  obtain ⟨d', st', scan', hd', hst', hacc'⟩ := hshows'.accepted
  have hinc := l.incOp_isSome_of_accepted hacc
  have hquery : ∀ d : StoredDoc, d.hasId s = true → d.id = .oid s :=
    fun d hd => StoredDoc.hasId_iff.mp hd
  rcases streams_applySet hcounts with ⟨c, hc, hstreams⟩ | hnone
  · rw [hstreams] at hd'
    rcases Collection.update_cases hquery hc with
      ⟨hno, -⟩ | ⟨d₁, d₂, v, hd₁, -, hv, hid, hfields, hd₂, -⟩
    · have hhas := StoredDoc.hasId_iff.mpr (Collection.id_of_findId? hd)
      rw [hno d hd] at hhas
      cases hhas
    · obtain rfl := Option.some.inj (hd.symm.trans hd₁)
      obtain rfl := Option.some.inj (hd'.symm.trans hd₂)
      have htype : streamType? d'.toDoc = streamType? d.toDoc :=
        streamType?_of_fields (by rw [hfields, Doc.get?_set_ne _ _ (by decide)])
      obtain rfl := Option.some.inj (hst'.symm.trans (htype.trans hst))
      obtain ⟨i, hi, hmax⟩ := l.room_of_accepted hid hfields hv hacc hacc'
      exact ⟨d, i, hd, hi, hmax⟩
  · -- The server has no reason to refuse the operator.
    have hsome : ∃ c, db.streams.update (StoredDoc.hasId s) streamViewCountField viewCount_ne_id
        incOp = some c := by
      refine Collection.update_isSome fun d₁ hd₁ hq => ?_
      obtain rfl := db.streams.eq_of_id_eq hd₁ (Collection.mem_of_find? hd)
        ((hquery d₁ hq).trans (Collection.id_of_findId? hd).symm)
      exact hinc
    obtain ⟨c, hc⟩ := hsome
    rw [hnone] at hc
    cases hc

/-- What was listed stays listed throughout a run of calls if and only if each view that is counted
of a stream which was listed finds room in the counter. -/
theorem listed_kept_iff (db : Database) (calls : List SetRequest) :
    (∀ before, before <+: calls → StaysListed db (run applySet db before)) ↔
      Meets applySet (CountsFit (Listed db)) db calls :=
  forall_prefix_iff_meets (P := KeptBy (Listed db) db) (Q := StaysListed db)
    (fun _ => staysListed_of_keptBy)
    (fun _ _ hkept hfit => trans_of (KeptBy (Listed db)) hkept (keptBy_applySet hfit))
    (fun _ _ => countsFit_of_staysListed) (refl_of (KeptBy (Listed db)) db) calls

end

/-! A channel that has been watched as often as an int32 can tell. -/

namespace Sample

def wornDoc : StoredDoc where
  id := .oid (oid 2)
  fields := Doc.set (channelDoc (oid 2) relayStr true).fields streamViewCountField
    (.int32 Int32.maxValue)
  no_id := by decide

def wornDatabase : Database :=
  database (subscriber userStreamsField userStreams_ne_id [userStreamEntry (oid 2)]) [wornDoc]
    (List.nodup_singleton _)

end Sample

open Sample in
/-- It is listed, and watching it once more takes it out of the list. -/
theorem watched_once_too_often :
    (clientGetChannels env wornDatabase auth).toOption.map StreamList.chans.ids =
        some [(oid 2).text] ∧
      ¬StaysListed wornDatabase (run applySet wornDatabase [watchedCall]) := by
  have hbefore : (clientGetChannels env wornDatabase auth).toOption.map StreamList.chans.ids =
      some [(oid 2).text] := by decide
  have hafter : (clientGetChannels env (run applySet wornDatabase [watchedCall]) auth).toOption.map
      StreamList.chans.ids = some [] := by decide
  refine ⟨hbefore, fun hstays => ?_⟩
  obtain ⟨r, hr, hids⟩ := Option.map_eq_some_iff.mp hbefore
  obtain ⟨r', hr', hstill⟩ := hstays env env auth r (Outcome.toOption_eq_some.mp hr)
  have hmem := hstill .chans (hids ▸ List.mem_singleton_self _)
  obtain ⟨r'', hr'', hids'⟩ := Option.map_eq_some_iff.mp hafter
  obtain rfl := Outcome.ok.inj (hr'.symm.trans (Outcome.toOption_eq_some.mp hr''))
  rw [hids'] at hmem
  cases hmem

end LoadBalance
