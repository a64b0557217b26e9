import LoadBalance.Mongo.Equiv.ClientGetChannels
import Mathlib.Algebra.BigOperators.Ring.Finset
import Mathlib.Algebra.Group.Action.Defs
import Mathlib.Data.Nat.ModEq

/-!
# The views of a series

For a series `ClientGetChannels` sums up the views of its episodes: it goes over the list of their
ids, as often as each is in it, and looks among the VODs of the public list.  What comes out is the
sum over the ids, each once and wherever its VOD is listed, exactly when what the repetitions add
is what the episodes in the private list only would have (`series_totals_iff`).
-/

namespace LoadBalance

section

variable [Fastotv]

/-! ### What the total stands for -/

/-- The views by id of the serials among the VODs of a reply, wherever they are listed; none for an
id without one. -/
structure SerialViews (r : Catalogue) (views : StreamId → ℕ) : Prop where
  listed : ∀ v ∈ r.vods ++ r.pvods, Fastotv.isSerial v.movie.type = true →
    views v.streamId = v.viewCount.toNat
  absent : ∀ id, (∀ v ∈ r.vods ++ r.pvods, Fastotv.isSerial v.movie.type = true →
    v.streamId ≠ id) → views id = 0

/-- The total of a series is the sum of the views of its episodes, each of them taken once. -/
def TotalMatches (r : Catalogue) (ser : SerialInfo) : Prop :=
  ∃ views, SerialViews r views ∧
    ser.viewCount.toNat = ∑ id ∈ ser.episodes.toFinset, views id

/-- They do not depend on the order of the VODs, nor on which of the two lists a VOD is in. -/
theorem SerialViews.congr {r r' : Catalogue} {views : StreamId → ℕ}
    (hmem : ∀ v, v ∈ r'.vods ++ r'.pvods ↔ v ∈ r.vods ++ r.pvods) (h : SerialViews r views) :
    SerialViews r' views :=
  ⟨fun v hv => h.listed v ((hmem v).mp hv),
    fun id habsent => h.absent id fun v hv => habsent v ((hmem v).mpr hv)⟩

/-! ### The sum over a list -/

/-- The VOD is a serial with this id. -/
def isEpisode (id : StreamId) (v : VodInfo) : Bool :=
  Fastotv.isSerial v.movie.type && v.streamId = id

/-- The views of the first serial with this id, none without one. -/
def viewsOf (vods : List VodInfo) (id : StreamId) : ℕ :=
  ((vods.find? (isEpisode id)).map fun v => v.viewCount.toNat).getD 0

theorem isEpisode_iff {id : StreamId} {v : VodInfo} :
    isEpisode id v = true ↔ Fastotv.isSerial v.movie.type = true ∧ v.streamId = id := by
  unfold isEpisode
  rw [Bool.and_eq_true, decide_eq_true_iff]

/-- What the loop adds for one more id: the views of the first serial with it. -/
theorem episodeViews_concat (vods : List VodInfo) (episodes : List StreamId) (id : StreamId) :
    episodeViews vods (episodes ++ [id]) =
      episodeViews vods episodes +
        ((vods.find? (isEpisode id)).map fun v : VodInfo => v.viewCount).getD 0 := by
  have hfind : (vods.find? fun v => Fastotv.isSerial v.movie.type && v.streamId = id) =
      vods.find? (isEpisode id) := rfl
  unfold episodeViews
  rw [List.foldl_append, List.foldl_cons, List.foldl_nil, hfind]
  cases vods.find? (isEpisode id) with
  | none => exact (UInt64.add_zero _).symm
  | some v => rfl

/-- What the loop over the episodes leaves. -/
theorem toNat_episodeViews (vods : List VodInfo) (episodes : List StreamId) :
    (episodeViews vods episodes).toNat = (episodes.map (viewsOf vods)).sum % 2 ^ 64 := by
  induction episodes using List.reverseRecOn with
  | nil => rfl
  | append_singleton episodes id ih =>
    have hviews : (((vods.find? (isEpisode id)).map fun v : VodInfo => v.viewCount).getD 0).toNat =
        viewsOf vods id := by
      unfold viewsOf
      cases vods.find? (isEpisode id) <;> rfl
    rw [episodeViews_concat, UInt64.toNat_add, ih, hviews, List.map_append, List.sum_append,
      List.map_singleton, List.sum_singleton, Nat.mod_add_mod]

omit [Fastotv] in
/-- A sum along a list is the sum over its elements and what the repetitions add. -/
theorem sum_map_eq_add_repeated (l : List StreamId) (f : StreamId → ℕ) :
    (l.map f).sum = ∑ x ∈ l.toFinset, f x + ∑ x ∈ l.toFinset, (l.count x - 1) * f x := by
  rw [Finset.sum_list_map_count, ← Finset.sum_add_distrib]
  refine Finset.sum_congr rfl fun x hx => ?_
  obtain ⟨n, hn⟩ : ∃ n, l.count x = n + 1 :=
    Nat.exists_eq_add_one.mpr (List.count_pos_iff.mpr (List.mem_toFinset.mp hx))
  rw [hn, smul_eq_mul, Nat.add_sub_cancel, Nat.add_mul, Nat.one_mul, Nat.add_comm]

/-! ### Public and private -/

/-- The views that the loop finds for an id. -/
def publicViews (vods : List (Bool × VodInfo)) (id : StreamId) : ℕ :=
  viewsOf (withPrivate false vods) id

/-- The views of an id that it does not find, as the serial is in the private list only. -/
def missedViews (vods : List (Bool × VodInfo)) (id : StreamId) : ℕ :=
  if (withPrivate false vods).any (isEpisode id) then 0 else viewsOf (withPrivate true vods) id

/-- Each of the ids in both lists is looked for in the public one first. -/
theorem viewsOf_append (vods : List (Bool × VodInfo)) (id : StreamId) :
    viewsOf (withPrivate false vods ++ withPrivate true vods) id =
      publicViews vods id + missedViews vods id := by
  unfold publicViews missedViews viewsOf
  rw [List.find?_append]
  cases hfind : (withPrivate false vods).find? (isEpisode id) with
  | none =>
    have hnone : ¬ (withPrivate false vods).any (isEpisode id) = true := by
      rw [List.any_eq_true]
      rintro ⟨v, hv, hep⟩
      exact List.find?_eq_none.mp hfind v hv hep
    rw [if_neg hnone]
    simp
  | some v =>
    have hsome : (withPrivate false vods).any (isEpisode id) = true :=
      List.any_eq_true.mpr ⟨v, List.mem_of_find?_eq_some hfind, List.find?_some hfind⟩
    rw [if_pos hsome]
    simp

/-- What the repetitions among the episodes add is what those in the private list only would have,
and 64 bits hold the total. -/
structure EpisodesFit (vods : List (Bool × VodInfo)) (episodes : List StreamId) : Prop where
  repeated : ∑ id ∈ episodes.toFinset, (episodes.count id - 1) * publicViews vods id ≡
    ∑ id ∈ episodes.toFinset, missedViews vods id [MOD 2 ^ 64]
  fits : ∑ id ∈ episodes.toFinset, (publicViews vods id + missedViews vods id) < 2 ^ 64

/-- The sum that is taken is the one over the ids exactly then. -/
theorem toNat_episodeViews_eq_iff (vods : List (Bool × VodInfo)) (episodes : List StreamId) :
    (episodeViews (withPrivate false vods) episodes).toNat =
        ∑ id ∈ episodes.toFinset, viewsOf (withPrivate false vods ++ withPrivate true vods) id ↔
      EpisodesFit vods episodes := by
  have hsum : ∑ id ∈ episodes.toFinset,
      viewsOf (withPrivate false vods ++ withPrivate true vods) id =
      ∑ id ∈ episodes.toFinset, (publicViews vods id + missedViews vods id) :=
    Finset.sum_congr rfl fun id _ => viewsOf_append vods id
  have hsplit := Finset.sum_add_distrib (s := episodes.toFinset) (f := publicViews vods)
    (g := missedViews vods)
  have hlist : (episodes.map (viewsOf (withPrivate false vods))).sum =
      ∑ id ∈ episodes.toFinset, publicViews vods id +
        ∑ id ∈ episodes.toFinset, (episodes.count id - 1) * publicViews vods id :=
    sum_map_eq_add_repeated episodes (publicViews vods)
  rw [toNat_episodeViews, hlist, hsum]
  constructor
  · intro heq
    have hlt : (∑ id ∈ episodes.toFinset, publicViews vods id +
        ∑ id ∈ episodes.toFinset, (episodes.count id - 1) * publicViews vods id) % 2 ^ 64 < 2 ^ 64 :=
      Nat.mod_lt _ (by decide)
    refine ⟨?_, heq ▸ hlt⟩
    unfold Nat.ModEq
    omega
  · rintro ⟨hrepeated, hfits⟩
    unfold Nat.ModEq at hrepeated
    omega

/-! ### The VODs of a subscriber -/

variable {env : Env} {db : Database} {auth : AuthInfo}

/-- What the entries of the array `vods` stand for, with their `private` flags. -/
def entryVods (env : Env) (db : Database) (doc : Doc) : List (Bool × VodInfo) :=
  (arrayField doc userVodsField).filterMap (readInfo (makeVodInfo env.uninit) (fun _ => true) db)

/-- An element of the array `series` stands for a serial with these episodes. -/
def ListsEpisodes (uninit : Uninit) (db : Database) (e : Bson) (episodes : List StreamId) : Prop :=
  ∃ sid sdoc ser visible, e = .oid sid ∧ db.series.findId? sid = some sdoc ∧
    makeSerialInfo uninit sdoc.toDoc = .ok (ser, visible) ∧ ser.episodes = episodes

/-- Two VODs with one id are of one stream document, and so have the same views. -/
theorem viewCount_of_streamId {doc : Doc}
    (hwalk : walk (listedVod env db) (arrayField doc userVodsField) = .ok (entryVods env db doc))
    {x y : Bool × VodInfo} (hx : x ∈ entryVods env db doc) (hy : y ∈ entryVods env db doc)
    (hid : x.2.streamId = y.2.streamId) : x.2.viewCount = y.2.viewCount := by
  obtain ⟨e, he, rec, sdoc, st, s, hes, hs, -, rfl⟩ :=
    (mem_walk_listedInfo_iff vodDecoder hwalk).mp hx
  obtain ⟨e', he', rec', sdoc', st', s', hes', hs', -, rfl⟩ :=
    (mem_walk_listedInfo_iff vodDecoder hwalk).mp hy
  obtain ⟨o, ho, htext⟩ := StreamDecoder.streamId_of_accepted
    (u := makeUserStreamInfo (behind [userStreamIdField] rec)) hs
  obtain ⟨o', ho', htext'⟩ := StreamDecoder.streamId_of_accepted
    (u := makeUserStreamInfo (behind [userStreamIdField] rec')) hs'
  have hoid : o = o' := Oid.text_inj.mp (htext.symm.trans (hid.trans htext'))
  obtain ⟨-, oid, -, hfind, hst⟩ := entryStream_eq_some.mp hes
  obtain ⟨-, oid', -, hfind', hst'⟩ := entryStream_eq_some.mp hes'
  have hsame : sdoc = sdoc' := db.streams.eq_of_id_eq (Collection.mem_of_find? hfind)
    (Collection.mem_of_find? hfind') (ho.trans (hoid ▸ ho'.symm))
  subst hsame
  obtain rfl := Option.some.inj (hst.symm.trans hst')
  obtain rfl := Outcome.ok.inj (hs.symm.trans hs')
  rfl

/-- The views that the loop looks for are those by id. -/
theorem serialViews_viewsOf {doc : Doc} {r : Catalogue}
    (hwalk : walk (listedVod env db) (arrayField doc userVodsField) = .ok (entryVods env db doc))
    (hvods : r.vods = withPrivate false (entryVods env db doc))
    (hpvods : r.pvods = withPrivate true (entryVods env db doc)) :
    SerialViews r (viewsOf (r.vods ++ r.pvods)) := by
  have hmem : ∀ v ∈ r.vods ++ r.pvods, ∃ priv, (priv, v) ∈ entryVods env db doc := by
    intro v hv
    rw [hvods, hpvods, List.mem_append, mem_withPrivate, mem_withPrivate] at hv
    exact hv.elim (fun h => ⟨false, h⟩) fun h => ⟨true, h⟩
  refine ⟨fun v hv hserial => ?_, fun id habsent => ?_⟩
  · unfold viewsOf
    cases hfind : (r.vods ++ r.pvods).find? (isEpisode v.streamId) with
    | none => exact absurd (isEpisode_iff.mpr ⟨hserial, rfl⟩) (List.find?_eq_none.mp hfind v hv)
    | some w =>
      -- The one that is found may be another entry of the same stream.
      obtain ⟨priv, hw⟩ := hmem w (List.mem_of_find?_eq_some hfind)
      obtain ⟨priv', hv'⟩ := hmem v hv
      have hid : w.streamId = v.streamId := (isEpisode_iff.mp (List.find?_some hfind)).2
      exact congrArg UInt64.toNat (viewCount_of_streamId hwalk hw hv' hid)
  · unfold viewsOf
    have hnone : (r.vods ++ r.pvods).find? (isEpisode id) = none := by
      rw [List.find?_eq_none]
      intro v hv hep
      exact habsent v hv (isEpisode_iff.mp hep).1 (isEpisode_iff.mp hep).2
    rw [hnone]
    rfl

/-- The views by id are no others. -/
theorem SerialViews.eq_viewsOf {r : Catalogue} {views : StreamId → ℕ} (h : SerialViews r views)
    (id : StreamId) : views id = viewsOf (r.vods ++ r.pvods) id := by
  unfold viewsOf
  cases hfind : (r.vods ++ r.pvods).find? (isEpisode id) with
  | none =>
    exact h.absent id fun v hv hserial hid =>
      List.find?_eq_none.mp hfind v hv (isEpisode_iff.mpr ⟨hserial, hid⟩)
  | some v =>
    obtain ⟨hserial, rfl⟩ := isEpisode_iff.mp (List.find?_some hfind)
    exact h.listed v (List.mem_of_find?_eq_some hfind) hserial

/-- The totals of a reply are right exactly when, for each of the series that the subscriber has,
what repeated episodes add is what private ones would have. -/
theorem series_totals_iff (env : Env) (db : Database) (auth : AuthInfo) :
    (∀ r, clientGetChannels env db auth = .ok r → ∀ ser ∈ r.series, TotalMatches r ser) ↔
      ∀ sub, Fastotv.authValid auth = true → findByEmail db auth.login = some sub →
        NoNullIds env db sub.toDoc → ∀ e ∈ arrayField sub.toDoc seriesField, ∀ episodes,
          ListsEpisodes env.uninit db e episodes →
            EpisodesFit (entryVods env db sub.toDoc) episodes := by
  constructor
  · rintro h sub hauth hsub hnull _ he _ ⟨sid, sdoc, ser, visible, rfl, hfind, hmake, rfl⟩
    obtain ⟨r, hr⟩ := clientGetChannels_returns_iff.mpr ⟨hauth, sub, hsub, hnull⟩
    obtain ⟨-, sub', hsub', chans, vods, catchups, series, requests, -, hv, -, hse, -, hr'⟩ :=
      clientGetChannels_eq_ok.mp hr
    obtain rfl := Option.some.inj (hsub.symm.trans hsub')
    have hwalk : walk (listedVod env db) (arrayField sub.toDoc userVodsField) =
        .ok (entryVods env db sub.toDoc) := walk_listedInfo vodDecoder hnull.vods
    obtain rfl : vods = entryVods env db sub.toDoc := Outcome.ok.inj (hv.symm.trans hwalk)
    have hser : { ser with
        viewCount := episodeViews (withPrivate false (entryVods env db sub.toDoc)) ser.episodes } ∈
          r.series := by
      rw [hr']
      exact (mem_of_walk hse).mpr ⟨_, he, listedSerial_eq_some.mpr
        ⟨sid, sdoc, ser, visible, rfl, hfind, hmake, rfl⟩⟩
    obtain ⟨views, hviews, htotal⟩ := h r hr _ hser
    rw [← toNat_episodeViews_eq_iff]
    rw [htotal]
    refine Finset.sum_congr rfl fun id _ => ?_
    rw [hviews.eq_viewsOf, hr']
  · intro h r hr ser hser
    obtain ⟨hauth, sub, hsub, hnull⟩ := clientGetChannels_returns_iff.mp ⟨r, hr⟩
    obtain ⟨-, sub', hsub', chans, vods, catchups, series, requests, -, hv, -, hse, -, hr'⟩ :=
      clientGetChannels_eq_ok.mp hr
    obtain rfl := Option.some.inj (hsub.symm.trans hsub')
    have hwalk : walk (listedVod env db) (arrayField sub.toDoc userVodsField) =
        .ok (entryVods env db sub.toDoc) := walk_listedInfo vodDecoder hnull.vods
    obtain rfl : vods = entryVods env db sub.toDoc := Outcome.ok.inj (hv.symm.trans hwalk)
    have hvods : r.vods = withPrivate false (entryVods env db sub.toDoc) := by rw [hr']
    have hpvods : r.pvods = withPrivate true (entryVods env db sub.toDoc) := by rw [hr']
    rw [hr'] at hser
    obtain ⟨e, he, hread⟩ := (mem_of_walk hse).mp hser
    obtain ⟨sid, sdoc, ser', visible, rfl, hfind, hmake, rfl⟩ := listedSerial_eq_some.mp hread
    refine ⟨_, serialViews_viewsOf hv hvods hpvods, ?_⟩
    rw [hvods, hpvods]
    exact (toNat_episodeViews_eq_iff _ _).mpr
      (h sub hauth hsub hnull _ he _ ⟨sid, sdoc, ser', visible, rfl, hfind, hmake, rfl⟩)

end

/-! A subscriber with a series of one episode, whose entry is private. -/

namespace Sample

/-- An episode that was viewed seven times. -/
def episodeDoc (o : Oid) : StoredDoc where
  id := .oid o
  fields := ((vodDoc o true).fields.set vodTypeField (.int32 1)).set streamViewCountField (.int32 7)
  no_id := by
    simp only [vodDoc]
    decide

def serialDoc (o : Oid) (episodes : List Oid) : StoredDoc where
  id := .oid o
  fields := [(serialGroupsField, .array []), (serialSeasonField, .int32 1),
    (serialNameField, .utf8 "Saga"), (serialIconField, .utf8 "http://icon"),
    (serialDescriptionField, .utf8 "A saga"), (serialEpisodesField, .array (episodes.map .oid))]
  no_id := by simp only [Doc.keys, List.map_cons, List.map_nil]; decide

def sagaSubscriber : StoredDoc where
  id := .oid (oid 1)
  fields := [(emailField, .utf8 "a@b.c"),
    (userVodsField, .array
      [.document (Doc.set (userStreamEntry (oid 3)) privateField (.bool true))]),
    (seriesField, .array [.oid (oid 4)])]
  no_id := by simp only [Doc.keys, List.map_cons, List.map_nil]; decide

def sagaDatabase : Database :=
  { database sagaSubscriber [episodeDoc (oid 3)] (List.nodup_singleton _) with
    series := ⟨[serialDoc (oid 4) [oid 3]], List.nodup_singleton _⟩ }

end Sample

open Sample in
/-- Seven views of the episode, and none of the series. -/
theorem private_episode_not_counted :
    ¬ ∀ (env : Env) (db : Database) (auth : AuthInfo) (r : Catalogue),
      clientGetChannels env db auth = .ok r → ∀ ser ∈ r.series, TotalMatches r ser := by
  intro h
  have hreply : clientGetChannels env sagaDatabase auth = .ok (shownCatalogue sagaDatabase) := by
    decide
  have hser : ∃ ser ∈ (shownCatalogue sagaDatabase).series,
      ser.viewCount = 0 ∧ ser.episodes = [(oid 3).text] := by decide
  obtain ⟨ser, hmem, hzero, hepisodes⟩ := hser
  obtain ⟨views, hviews, htotal⟩ := h env sagaDatabase auth _ hreply ser hmem
  have hseven : viewsOf ((shownCatalogue sagaDatabase).vods ++ (shownCatalogue sagaDatabase).pvods)
      (oid 3).text = 7 := by decide
  rw [hzero, hepisodes, List.toFinset_cons, List.toFinset_nil, insert_empty_eq,
    Finset.sum_singleton, hviews.eq_viewsOf, hseven] at htotal
  exact absurd htotal (by decide)

end LoadBalance
