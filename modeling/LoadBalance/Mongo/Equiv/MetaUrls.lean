import LoadBalance.Mongo.Equiv.ClientGetChannels

/-!
# The meta urls of a stream

The loop over a meta array is the same in the three stream decoders.  It looks for the name and then
for the url with one iterator, which only moves forward, so a url that stands before the name is
not found (`metaUrl_lost`).  The meta urls of an info are those of its document's elements exactly
when each element that holds one has it in that order (`meta_urls_iff`).
-/

namespace LoadBalance

section

variable [Fastotv]

/-! ### Elements that hold a meta url -/

/-- What the library promises of meta urls: one is not valid as long as its name or its url was not
set. -/
structure MetaUrlLaws : Prop where
  noName : ∀ url, Fastotv.metaUrlValid { Fastotv.metaUrl with url := url } = false
  noUrl : ∀ name, Fastotv.metaUrlValid { Fastotv.metaUrl with name := name } = false

/-- The meta url of a name and a url, as they stand in a document. -/
def linkOf (name uri : String) : MetaUrl := ⟨cstr name, Fastotv.gurl (cstr uri)⟩

/-- The element is a document with a string name and a string url that form this meta url, which is
a valid one. -/
def HoldsMetaUrl (e : Bson) (url : MetaUrl) : Prop :=
  ∃ (rec : Doc) (name uri : String), e = .document rec ∧ (nameField, .utf8 name) ∈ rec ∧
    (urlField, .utf8 uri) ∈ rec ∧ url = linkOf name uri ∧ Fastotv.metaUrlValid url = true

/-- The meta urls of the elements that hold one, in the order of the elements. -/
inductive MetaUrlsOf : List Bson → List MetaUrl → Prop where
  | nil : MetaUrlsOf [] []
  | held {e : Bson} {url : MetaUrl} {es : List Bson} {urls : List MetaUrl}
      (he : HoldsMetaUrl e url) (hes : MetaUrlsOf es urls) : MetaUrlsOf (e :: es) (url :: urls)
  | none {e : Bson} {es : List Bson} {urls : List MetaUrl} (he : ∀ url, ¬HoldsMetaUrl e url)
      (hes : MetaUrlsOf es urls) : MetaUrlsOf (e :: es) urls

/-- The first name of the document, and the first url behind it, are strings that form this meta
url, which is a valid one. -/
def NameThenUrl (rec : Doc) (url : MetaUrl) : Prop :=
  ∃ name uri, rec.get? nameField = some (.utf8 name) ∧
    Doc.get? (iterFind nameField rec).2 urlField = some (.utf8 uri) ∧
    url = linkOf name uri ∧ Fastotv.metaUrlValid url = true

/-- Every element that holds a meta url has one in the order in which the decoders look for it. -/
def NamesFirst (es : List Bson) : Prop :=
  ∀ e ∈ es, (∃ url, HoldsMetaUrl e url) → ∃ rec url, e = .document rec ∧ NameThenUrl rec url

/-! ### One element -/

/-- The meta url that the loop makes of an element. -/
def metaUrl? : Bson → Option MetaUrl
  | .document rec =>
    if Fastotv.metaUrlValid (metaUrl rec) then some (metaUrl rec) else none
  | _ => none

theorem metaUrls_eq_filterMap (es : List Bson) : metaUrls es = es.filterMap metaUrl? := by
  unfold metaUrls
  congr 1

/-- Only a name with a url behind it is taken. -/
theorem valid_metaUrl_iff (laws : MetaUrlLaws) {rec : Doc} {url : MetaUrl} :
    (metaUrl rec = url ∧ Fastotv.metaUrlValid (metaUrl rec) = true) ↔ NameThenUrl rec url := by
  have hname : (iterFind nameField rec).1 = rec.get? nameField := iterFind_fst _ _
  have huri : (iterFind urlField (iterFind nameField rec).2).1 =
      Doc.get? (iterFind nameField rec).2 urlField := iterFind_fst _ _
  unfold NameThenUrl metaUrl
  dsimp only
  rw [hname, huri]
  -- A value that is no string counts as none.
  have hstring : ∀ v : Option Bson, (v.bind Bson.asUtf8? = none ∧ ∀ x, v ≠ some (.utf8 x)) ∨
      ∃ x, v = some (.utf8 x) := by
    intro v
    cases v with
    | none => exact Or.inl ⟨rfl, fun _ => nofun⟩
    | some v =>
      cases v with
      | utf8 x => exact Or.inr ⟨x, rfl⟩
      | _ => exact Or.inl ⟨rfl, fun _ => nofun⟩
  rcases hstring (rec.get? nameField) with ⟨hnone, hno⟩ | ⟨name, hname'⟩
  · rw [hnone]
    refine iff_of_false ?_ fun ⟨name, _, h, _⟩ => hno name h
    rintro ⟨-, hvalid⟩
    cases hu : (Doc.get? (iterFind nameField rec).2 urlField).bind Bson.asUtf8? with
    | none =>
      rw [hu] at hvalid
      exact Bool.false_ne_true ((laws.noName Fastotv.metaUrl.url).symm.trans hvalid)
    | some uri =>
      rw [hu] at hvalid
      exact Bool.false_ne_true ((laws.noName (Fastotv.gurl uri)).symm.trans hvalid)
  rcases hstring (Doc.get? (iterFind nameField rec).2 urlField) with ⟨hnone, hno⟩ | ⟨uri, huri'⟩
  · rw [hnone, hname']
    refine iff_of_false ?_ fun ⟨_, uri, _, h, _⟩ => hno uri h
    rintro ⟨-, hvalid⟩
    exact Bool.false_ne_true ((laws.noUrl (cstr name)).symm.trans hvalid)
  · rw [hname', huri']
    constructor
    · rintro ⟨rfl, hvalid⟩
      exact ⟨name, uri, rfl, rfl, rfl, hvalid⟩
    · rintro ⟨name', uri', h, h', rfl, hvalid⟩
      obtain rfl : name = name' := by simpa using h
      obtain rfl : uri = uri' := by simpa using h'
      exact ⟨rfl, hvalid⟩

theorem metaUrl?_eq_some (laws : MetaUrlLaws) {e : Bson} {url : MetaUrl} :
    metaUrl? e = some url ↔ ∃ rec, e = .document rec ∧ NameThenUrl rec url := by
  cases e with
  | document rec =>
    have hiff : _ ↔ NameThenUrl rec url := valid_metaUrl_iff laws
    unfold metaUrl?
    simp only [Bson.document.injEq, exists_eq_left']
    rw [← hiff]
    split_ifs with hvalid
    · simp [hvalid]
    · simp [hvalid]
  | _ => simp [metaUrl?]

/-- What stands in this order is held. -/
theorem NameThenUrl.holds {rec : Doc} {url : MetaUrl} (h : NameThenUrl rec url) :
    HoldsMetaUrl (.document rec) url := by
  obtain ⟨name, uri, hname, huri, hurl, hvalid⟩ := h
  have hmem : (urlField, .utf8 uri) ∈ rec :=
    (iterFind_snd_suffix nameField rec).subset (Doc.mem_of_get? huri)
  exact ⟨rec, name, uri, rfl, Doc.mem_of_get? hname, hmem, hurl, hvalid⟩

/-! ### A meta array -/

/-- The loop does not find more than there is. -/
theorem length_metaUrls_le (laws : MetaUrlLaws) {es : List Bson} {urls : List MetaUrl}
    (h : MetaUrlsOf es urls) : (es.filterMap metaUrl?).length ≤ urls.length := by
  induction h with
  | nil => exact Nat.le_refl 0
  | @held e url es urls _ _ ih =>
    rw [List.filterMap_cons]
    cases metaUrl? e with
    | none => exact Nat.le_succ_of_le ih
    | some _ => exact Nat.succ_le_succ ih
  | @none e es urls he _ ih =>
    have hnone : metaUrl? e = Option.none := by
      refine Option.eq_none_iff_forall_ne_some.mpr fun url hurl => ?_
      obtain ⟨rec, rfl, hread⟩ := (metaUrl?_eq_some laws).mp hurl
      exact he url hread.holds
    rw [List.filterMap_cons, hnone]
    exact ih

/-- The loop finds what there is exactly when each element that holds a meta url has it in the order
of the loop. -/
theorem metaUrlsOf_iff (laws : MetaUrlLaws) (es : List Bson) :
    MetaUrlsOf es (metaUrls es) ↔ NamesFirst es := by
  rw [metaUrls_eq_filterMap]
  induction es with
  | nil => exact iff_of_true .nil fun e he => by cases he
  | cons e es ih =>
    have hcons : NamesFirst (e :: es) ↔ ((∃ url, HoldsMetaUrl e url) → ∃ rec url,
        e = .document rec ∧ NameThenUrl rec url) ∧ NamesFirst es := List.forall_mem_cons
    rw [hcons, ← ih, List.filterMap_cons]
    cases hread : metaUrl? e with
    | some url =>
      obtain ⟨rec, rfl, hname⟩ := (metaUrl?_eq_some laws).mp hread
      dsimp only
      constructor
      · intro h
        refine ⟨fun _ => ⟨rec, url, rfl, hname⟩, ?_⟩
        cases h with
        | held _ hes => exact hes
        | none he _ => exact absurd hname.holds (he url)
      · exact fun h => .held hname.holds h.2
    | none =>
      have hno : ¬∃ rec url, e = .document rec ∧ NameThenUrl rec url := by
        rintro ⟨rec, url, he, hname⟩
        have hsome := (metaUrl?_eq_some laws).mpr ⟨rec, he, hname⟩
        rw [hread] at hsome
        cases hsome
      dsimp only
      constructor
      · intro h
        generalize hurls : es.filterMap metaUrl? = urls at h
        cases h with
        | @held _ url _ urls he hes =>
          -- The element gave nothing, so there are too few meta urls.
          have hle := length_metaUrls_le laws hes
          rw [hurls, List.length_cons] at hle
          omega
        | none he hes => exact ⟨fun ⟨url, hurl⟩ => absurd hurl (he url), hurls ▸ hes⟩
      · rintro ⟨h, hes⟩
        exact .none (fun url hurl => hno (h ⟨url, hurl⟩)) hes

/-! ### The decoders -/

omit [Fastotv] in
/-- The elements of the meta arrays of a document. -/
def metaElements (d : Doc) : List Bson :=
  (d.filter fun f => f.1 = streamMetaUrlsField).flatMap fun f => match f.2 with
    | .array a => a
    | _ => []

open StreamField Field in
/-- The other branches leave the meta urls alone. -/
theorem frames_metaUrls {fd : Field StreamScan} (hfd : fd ∈ streamFields)
    (hkey : fd.key ≠ streamMetaUrlsField) : Frames StreamScan.metaUrls fd := by
  have hall : ∀ fd ∈ streamFields, fd.key = streamMetaUrlsField ∨
      Frames StreamScan.metaUrls fd := by
    simp only [streamFields, valueFields, List.forall_mem_cons]
    refine ⟨.inr (frames_onOid ?_), .inr (frames_onBool ?_), .inr (frames_array ?_),
      .inr (frames_onInt32 ?_), .inr (frames_onInt32 ?_), .inr (frames_onUtf8 ?_),
      .inr (frames_onUtf8 ?_), .inr (frames_onBool ?_), .inr (frames_parts ?_), .inl rfl,
      .inr (frames_onBool ?_), .inr (frames_onDateTime ?_), .inr (frames_onDateTime ?_),
      .inr (frames_onUtf8 ?_), .inr (frames_epgOutput ?_), .inr (frames_onUtf8 ?_),
      .inr (frames_onUtf8 ?_), .inr (frames_onUtf8 ?_), .inr (frames_movieOutput ?_),
      .inr (frames_onUtf8 ?_), .inr (frames_onDouble ?_), .inr (frames_onDateTime ?_),
      .inr (frames_onUtf8 ?_), .inr (frames_onInt32 ?_), .inr (frames_onInt32 ?_), by simp⟩
    all_goals exact fun _ _ => rfl
  exact (hall fd hfd).resolve_left hkey

theorem eq_metaUrls_of_mem {fd : Field StreamScan} (hfd : fd ∈ streamFields)
    (hkey : fd.key = streamMetaUrlsField) : fd = StreamField.metaUrlsField := by
  have hmem : StreamField.metaUrlsField ∈ streamFields := by
    simp [streamFields, valueFields]
  have hcount : (streamFields.map Field.key).count streamMetaUrlsField ≤ 1 := by
    rw [streamFields, List.map_cons, List.map_cons, keys_valueFields]
    decide
  exact Field.eq_of_key_eq hcount hfd hmem hkey rfl

/-- The meta urls of an info are what the loop makes of the elements. -/
theorem metaUrls_of_decode {α : Type} {D : StreamDecoder α} {uninit : Uninit} {d : Doc}
    {st : StreamType} {u : UserStreamInfo} {info : α} {visible : Bool}
    (hmem : StreamField.metaUrlsField ∈ D.fields)
    (h : D.decode uninit d st u = .ok (info, visible)) :
    (D.base info).metaUrls = metaUrls (metaElements d) := by
  obtain ⟨s, haccepted, rfl, -⟩ := StreamDecoder.decode_eq_ok.mp h
  obtain ⟨n, hscan⟩ := StreamDecoder.scan_of_accepted haccepted
  rw [D.base_info]
  have hgives : ∀ (t : StreamScan) (v : Bson) (t' : StreamScan),
      StreamField.metaUrlsField.read t v = .ok t' →
        t'.metaUrls = t.metaUrls ++ metaUrls (match v with
          | .array a => a
          | _ => []) := by
    intro t v t' hread
    cases v with
    | array a => rw [← Outcome.ok.inj hread]
    | _ => cases hread
  have hcollect := foldlM_scanField_collect StreamScan.metaUrls _ hmem
    (fun fd hfd hkey => eq_metaUrls_of_mem (D.fields_subset hfd) hkey)
    (fun fd hfd hkey => frames_metaUrls (D.fields_subset hfd) hkey) hgives hscan
  show s.metaUrls = _
  refine hcollect.trans ?_
  simp only [metaElements, metaUrls_eq_filterMap, List.filterMap_flatMap]
  rfl

/-- The meta urls of an info are those of the elements, in their order, if and only if every element
that holds a meta url has the name before the url. -/
theorem meta_urls_iff (laws : MetaUrlLaws) (uninit : Uninit) (d : Doc) (st : StreamType)
    (u : UserStreamInfo) :
    (∀ info visible, makeVodInfo uninit d st u = .ok (info, visible) →
      (MetaUrlsOf (metaElements d) info.metaUrls ↔ NamesFirst (metaElements d))) ∧
    (∀ info visible, makeCatchupInfo uninit d st u = .ok (info, visible) →
      (MetaUrlsOf (metaElements d) info.metaUrls ↔ NamesFirst (metaElements d))) ∧
    ∀ info visible, makeChannelInfo uninit d st u = .ok (info, visible) →
      (MetaUrlsOf (metaElements d) info.metaUrls ↔ NamesFirst (metaElements d)) := by
  refine ⟨fun info visible h => ?_, fun info visible h => ?_, fun info visible h => ?_⟩
  · have hdecode : vodDecoder.decode uninit d st u = .ok (info, visible) := h
    have heq := metaUrls_of_decode (by simp [vodDecoder, vodFields]) hdecode
    exact heq ▸ metaUrlsOf_iff laws _
  · have hdecode : catchupDecoder.decode uninit d st u = .ok (info, visible) := h
    have heq := metaUrls_of_decode (by simp [catchupDecoder, catchupFields]) hdecode
    exact heq ▸ metaUrlsOf_iff laws _
  · have hdecode : channelDecoder.decode uninit d st u = .ok (info, visible) := h
    have heq := metaUrls_of_decode (by simp [channelDecoder, channelFields]) hdecode
    exact heq ▸ metaUrlsOf_iff laws _

end

/-! A channel with one meta url, whose two keys stand in the one order or the other. -/

namespace Sample

def linkName : String × Bson := (nameField, .utf8 "Site")

def linkUrl : String × Bson := (urlField, .utf8 "http://site")

def linkChannel (link : Doc) : Doc :=
  (channelDoc (oid 2) relayStr true).toDoc ++ [(streamMetaUrlsField, .array [.document link])]

theorem metaUrlLaws : MetaUrlLaws :=
  ⟨fun _ => rfl, fun name => by simp [Fastotv.metaUrlValid, Fastotv.metaUrl]⟩

end Sample

open Sample in
/-- With the url first, the channel is decoded without its meta url. -/
theorem metaUrl_lost :
    ∃ info, makeChannelInfo env.uninit (linkChannel [linkUrl, linkName]) .relay {} =
        .ok (info, true) ∧
      HoldsMetaUrl (.document [linkUrl, linkName]) (linkOf "Site" "http://site") ∧
      ¬MetaUrlsOf (metaElements (linkChannel [linkUrl, linkName])) info.metaUrls := by
  have hholds : HoldsMetaUrl (.document [linkUrl, linkName]) (linkOf "Site" "http://site") :=
    ⟨_, "Site", "http://site", rfl, by simp [linkName, linkUrl], by simp [linkName, linkUrl], rfl,
      by decide⟩
  refine ⟨_, rfl, hholds, fun h => ?_⟩
  have hone : MetaUrlsOf [.document [linkUrl, linkName]] [] := h
  cases hone with
  | none hno _ => exact hno _ hholds

open Sample in
theorem meta_urls_iff_sample :
    ∃ info, makeChannelInfo env.uninit (linkChannel [linkName, linkUrl]) .relay {} =
        .ok (info, true) ∧
      (MetaUrlsOf (metaElements (linkChannel [linkName, linkUrl])) info.metaUrls ↔
        NamesFirst (metaElements (linkChannel [linkName, linkUrl]))) :=
  ⟨_, rfl, (meta_urls_iff metaUrlLaws env.uninit _ .relay {}).2.2 _ _ rfl⟩

end LoadBalance
