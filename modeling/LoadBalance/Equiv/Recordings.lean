import LoadBalance.Equiv.Durations
import LoadBalance.Mongo.Equiv.OutputUrls

/-!
# Where catchups are recorded

The outputs of a catchup are those of its channel, each with a directory and a url of its own:
both are made from the id of the catchup and the id of the output.  What the document of a catchup
gives for an output is found again by its id (`places_of_outputs`), and over a whole run no two
outputs of catchups have the same directory or the same url (`catchup_outputs_apart`).
-/

namespace LoadBalance

open LoadBalance.Action

section

variable [Fastotv] {endpoint : CatchupEndpointInfo} {base tail : String}

/-! ### Paths -/

/-- The path of an output below the root of the catchups, and below their host. -/
def catchupPath (x : Oid) (cid : ChannelId) : String :=
  toString Fastotv.catchupNumber ++ "/" ++ x.text ++ "/" ++ toString cid.toNat

omit [Fastotv] in
theorem toString_nat_injective {m n : ℕ} (h : toString m = toString n) : m = n := by
  have hdigits : Nat.toDigits 10 m = Nat.toDigits 10 n := by
    have hlist := congrArg String.toList h
    simpa using hlist
  rw [← Nat.ofDigitChars_ten_toDigits (n := m), hdigits, Nat.ofDigitChars_ten_toDigits]

/-- The path tells the catchup and the output: all ids of documents have the same length. -/
theorem catchupPath_injective {x x' : Oid} {cid cid' : ChannelId}
    (h : catchupPath x cid = catchupPath x' cid') : x = x' ∧ cid = cid' := by
  have hlist := congrArg String.toList h
  simp only [catchupPath, String.toList_append, List.append_assoc,
    List.append_cancel_left_eq] at hlist
  obtain ⟨htext, hrest⟩ := List.append_inj hlist (by rw [x.length_text, x'.length_text])
  have hx : x = x' := Oid.text_injective (String.toList_inj.mp htext)
  have hcid : cid.toNat = cid'.toNat :=
    toString_nat_injective (String.toList_inj.mp (List.append_cancel_left hrest))
  exact ⟨hx, UInt32.toNat_inj.mp hcid⟩

omit [Fastotv] in
/-- The letters of a path that is shown as it is. -/
def Plain (s : String) : Prop := ∀ c ∈ s.toList, c.isAlphanum = true ∨ c = '/'

omit [Fastotv] in
theorem Plain.append {s t : String} (hs : Plain s) (ht : Plain t) : Plain (s ++ t) := by
  intro c hc
  rw [String.toList_append, List.mem_append] at hc
  exact hc.elim (hs c) (ht c)

omit [Fastotv] in
theorem plain_toString (n : ℕ) : Plain (toString n) := by
  intro c hc
  rw [Nat.toString_eq_ofList_toDigits, String.toList_ofList] at hc
  have hdigit := Nat.isDigit_of_mem_toDigits (by decide) (by decide) hc
  left
  rw [Char.isAlphanum, hdigit, Bool.or_true]

omit [Fastotv] in
theorem plain_text (x : Oid) : Plain x.text := by
  have hhex : ∀ d : Fin 16, (hexDigit d).isAlphanum = true := by decide
  intro c hc
  rw [Oid.text, String.toList_ofList, List.mem_map] at hc
  obtain ⟨d, -, rfl⟩ := hc
  exact Or.inl (hhex d)

theorem plain_catchupPath (x : Oid) (cid : ChannelId) : Plain (catchupPath x cid) := by
  have hslash : Plain "/" := by
    intro c hc
    exact Or.inr (List.mem_singleton.mp hc)
  exact (((plain_toString _).append hslash).append (plain_text x)).append hslash |>.append
    (plain_toString _)

/-- What the libraries promise of an endpoint: a url on its host is shown behind `base` as it was
given, and its root is extended by names, behind which stands `tail`.  The paths of directories are
read back. -/
structure EndpointLaws (endpoint : CatchupEndpointInfo) (base tail : String) : Prop
    extends GurlLaws where
  shown : ∀ path, Plain path → (Fastotv.gurl ("http://" ++ Fastotv.hostText endpoint.catchupsHost ++
    "/" ++ path ++ "/master.m3u8")).spec = base ++ path ++ "/master.m3u8"
  makeDirectory : ∀ path, Plain path → ∃ dir,
    Fastotv.makeDirectory endpoint.catchupsHttpRoot path = some dir ∧
      dir.path = endpoint.catchupsHttpRoot.path ++ path ++ tail
  directory : ∀ path dir, Plain path →
    Fastotv.makeDirectory endpoint.catchupsHttpRoot path = some dir →
      (Fastotv.directory (cstr (cstr dir.path))).path = dir.path

/-! ### The document of a catchup -/

/-- The place of an output: its directory and its url. -/
structure HasPlace (endpoint : CatchupEndpointInfo) (base tail : String) (d : Doc) (x : Oid)
    (cid : ChannelId) : Prop where
  directory : ∀ st, ∃ dir, getHttpRootFromStream d st cid = some dir ∧
    dir.path = endpoint.catchupsHttpRoot.path ++ catchupPath x cid ++ tail
  url : ∀ st, ∃ url, getUrlFromStream d st cid = some url ∧
    url.spec = base ++ catchupPath x cid ++ "/master.m3u8"

/-- The output that is found in the document for one of the channel. -/
theorem findOutput_patched {d : Doc} {x : Oid} {outs : List OutputUri} {cid : ChannelId}
    (hd : d.get? streamOutputField = some (createOutputUrl (patchedOutputs outs x.text endpoint)))
    (hcid : cid ∈ outs.map OutputUri.id) :
    ∃ out ∈ patchedOutputs outs x.text endpoint, out.id = cid ∧
      findOutput d cid = some out.reread := by
  have hids : (patchedOutputs outs x.text endpoint).map OutputUri.id = outs.map OutputUri.id := by
    unfold patchedOutputs
    rw [List.map_map]
    rfl
  rw [← hids] at hcid
  generalize patchedOutputs outs x.text endpoint = patched at hd hcid
  have hfind : findOutput d cid = (patched.map OutputUri.reread).find? (·.id = cid) := by
    unfold findOutput
    rw [hd]
    show (getOutputUrlData (createOutputUrl patched)).bind _ = _
    rw [getOutputUrlData_written]
    rfl
  rw [hfind, List.find?_map]
  cases hout : patched.find? ((fun out => decide (out.id = cid)) ∘ OutputUri.reread) with
  | none =>
    obtain ⟨out, hmem, hid⟩ := List.mem_map.mp hcid
    have hno := List.find?_eq_none.mp hout out hmem
    exact absurd (decide_eq_true (show out.reread.id = cid from hid)) hno
  | some out =>
    have hid : out.reread.id = cid := by simpa using List.find?_some hout
    exact ⟨out, List.mem_of_find?_eq_some hout, hid, rfl⟩

/-- Every output of the channel has its place in the document. -/
theorem places_of_outputs (laws : EndpointLaws endpoint base tail) {d : Doc} {x : Oid}
    {outs : List OutputUri} {cid : ChannelId}
    (hd : d.get? streamOutputField = some (createOutputUrl (patchedOutputs outs x.text endpoint)))
    (hcid : cid ∈ outs.map OutputUri.id) : HasPlace endpoint base tail d x cid := by
  obtain ⟨out, hout, hid, hfind⟩ := findOutput_patched hd hcid
  obtain ⟨origin, -, rfl⟩ := List.mem_map.mp hout
  dsimp only at hid
  subst hid
  have hplain := plain_catchupPath x origin.id
  obtain ⟨dir, hdir, hpath⟩ := laws.makeDirectory _ hplain
  constructor
  · intro st
    refine ⟨Fastotv.directory (cstr (cstr dir.path)), ?_, ?_⟩
    · unfold getHttpRootFromStream
      rw [hfind]
      dsimp only [Option.bind_some, OutputUri.reread]
      unfold catchupPath at hdir
      rw [hdir]
      rfl
    · rw [laws.directory _ dir hplain hdir, hpath]
  · intro st
    refine ⟨_, by unfold getUrlFromStream; rw [hfind]; rfl, ?_⟩
    show (Fastotv.gurl (cstr (cstr (Fastotv.gurl ("http://" ++
      Fastotv.hostText endpoint.catchupsHost ++ "/" ++ catchupPath x origin.id ++
        "/master.m3u8")).spec))).spec = _
    rw [laws.spec_cstr, laws.shown _ hplain]

/-- Two outputs with the same directory or the same url are the same output of the same catchup. -/
theorem HasPlace.unique {d d' : Doc} {x x' : Oid} {cid cid' : ChannelId}
    (h : HasPlace endpoint base tail d x cid) (h' : HasPlace endpoint base tail d' x' cid')
    {st st' : StreamType}
    (hsame : getHttpRootFromStream d st cid = getHttpRootFromStream d' st' cid' ∨
      getUrlFromStream d st cid = getUrlFromStream d' st' cid') : x = x' ∧ cid = cid' := by
  have hpath : catchupPath x cid = catchupPath x' cid' := by
    rcases hsame with hsame | hsame
    · obtain ⟨dir, hdir, hpath⟩ := h.directory st
      obtain ⟨dir', hdir', hpath'⟩ := h'.directory st'
      rw [hdir, hdir', Option.some.injEq] at hsame
      rw [hsame, hpath'] at hpath
      have hlist := congrArg String.toList hpath
      simp only [String.toList_append, List.append_assoc] at hlist
      have hrest := List.append_cancel_left hlist
      exact String.toList_inj.mp (List.append_cancel_right hrest).symm
    · obtain ⟨url, hurl, hspec⟩ := h.url st
      obtain ⟨url', hurl', hspec'⟩ := h'.url st'
      rw [hurl, hurl', Option.some.injEq] at hsame
      rw [hsame, hspec'] at hspec
      have hlist := congrArg String.toList hspec
      simp only [String.toList_append, List.append_assoc] at hlist
      have hrest := List.append_cancel_left hlist
      exact String.toList_inj.mp (List.append_cancel_right hrest).symm
  exact catchupPath_injective hpath

/-! ### The catchups of a run -/

/-- The outputs of the channel that a request names. -/
def channelOutputs (env : Env) (db : Database) (sid : StreamId) : List OutputUri :=
  (((convertFromString env.beyond sid).bind db.streams.findId?).bind fun sdoc =>
    (sdoc.toDoc.get? streamOutputField).bind getOutputUrlData).getD []

/-- A catchup that was created: its id, the outputs of its channel, and its document. -/
structure Recording where
  id : Oid
  outputs : List OutputUri
  doc : StoredDoc

/-- The catchup that is created for an event: the stream that is there afterwards, with the id that
was generated, and was not there before. -/
def recording? (s : State) (e : Event) : Option Recording :=
  match e with
  | .request _ sur ⟨_, .generateCatchup (.decoded catGen)⟩ =>
    match s.db.streams.findId? sur.fresh, (e.action.run s).2.db.streams.findId? sur.fresh with
    | none, some d => some ⟨sur.fresh, channelOutputs sur.toEnv s.db catGen.streamId, d⟩
    | _, _ => none
  | _ => none

/-- The catchups that are created for the events of a run, one after another. -/
def recordings : Option State → List Event → List Recording
  | _, [] => []
  | s, e :: es => (s.bind (recording? · e)).toList ++ recordings (step s e) es

variable {s : State} {r : Recording}

/-- The outputs of a new catchup are those of the channel, each in its place. -/
theorem output_of_recording {e : Event} (h : recording? s e = some r) :
    r.doc.toDoc.get? streamOutputField =
      some (createOutputUrl (patchedOutputs r.outputs r.id.text s.catchupEndpoint)) := by
  unfold recording? at h
  split at h
  · next client sur id catGen =>
    split at h
    · next d hnew hd =>
      obtain rfl := Option.some.inj h
      obtain ⟨-, auth, ch, bsid, serverOid, outputUrls, c, hch, hinserted, rfl⟩ :=
        newStream_of_request hnew hd
      obtain ⟨-, channel, -, -, -, hchannel, -, -, hid, -⟩ := findStream_eq_ok hch
      obtain ⟨hbsid, ⟨sdoc, hsdoc, houts⟩, -⟩ := catchupOrigin_found hinserted.origin
      rw [hid, convertFromString_text] at hbsid
      obtain rfl := Option.some.inj hbsid
      have houtputs : channelOutputs sur.toEnv s.db catGen.streamId = outputUrls := by
        unfold channelOutputs
        rw [hchannel, Option.bind_some, hsdoc, Option.bind_some, houts]
        rfl
      dsimp only
      rw [houtputs]
      rfl
    · cases h
  · cases h

omit [Fastotv] in
/-- The endpoint is the same. -/
def SameEndpoint (s s' : State) : Prop := s'.catchupEndpoint = s.catchupEndpoint

instance : IsPreorder State SameEndpoint where
  refl _ := rfl
  trans _ _ _ h h' := h'.trans h

/-- The endpoint is not changed by the events. -/
theorem sameEndpoint_action (e : Event) : SameEndpoint s ((e.action).run s).2 := by
  refine within_action (fun _ _ h => h.endpoint) (fun _ _ _ => rfl)
    (fun client sur id params _ => ?_)
    fun _ _ => rfl
  exact within_handleRequestGenerateCatchup (fun _ _ h => h.endpoint)
    (within_closeAndDelete (fun _ _ h => h.endpoint) fun _ _ _ => rfl) fun _ _ => rfl

/-- Every catchup of a run is created on the endpoint of its first state. -/
theorem output_of_mem_recordings {o : Option State} {es : List Event}
    (ho : ∀ s, o = some s → s.catchupEndpoint = endpoint) (hr : r ∈ recordings o es) :
    r.doc.toDoc.get? streamOutputField =
      some (createOutputUrl (patchedOutputs r.outputs r.id.text endpoint)) := by
  induction es generalizing o with
  | nil => cases hr
  | cons e es ih =>
    rcases List.mem_append.mp hr with hhead | htail
    · obtain ⟨s, hs, hrecording⟩ := Option.bind_eq_some_iff.mp (Option.mem_toList.mp hhead)
      rw [← ho s hs]
      exact output_of_recording hrecording
    · refine ih (fun s' hs' => ?_) htail
      cases o with
      | none => cases hs'
      | some s =>
        rw [step_eq_some hs']
        exact (sameEndpoint_action e).trans (ho s rfl)

/-- Every output of every catchup of a run has its place, and no two of them have the same directory
or the same url. -/
theorem catchup_outputs_apart (start : State) (es : List Event) (base tail : String)
    (laws : EndpointLaws start.catchupEndpoint base tail)
    (hids : ((recordings (some start) es).map Recording.id).Nodup) :
    (∀ r ∈ recordings (some start) es, ∀ cid ∈ r.outputs.map OutputUri.id,
      HasPlace start.catchupEndpoint base tail r.doc.toDoc r.id cid) ∧
    ∀ r ∈ recordings (some start) es, ∀ r' ∈ recordings (some start) es,
      ∀ cid ∈ r.outputs.map OutputUri.id, ∀ cid' ∈ r'.outputs.map OutputUri.id, ∀ st st',
      getHttpRootFromStream r.doc.toDoc st cid = getHttpRootFromStream r'.doc.toDoc st' cid' ∨
        getUrlFromStream r.doc.toDoc st cid = getUrlFromStream r'.doc.toDoc st' cid' →
      r = r' ∧ cid = cid' := by
  have hplaces : ∀ r ∈ recordings (some start) es, ∀ cid ∈ r.outputs.map OutputUri.id,
      HasPlace start.catchupEndpoint base tail r.doc.toDoc r.id cid := by
    intro r hr cid hcid
    refine places_of_outputs laws (output_of_mem_recordings (fun s hs => ?_) hr) hcid
    rw [Option.some.inj hs]
  refine ⟨hplaces, fun r hr r' hr' cid hcid cid' hcid' st st' hsame => ?_⟩
  obtain ⟨hid, hcids⟩ := (hplaces r hr cid hcid).unique (hplaces r' hr' cid' hcid') hsame
  exact ⟨List.inj_on_of_nodup_map hids hr hr' hid, hcids⟩

end

/-! A channel with two outputs, of which two catchups are made. -/

namespace Sample

/-- The libraries with paths of directories that end in a slash. -/
abbrev slashed : Fastotv :=
  { fastotv with
    directory := fun text => ⟨if text.toList.getLast? = some '/' then text else text ++ "/"⟩
    makeDirectory := fun dir name => some ⟨dir.path ++ name ++ "/"⟩ }

def recordedEndpoint : CatchupEndpointInfo := ⟨⟨"catchups", 80⟩, ⟨"/catchups/"⟩⟩

def recordedChannel : StoredDoc where
  id := .oid (oid 2)
  fields := Doc.set newsChannel.fields streamOutputField (createOutputUrl twoOutputs)
  no_id := by decide

def recordedStart : State :=
  State.initial { newsDatabase with
    subscribers := ⟨[viewer], nodup_viewer⟩
    streams := ⟨[recordedChannel], List.nodup_singleton _⟩ } recordedEndpoint
    ⟨"http://epg", true⟩ "locked"

def recordedEvents : List Event :=
  newsWatched ++ [newsRequest 10 20,
    .request 7 surLater ⟨some "3", .generateCatchup (.decoded ⟨(oid 2).text, "Late news", 30, 40⟩)⟩]

theorem endpointLaws_slashed :
    @EndpointLaws slashed recordedEndpoint "http://catchups:80/" "/" := by
  let _ := slashed
  have hclean : ∀ path, Plain path → ' ' ∉ path.toList ∧ '\x00' ∉ path.toList := by
    intro path hpath
    constructor <;>
      · intro hmem
        rcases hpath _ hmem with h | h <;> exact absurd h (by decide)
  refine ⟨⟨@GurlLaws.nulFree fastotv gurlLaws, @GurlLaws.spec_spec fastotv gurlLaws⟩, ?_,
    fun path _ => ⟨_, rfl, rfl⟩, ?_⟩
  · intro path hpath
    obtain ⟨hblank, hnul⟩ := hclean path hpath
    have hvalid : ∀ x : String, x ≠ "" → ' ' ∉ x.toList → '\x00' ∉ x.toList →
        (Fastotv.gurl x).isValid = true := by
      intro x hempty hblank hnul
      show (decide (x ≠ "") && !x.toList.contains ' ' && !x.toList.contains '\x00') = true
      simp [hempty, hblank, hnul]
    show (Fastotv.gurl ("http://catchups:80/" ++ path ++ "/master.m3u8")).spec = _
    rw [Gurl.spec, if_pos (hvalid _ (by simp) (by simp [hblank]) (by simp [hnul]))]
    rfl
  · intro path dir hpath hdir
    obtain ⟨-, hnul⟩ := hclean path hpath
    obtain rfl := Option.some.inj hdir
    have hfree : NulFree ("/catchups/" ++ path ++ "/") := by
      simp [NulFree, hnul]
    have hcstr : cstr (cstr ("/catchups/" ++ path ++ "/")) = "/catchups/" ++ path ++ "/" := by
      rw [cstr_cstr, cstr_eq_self_iff.mpr hfree]
    show (Fastotv.directory (cstr (cstr ("/catchups/" ++ path ++ "/")))).path = _
    rw [hcstr]
    show (if _ then _ else _) = _
    rw [if_pos (by simp [List.getLast?_cons])]
    rfl

theorem recordings_recorded : ∃ r r', @recordings slashed (some recordedStart) recordedEvents =
    [r, r'] ∧ r.id = oid 15 ∧ r'.id = oid 16 ∧ r.outputs.map OutputUri.id = [1, 2] ∧
      r'.outputs.map OutputUri.id = [1, 2] :=
  ⟨_, _, rfl, rfl, rfl, by decide, by decide⟩

end Sample

open Sample in
theorem catchup_outputs_apart_sample :
    ∃ r r', @recordings slashed (some recordedStart) recordedEvents = [r, r'] ∧
      @HasPlace slashed recordedEndpoint "http://catchups:80/" "/" r.doc.toDoc r.id 1 ∧
      ∀ st st', @getUrlFromStream slashed r.doc.toDoc st 1 ≠
        @getUrlFromStream slashed r'.doc.toDoc st' 1 := by
  let _ := slashed
  obtain ⟨r, r', hrs, hid, hid', houts, houts'⟩ := recordings_recorded
  have hne : oid 15 ≠ oid 16 := by decide
  obtain ⟨hplaces, hapart⟩ := catchup_outputs_apart recordedStart recordedEvents
    "http://catchups:80/" "/" endpointLaws_slashed (by
      rw [hrs]
      simp only [List.map_cons, List.map_nil, hid, hid']
      decide)
  rw [hrs] at hplaces hapart
  refine ⟨r, r', hrs, hplaces r (by simp) 1 (by simp [houts]), fun st st' hsame => ?_⟩
  obtain ⟨rfl, -⟩ := hapart r (by simp) r' (by simp) 1 (by simp [houts]) 1 (by simp [houts']) st st'
    (Or.inr hsame)
  exact hne (hid.symm.trans hid')

end LoadBalance
