import LoadBalance.Equiv.DistinctCatchups
import LoadBalance.Mongo.Equiv.Parts

/-!
# Catchups that are handed out

Whatever is a part of a channel counts as a catchup that is ready: a request that finds it there is
answered with success, and nothing is announced.  So everything that is handed out is attached to a
server and was announced, as long as this holds of everything that is linked (`AllAnnounced`), which
a creation breaks that gets as far as the link and not to its end (`handed_out_announced`).
-/

namespace LoadBalance

open LoadBalance.Action

/-- The daemon was told of the catchup, with a server that has it. -/
def AnnouncedIn (servers : Collection) (sent : List Output) (x : Oid) : Prop :=
  ∃ server cat, AttachedTo servers server x ∧
    .broadcast (.catchupCreated server.text cat) ∈ sent ∧ cat.streamId = x.text

/-- All parts of channels were announced. -/
def AllAnnounced (s : State) : Prop :=
  ∀ x, Linked s.db.streams x → AnnouncedIn s.db.servers s.sent x

theorem AnnouncedIn.mono {servers : Collection} {sent sent' : List Output} {x : Oid}
    (h : AnnouncedIn servers sent x) (hsent : sent ⊆ sent') : AnnouncedIn servers sent' x := by
  obtain ⟨server, cat, hattached, hmem, hid⟩ := h
  exact ⟨server, cat, hattached, hsent hmem, hid⟩

section

variable [Fastotv] {env : Env} {endpoint : CatchupEndpointInfo} {basedOn : ChannelInfo}
  {title : String} {start stop : Timestamp} {db db' : Database}

/-! ### The creation -/

/-- What a creation that got to the end has written. -/
theorem created_links {bsid serverOid channel : Oid} {outputUrls : List OutputUri}
    {c c' servers : Collection} (hch : basedOn.streamId = channel.text)
    (hlinked : CatchupLinked env endpoint basedOn title start stop db bsid serverOid outputUrls c c')
    (hattach : db.servers.update (StoredDoc.hasId serverOid) serverStreamsField serverStreams_ne_id
      (pushOp (.oid env.fresh)) = some servers) :
    (∃ d, c'.findId? channel = some d ∧ d.Holds streamPartsField env.fresh) ∧
      AttachedTo servers serverOid env.fresh := by
  obtain ⟨hbsid, ⟨sdoc, hsdoc⟩, server, a, hserver, -⟩ := catchupOrigin_ok hlinked.origin
  rw [hch, convertFromString_text, Option.some.injEq] at hbsid
  subst hbsid
  obtain ⟨-, -, -, hother⟩ := Collection.insert_cases hlinked.insert
  have hchannel : c.findId? channel = some sdoc := by
    rw [hother _ (ne_fresh_of_insert hsdoc hlinked.insert), hsdoc]
  obtain ⟨d, hd, hholds⟩ := holds_of_push hserver hattach
  exact ⟨holds_of_push hchannel hlinked.link,
    ⟨d, Collection.mem_of_find? hd, Collection.id_of_findId? hd, hholds⟩⟩

/-- Nothing is linked but the new catchup. -/
theorem linked_of_created {bsid serverOid x : Oid} {outputUrls : List OutputUri}
    {c c' : Collection}
    (hlinked : CatchupLinked env endpoint basedOn title start stop db bsid serverOid outputUrls c c')
    (hx : Linked c' x) : Linked db.streams x ∨ x = env.fresh :=
  (hx.of_link hlinked.link).imp_left fun h => h.of_insert hlinked.insert

/-- The parts that are found are linked. -/
theorem linked_of_findPart {channel : Oid} {sdoc : StoredDoc} {orig : CatchupInfo}
    (hsdoc : db.streams.findId? channel = some sdoc)
    (hparts : basedOn.parts = (partOids sdoc.fields).map Oid.text)
    (hpart : findPart env db title start stop basedOn.parts = .ok (some orig)) :
    ∃ x, orig.streamId = x.text ∧ sdoc.Holds streamPartsField x ∧ Linked db.streams x := by
  obtain ⟨chan, hchan, x, -, -, hx, -, -, -, -, hid⟩ := findPart_eq_some hpart
  rw [hparts] at hchan
  obtain ⟨o, ho, rfl⟩ := List.mem_map.mp hchan
  rw [convertFromString_text, Option.some.injEq] at hx
  subst hx
  have hholds := StoredDoc.holds_of_mem_partOids ho
  exact ⟨o, hid, hholds, sdoc, Collection.mem_of_find? hsdoc, hholds⟩

/-! ### The condition -/

variable {s : State} {client : ClientId} {sur : Surroundings} {id : RequestId}

/-- A creation that gets as far as the link gets to the end: the other two writes go through, the
subscriber takes the catchup, and the announcement serializes. -/
def CompletesCreation (s : State) (sur : Surroundings) (auth : ServerDBAuthInfo)
    (catGen : CatchupGenerateInfo) : Prop :=
  ∀ ch bsid serverOid outputUrls c c' user,
    findStream sur.toEnv s.db auth catGen.streamId = .ok ch →
    convertFromString sur.beyond auth.uid = some user →
    CatchupLinked sur.toEnv s.catchupEndpoint ch catGen.title catGen.start catGen.stop s.db bsid
      serverOid outputUrls c c' →
    sur.write .attachServer = true ∧ sur.write .pushEntry = true ∧
      sur.fresh.text ≠ Fastotv.invalidStreamId ∧ TakesCatchup s.db user ∧
      Fastotv.catchupSerializes (catchupCopy ch sur.fresh.text catGen.title
        (makeUrlsFromOutput (catchupUrls sur.toEnv s.catchupEndpoint outputUrls)) catGen.start
        catGen.stop) = true

/-- The requests for a catchup whose creation does not stop behind the link, and the writes from
outside that link nothing unannounced. -/
def CompletesCatchup (s : State) : Event → Prop
  | .request client sur ⟨_, .generateCatchup (.decoded catGen)⟩ =>
    (s.clients client).any (fun c => c.kind = .subscriber) → ∀ auth,
      s.loginOf client = some auth → CompletesCreation s sur auth catGen
  | .database db => AllAnnounced { s with db := db }
  | _ => True

/-! ### One request -/

/-- What a success reply stands for. -/
structure Delivered (db : Database) (sent : List Output) (user channel x server : Oid) : Prop where
  part : ∃ d, db.streams.findId? channel = some d ∧ d.Holds streamPartsField x
  attached : AttachedTo db.servers server x
  added : x ∈ catchupSids db user
  announced : ∃ cat, .broadcast (.catchupCreated server.text cat) ∈ sent ∧ cat.streamId = x.text

variable {auth : ServerDBAuthInfo} {catGen : CatchupGenerateInfo} {created : CreatedCatchup}
  {db₁ db₂ : Database}

/-- The creation of a request that succeeds finds the channel, and the catchup in it or makes it. -/
theorem creation_ok (hcreate : (requestedCreation s sur auth catGen).run s.db = (.ok created, db₁)) :
    ∃ ch, findStream sur.toEnv s.db auth catGen.streamId = .ok ch ∧
      CatchupRun sur.toEnv s.catchupEndpoint ch catGen.title catGen.start catGen.stop s.db
        (.ok created) db₁ := by
  rcases createCatchup_cases sur.toEnv s.catchupEndpoint auth catGen.streamId catGen.title
    catGen.start catGen.stop s.db with ⟨-, hno, -⟩ | ⟨ch, hch, hrun⟩
  · exact absurd (congrArg Prod.fst hcreate) (hno created)
  · refine ⟨ch, hch, ?_⟩
    have hways := catchupRun sur.toEnv s.catchupEndpoint ch catGen.title catGen.start catGen.stop
      s.db
    rwa [← hrun, hcreate] at hways

/-- The subscriber has what was added. -/
theorem mem_catchupSids_of_add {user x : Oid} {sub : StoredDoc} (hx : created.cat.streamId = x.text)
    (huser : convertFromString sur.beyond auth.uid = some user)
    (hsub : db₁.subscribers.findId? user = some sub)
    (hadd : (addUserCatchup sur.toEnv auth created.cat.streamId).run db₁ = (.ok (), db₂)) :
    x ∈ catchupSids db₂ user ∧ db₂.streams = db₁.streams ∧ db₂.servers = db₁.servers := by
  rcases addUserCatchup_cases hadd with
    ⟨-, hfail⟩ | ⟨user', x', c, huser', hx', -, -, hpush, -, rfl⟩
  · exact absurd rfl hfail
  · obtain rfl := Option.some.inj (huser.symm.trans huser')
    rw [hx, convertFromString_text, Option.some.injEq] at hx'
    subst hx'
    refine ⟨?_, rfl, rfl⟩
    rw [catchupSids_push hpush, if_pos ⟨rfl, by rw [hsub]; rfl⟩]
    exact List.mem_append_right _ (List.mem_singleton_self _)

/-- A request that succeeds: the parts were announced, and the catchup that is handed out has all
that it needs. -/
theorem delivered_of_ok (hs : AllAnnounced s) (hcompletes : CompletesCreation s sur auth catGen)
    (hcreate : (requestedCreation s sur auth catGen).run s.db = (.ok created, db₁))
    (hadd : (addUserCatchup sur.toEnv auth created.cat.streamId).run db₁ = (.ok (), db₂)) :
    (∀ x, Linked db₂.streams x → AnnouncedIn db₂.servers (s.sent ++ announcement created) x) ∧
      ∃ user channel x server, convertFromString sur.beyond auth.uid = some user ∧
        convertFromString sur.beyond catGen.streamId = some channel ∧
        created.cat.streamId = x.text ∧
        Delivered db₂ (s.sent ++ announcement created) user channel x server := by
  obtain ⟨ch, hch, hways⟩ := creation_ok hcreate
  obtain ⟨user, channel, sub, sdoc, huser, hchannel, hsub, hsdoc, hid, hparts, -⟩ :=
    findStream_eq_ok hch
  rw [← hways.subscribers] at hsub
  cases hways with
  | @found orig hpart =>
    obtain ⟨x, hx, hholds, hlinked⟩ := linked_of_findPart hsdoc hparts hpart
    obtain ⟨hadded, hstreams, hservers⟩ := mem_catchupSids_of_add hx huser hsub hadd
    have hannounced : ∀ x, Linked db₂.streams x →
        AnnouncedIn db₂.servers (s.sent ++ announcement ⟨"", orig, false⟩) x := by
      rw [hstreams, hservers]
      exact fun x hlinked => (hs x hlinked).mono (List.subset_append_left _ _)
    obtain ⟨server, cat, hattached, hmem, hcat⟩ := hannounced x (hstreams ▸ hlinked)
    exact ⟨hannounced, user, channel, x, server, huser, hchannel, hx,
      ⟨sdoc, hstreams ▸ hsdoc, hholds⟩, hattached, hadded, cat, hmem, hcat⟩
  | refused hno => exact absurd rfl (hno created)
  | created hlinked hwrite hattach =>
    obtain ⟨-, -, -, -, hserializes⟩ := hcompletes _ _ _ _ _ _ _ hch huser hlinked
    obtain ⟨hpart, hattached⟩ := created_links hid hlinked hattach
    obtain ⟨hadded, hstreams, hservers⟩ := mem_catchupSids_of_add rfl huser hsub hadd
    have hbroadcast : ∀ serverid cat, Fastotv.catchupSerializes cat = true →
        Output.broadcast (.catchupCreated serverid cat) ∈
          s.sent ++ announcement ⟨serverid, cat, true⟩ := by
      intro serverid cat hcat
      unfold announcement
      rw [if_pos (by simpa using hcat)]
      exact List.mem_append_right _ (List.mem_singleton_self _)
    rw [hstreams, hservers]
    refine ⟨fun x hx => ?_, user, channel, _, _, huser, hchannel, rfl, hstreams ▸ hpart,
      hservers ▸ hattached, hadded, _, hbroadcast _ _ hserializes, rfl⟩
    rcases linked_of_created hlinked hx with hx | rfl
    · obtain ⟨server, cat, hold, hmem, hcat⟩ := hs x hx
      exact ⟨server, cat, hold.update hattach, List.mem_append_left _ hmem, hcat⟩
    · exact ⟨_, _, hattached, hbroadcast _ _ hserializes, rfl⟩

/-- A request that fails links nothing that was not announced. -/
theorem announced_of_not_ok {o : Outcome Error CreatedCatchup} (hs : AllAnnounced s)
    (hcompletes : CompletesCreation s sur auth catGen)
    (hcreate : (requestedCreation s sur auth catGen).run s.db = (o, db₁)) (hno : ∀ c, o ≠ .ok c) :
    ∀ x, Linked db₁.streams x → AnnouncedIn db₁.servers s.sent x := by
  rcases createCatchup_cases sur.toEnv s.catchupEndpoint auth catGen.streamId catGen.title
    catGen.start catGen.stop s.db with ⟨hdb, -⟩ | ⟨ch, hch, hrun⟩
  · rw [hcreate] at hdb
    obtain rfl : db₁ = s.db := hdb
    exact hs
  · have hways := catchupRun sur.toEnv s.catchupEndpoint ch catGen.title catGen.start catGen.stop
      s.db
    rw [← hrun, hcreate] at hways
    cases hways with
    | found => exact absurd rfl (hno _)
    | refused => exact hs
    | unlinked hinserted => exact fun x hx => hs x (hx.of_insert hinserted.insert)
    | unattached hlinked hfail =>
      obtain ⟨user, -, -, -, huser, -⟩ := findStream_eq_ok hch
      obtain ⟨hwrite, -⟩ := hcompletes _ _ _ _ _ _ _ hch huser hlinked
      rw [hwrite] at hfail
      cases hfail
    | created => exact absurd rfl (hno _)

/-- Nor does one that creates a catchup and does not add it: that catchup was there before. -/
theorem announced_of_not_added {added : Outcome Error Unit} (hs : AllAnnounced s)
    (hcompletes : CompletesCreation s sur auth catGen)
    (hcreate : (requestedCreation s sur auth catGen).run s.db = (.ok created, db₁))
    (hadd : (addUserCatchup sur.toEnv auth created.cat.streamId).run db₁ = (added, db₂))
    (hno : added ≠ .ok ()) : ∀ x, Linked db₂.streams x → AnnouncedIn db₂.servers s.sent x := by
  have hsame : db₂ = db₁ := by
    rcases addUserCatchup_cases hadd with ⟨rfl, -⟩ | ⟨_, _, _, -, -, -, -, -, hok, -⟩
    · rfl
    · exact absurd hok hno
  obtain ⟨ch, hch, hways⟩ := creation_ok hcreate
  have hvalid : auth.isValid = true :=
    let ⟨_, _, hout⟩ := handsOut_of_ok (congrArg Prod.fst hcreate)
    hout.isValid
  have hsubscribers := hways.subscribers
  cases hways with
  | found =>
    rw [hsame]
    exact hs
  | refused hrefused => exact absurd rfl (hrefused created)
  | created hlinked =>
    obtain ⟨user, -, -, -, huser, -⟩ := findStream_eq_ok hch
    obtain ⟨-, hwrite, hid, htakes, -⟩ := hcompletes _ _ _ _ _ _ _ hch huser hlinked
    obtain ⟨c, hok, -⟩ := addUserCatchup_of_takes (x := sur.fresh) hvalid hid huser hwrite
      fun sub v hsub hv => htakes sub v (hsubscribers ▸ hsub) hv
    exact absurd (congrArg Prod.fst (hadd.symm.trans hok)) hno

/-- A reply behind the announcement is the one that was told. -/
theorem eq_of_announcement_append {r r' : Reply} {before after : List Output}
    {receiver : ClientId} {rid : RequestId} (h : announcement created ++ told sur client id r =
      before ++ .reply receiver rid r' :: after) : before = announcement created ∧ r' = r := by
  unfold announcement told at *
  rcases before with _ | ⟨b, _ | ⟨b', before⟩⟩ <;> split_ifs at h ⊢ <;> simp_all

/-- One request from a state in which the parts were announced: they are afterwards, and if it is
answered with success, everything was done before the reply. -/
theorem delivered_generate {c : Client} {params : Params CatchupGenerateInfo} {s' : State}
    (hc : s.clients client = some c) (hs : AllAnnounced s)
    (hcompletes : ∀ auth catGen, s.loginOf client = some auth → params = .decoded catGen →
      CompletesCreation s sur auth catGen)
    (hrun : ((handleRequestGenerateCatchup sur client id params).run s).2 = s') :
    AllAnnounced s' ∧ ∀ before after receiver rid cat,
      s'.sent = s.sent ++ (before ++ .reply receiver rid (.catchupGenerateSuccess cat) :: after) →
      ∃ auth catGen user channel x server, s.loginOf client = some auth ∧
        params = .decoded catGen ∧ convertFromString sur.beyond auth.uid = some user ∧
        convertFromString sur.beyond catGen.streamId = some channel ∧ cat.streamId = x.text ∧
        Delivered s'.db (s.sent ++ before) user channel x server := by
  have hways := generateRun hc sur id params
  rw [hrun] at hways
  -- What is sent without a success reply.
  have hquiet : ∀ {s'}, Appends NotHandedOut s s' → ∀ before after receiver rid cat,
      s'.sent ≠ s.sent ++ (before ++ .reply receiver rid (.catchupGenerateSuccess cat) :: after) := by
    rintro s' ⟨outs, hsent, houts⟩ before after receiver rid cat hsent'
    rw [hsent, List.append_cancel_left_eq] at hsent'
    exact houts _ (hsent' ▸ List.mem_append_right _ List.mem_cons_self)
  have hstill : ∀ {s'}, Appends NotHandedOut s s' →
      (∀ x, Linked s'.db.streams x → AnnouncedIn s'.db.servers s.sent x) → AllAnnounced s' := by
    rintro s' ⟨outs, hsent, -⟩ h x hx
    rw [hsent]
    exact (h x hx).mono (List.subset_append_left _ _)
  cases hways with
  | closed _ hdb hsent =>
    exact ⟨hstill hsent (hdb ▸ hs), fun _ _ _ _ _ h => absurd h (hquiet hsent _ _ _ _ _)⟩
  | refused =>
    exact ⟨hs, fun _ _ _ _ _ h => absurd h (hquiet (refl_of (Appends _) _) _ _ _ _ _)⟩
  | failed hlogin hparams hcreate hno hdb hsent =>
    exact ⟨hstill hsent (hdb ▸ announced_of_not_ok hs (hcompletes _ _ hlogin hparams) hcreate hno),
      fun _ _ _ _ _ h => absurd h (hquiet hsent _ _ _ _ _)⟩
  | notAdded hlogin hparams hcreate hadd hno hdb hsent =>
    exact ⟨hstill hsent
      (hdb ▸ announced_of_not_added hs (hcompletes _ _ hlogin hparams) hcreate hadd hno),
      fun _ _ _ _ _ h => absurd h (hquiet hsent _ _ _ _ _)⟩
  | @handedOut _ auth catGen created db₁ db₂ hlogin hparams hcreate hadd _ hdb hsent =>
    obtain ⟨hannounced, user, channel, x, server, huser, hchannel, hx, hdelivered⟩ :=
      delivered_of_ok hs (hcompletes _ _ hlogin hparams) hcreate hadd
    rw [← hdb] at hannounced hdelivered
    refine ⟨fun x hx => ?_, fun before after receiver rid cat hreply => ?_⟩
    · rw [hsent]
      exact (hannounced x hx).mono (List.subset_append_left _ _)
    · -- The only reply is the last thing that is sent.
      rw [hsent, List.append_assoc, List.append_cancel_left_eq] at hreply
      obtain ⟨rfl, hcat⟩ := eq_of_announcement_append hreply
      obtain rfl := Reply.catchupGenerateSuccess.inj hcat
      exact ⟨auth, catGen, user, channel, x, server, hlogin, hparams, huser, hchannel, hx,
        hdelivered⟩

/-! ### Runs -/

/-- The other events link nothing. -/
theorem allAnnounced_action {e : Event} (hs : AllAnnounced s) (he : CompletesCatchup s e) :
    AllAnnounced ((e.action).run s).2 := by
  by_cases hcatchup : ∃ client sur id params, e = .request client sur ⟨id, .generateCatchup params⟩
  · obtain ⟨client, sur, id, params, rfl⟩ := hcatchup
    by_cases hopen : (s.clients client).any (fun c => c.kind = .subscriber) = true
    · rw [run_action_request hopen]
      obtain ⟨c, hc, -⟩ := (Option.any_eq_true _ _).mp hopen
      refine (delivered_generate hc hs (fun auth catGen hlogin hparams => ?_) rfl).1
      subst hparams
      exact he hopen auth hlogin
    · rw [run_action_request_of_not hopen]
      exact hs
  · by_cases hdatabase : ∃ db, e = .database db
    · obtain ⟨db, rfl⟩ := hdatabase
      exact he
    · have hwrites : AnyWrites s.db ((e.action).run s).2.db :=
        writes_action (fun client sur id params h => hcatchup ⟨client, sur, id, params, h⟩)
          fun db h => hdatabase ⟨db, h⟩
      have hlinks := LinksKept.of_writes hwrites
      obtain ⟨outs, hsent, -⟩ := appends_action (s := s) e
      intro x hx
      rw [hlinks.servers, hsent]
      exact (hs x (hlinks.linked x hx)).mono (List.subset_append_left _ _)

/-- In a run from a state in which all parts were announced, in which no creation stops behind the
link, whatever is handed out is a part of its channel, attached to a server, among the catchups of
the subscriber, and was announced with that server before the reply. -/
theorem handed_out_announced (start : State) (hstart : AllAnnounced start) (es : List Event)
    (hes : Meets step (fun o e => ∀ s, o = some s → CompletesCatchup s e) (some start) es)
    (fs : List Event) (client : ClientId) (sur : Surroundings) (id : RequestId)
    (params : Params CatchupGenerateInfo)
    (hfs : fs ++ [.request client sur ⟨id, .generateCatchup params⟩] <+: es) (s s' : State)
    (hs : run step (some start) fs = some s)
    (hs' : step (some s) (.request client sur ⟨id, .generateCatchup params⟩) = some s')
    (before after : List Output) (receiver : ClientId) (rid : RequestId) (cat : CatchupInfo)
    (hreply : s'.sent =
      s.sent ++ (before ++ .reply receiver rid (.catchupGenerateSuccess cat) :: after)) :
    ∃ auth catGen user channel x server, s.loginOf client = some auth ∧
      params = .decoded catGen ∧ convertFromString sur.beyond auth.uid = some user ∧
      convertFromString sur.beyond catGen.streamId = some channel ∧ cat.streamId = x.text ∧
      Delivered s'.db (s.sent ++ before) user channel x server := by
  obtain ⟨gs, rfl⟩ := hfs
  rw [List.append_assoc, meets_append, hs] at hes
  obtain ⟨hfs, he, -⟩ := hes
  have hannounced : AllAnnounced s := by
    refine run_invariant (P := fun o : Option State => ∀ s, o = some s → AllAnnounced s)
      (fun o e he ho s' hs' => ?_) hfs (fun s h => Option.some.inj h ▸ hstart) s hs
    cases o with
    | none => cases hs'
    | some s =>
      rw [step_eq_some hs']
      exact allAnnounced_action (ho s rfl) (he s rfl)
  have hrun := step_eq_some hs'
  by_cases hopen : (s.clients client).any (fun c => c.kind = .subscriber) = true
  · rw [run_action_request hopen] at hrun
    obtain ⟨c, hc, -⟩ := (Option.any_eq_true _ _).mp hopen
    refine (delivered_generate hc hannounced (fun auth catGen hlogin hparams => ?_) hrun.symm).2 _ _
      _ _ _ hreply
    subst hparams
    exact he s rfl hopen auth hlogin
  · -- Nothing was sent.
    rw [run_action_request_of_not hopen] at hrun
    rw [hrun, List.self_eq_append_right] at hreply
    cases before <;> cases hreply

end

/-! A subscriber that asks again after the server could not be written to. -/

namespace Sample

/-- The write that attaches the catchup is lost. -/
def surUnattached : Surroundings := { sur with write := fun w => w ≠ .attachServer }

def catchupUnattached : List Event :=
  [.accept 7 .subscriber, .request 7 sur (loginRequest (oid 5)),
    .request 7 surUnattached catchupRequest]

/-- What the requester is told the second time. -/
def foundCatchup : Output → Bool
  | .reply 7 _ (.catchupGenerateSuccess cat) => cat.streamId = (oid 15).text
  | _ => false

def isCatchupCreated : Output → Bool
  | .broadcast (.catchupCreated _ _) => true
  | _ => false

/-- Nothing was a part before. -/
theorem allAnnounced_newsStart : AllAnnounced newsStart := by
  rintro x ⟨d, hd, a, ha, -⟩
  obtain rfl := List.mem_singleton.mp hd
  have hkey : streamPartsField ∈ Doc.keys newsChannel.fields :=
    List.mem_map_of_mem (f := Prod.fst) ha
  exact absurd hkey (by decide)

end Sample

open Sample in
/-- The second request finds the catchup of the first one among the parts. -/
theorem catchup_handed_out_unannounced :
    AllAnnounced newsStart ∧ ∃ s s', run step (some newsStart) catchupUnattached = some s ∧
      step (some s) (.request 7 sur catchupRequest) = some s' ∧
      (∃ o ∈ s'.sent.drop s.sent.length, foundCatchup o = true) ∧
      (∀ server, ¬AttachedTo s'.db.servers server (oid 15)) ∧
      ∀ server cat, .broadcast (.catchupCreated server cat) ∉ s'.sent := by
  refine ⟨allAnnounced_newsStart, _, _, rfl, rfl, ⟨_, List.mem_singleton_self _, rfl⟩, ?_, ?_⟩
  · rintro server ⟨d, hd, -, a, ha, hx⟩
    obtain rfl : d = newsServer := List.mem_singleton.mp hd
    obtain rfl := Bson.array.inj (Prod.mk.inj (List.mem_singleton.mp ha)).2
    exact absurd (Bson.oid.inj (List.mem_singleton.mp hx)) (by decide)
  · intro server cat hmem
    have hnone : ∀ o ∈ (((run step (some newsStart) (catchupUnattached ++
        [.request 7 sur catchupRequest])).map State.sent).getD []), isCatchupCreated o = false := by
      decide
    cases hnone _ hmem

namespace Sample

/-- The subscriber has no array of catchups yet, and no write is lost. -/
theorem completes_catchupOnce :
    Meets step (fun o e => ∀ s, o = some s → CompletesCatchup s e) (some newsStart) catchupOnce := by
  refine ⟨fun _ _ => trivial, fun _ _ => trivial, fun s hs _ auth _ => ?_, trivial⟩
  have hfields : ∃ s₀, run step (some newsStart) (catchupOnce.take 2) = some s₀ ∧
      ∀ sub ∈ s₀.db.subscribers.docs, userCatchupsField ∉ sub.fields.keys := ⟨_, rfl, by decide⟩
  obtain ⟨s₀, hs₀, hfields⟩ := hfields
  obtain rfl := Option.some.inj (hs₀.symm.trans hs)
  intro ch bsid serverOid outputUrls c c' user _ _ _
  have htext : decide ((oid 15).text ≠ "") = true := by decide
  refine ⟨rfl, rfl, by decide, fun sub v hsub hv => ?_, htext⟩
  have hkey : userCatchupsField ∈ sub.fields.keys :=
    List.mem_map_of_mem (f := Prod.fst) (Doc.mem_of_get? hv)
  exact absurd hkey (hfields sub (Collection.mem_of_find? hsub))

end Sample

open Sample in
theorem handed_out_announced_sample :
    ∃ s s', run step (some newsStart) (catchupOnce.take 2) = some s ∧
      step (some s) (.request 7 sur catchupRequest) = some s' ∧
      ∀ before after receiver rid cat, s'.sent =
          s.sent ++ (before ++ .reply receiver rid (.catchupGenerateSuccess cat) :: after) →
        ∃ auth catGen user channel x server, s.loginOf 7 = some auth ∧
          (.decoded ⟨(oid 2).text, "Evening news", 10, 20⟩ : Params CatchupGenerateInfo) =
            .decoded catGen ∧
          convertFromString sur.beyond auth.uid = some user ∧
          convertFromString sur.beyond catGen.streamId = some channel ∧ cat.streamId = x.text ∧
          Delivered s'.db (s.sent ++ before) user channel x server :=
  ⟨_, _, rfl, rfl, fun before after receiver rid cat => handed_out_announced newsStart
    allAnnounced_newsStart catchupOnce completes_catchupOnce (catchupOnce.take 2) 7 sur (some "2") _
    (List.prefix_refl _) _ _ rfl rfl before after receiver rid cat⟩

end LoadBalance
